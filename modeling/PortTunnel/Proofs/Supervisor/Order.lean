import PortTunnel.Proofs.Supervisor.Runs

/-!
# The order of a run

The invariant of runs has five parts: what has been started, what the board says of
sessions that have closed, when sessions may be torn down, which sessions have been
joined, and how far the stage has come.  Each part is kept by every move, on the
strength of all parts before the move.
-/

namespace PortTunnel.Supervisor

open Tunnel

/-- The forwards that have still to be started. -/
def RunStage.unstarted : RunStage → List Forward
  | .starting left => left
  | _ => []

/-- The forwards that the run has closed itself. -/
def RunStage.timeouts : RunStage → List String
  | .sweeping _ _ timeouts | .finishing _ timeouts => timeouts
  | .over report => report.timeouts
  | .starting _ | .watching | .stopping => []

namespace Run

/-! ## The parts of the invariant -/

/-- Every forward has been started or is still to be, and nothing else has been. -/
structure Roster (forwards : List Forward) (run : Run) : Prop where
  accounted : ∀ forward ∈ forwards,
    run.fleet.Started forward.id ∨ forward ∈ run.stage.unstarted
  declared : ∀ id, run.fleet.Started id → ∃ forward ∈ forwards, forward.id = id
  unstarted : ∀ forward ∈ run.stage.unstarted, forward ∈ forwards
  registered : ∀ id ∈ run.registry, run.fleet.Started id

/-- No session is torn down before the run decides so. -/
def Intact (run : Run) : Prop :=
  run.tearingDown = false → run.fleet.Every fun session => session.stage ≠ .dropped

/-- A session leaves the registry after it has closed. -/
structure Joined (run : Run) : Prop where
  nodup : run.registry.Nodup
  closed : ∀ id, run.fleet.Started id → id ∉ run.registry → run.fleet.ShowsClosed id

/-- What a stage says about the run that has come to it. -/
def Progress (run : Run) : RunStage → Prop
  | .starting _ | .watching | .stopping => run.tearingDown = false
  | .sweeping left chosen timeouts =>
      (left ++ chosen.toList ++ timeouts).Nodup ∧
        (∀ id ∈ left ++ chosen.toList ++ timeouts, run.fleet.Started id) ∧
          ∀ id, run.fleet.Started id → run.fleet.ShowsClosed id ∨ id ∈ left ++ chosen.toList
  | .finishing _ timeouts =>
      timeouts.Pairwise (· < ·) ∧ (∀ id ∈ timeouts, run.fleet.Started id) ∧ run.fleet.AllClosed
  | .over report =>
      report.timeouts.Pairwise (· < ·) ∧ (∀ id ∈ report.timeouts, run.fleet.Started id) ∧
        run.fleet.AllClosed ∧
          ∀ id, run.fleet.board.entries.get? id = (report.snapshot.get? id).map (·.entry)

/-- The invariant of runs. -/
structure Orderly (forwards : List Forward) (run : Run) : Prop where
  roster : Roster forwards run
  sound : run.fleet.Sound
  intact : Intact run
  joined : Joined run
  progress : Progress run run.stage

variable {forwards : List Forward} {run next : Run} {label : Label}

/-! ## What moves leave alone -/

theorem keeps_stopAll (run : Run) : run.fleet.Keeps run.stopAll.fleet := by
  constructor
  case started_iff =>
    intro id
    cases found : run.fleet.sessions.get? id <;> simp [Fleet.Started, stopAll, found]
  case entered_eq => exact fun _ => rfl
  case entry_eq => exact fun _ _ => rfl

/-- Only a start changes which forwards there are. -/
theorem Moves.keeps (moves : Moves run label next) (later : label ≠ .start) :
    run.fleet.Keeps next.fleet := by
  cases moves with
  | fleet permitted moves => exact moves.keeps
  | cancelToken | heed => exact run.keeps_stopAll
  | @forceClosed _ _ id => exact run.fleet.keeps_report id (some run.timeoutReport)
  | startAgain | start => exact (later rfl).elim
  | _ => exact .refl _

/-- Only a start changes which forwards are to be started. -/
theorem Moves.unstarted_eq (moves : Moves run label next) (later : label ≠ .start) :
    next.stage.unstarted = run.stage.unstarted := by
  cases moves with
  | startAgain | start => exact (later rfl).elim
  | requestShutdown | cancelToken | fleet | join => rfl
  | started stage_eq | heed stage_eq | allClosed stage_eq | allStopped stage_eq
  | deadline stage_eq | inspectClosed stage_eq | inspectOpen stage_eq | forceClosed stage_eq
  | swept stage_eq | finish stage_eq =>
      rw [stage_eq]
      rfl

/-- Only a start adds to the registry. -/
theorem Moves.registry_subset (moves : Moves run label next) (later : label ≠ .start) :
    next.registry ⊆ run.registry := by
  cases moves with
  | startAgain | start => exact (later rfl).elim
  | join => exact fun id listed => (List.mem_filter.1 listed).1
  | _ => exact List.Subset.refl _

/-! ## The roster -/

theorem Roster.start {forward : Forward} {left : List Forward}
    (roster : Roster forwards run) (stage_eq : run.stage = .starting (forward :: left))
    (starts : ∀ id, next.fleet.Started id ↔ id = forward.id ∨ run.fleet.Started id)
    (unstarted_eq : next.stage.unstarted = left)
    (registered : ∀ id ∈ next.registry, id = forward.id ∨ id ∈ run.registry) :
    Roster forwards next := by
  have unstarted : ∀ other ∈ forward :: left, other ∈ forwards := by
    have before := roster.unstarted
    rwa [stage_eq] at before
  constructor
  case accounted =>
    intro other member
    rw [starts, unstarted_eq]
    rcases roster.accounted other member with started | waiting
    · exact .inl (.inr started)
    · rw [stage_eq] at waiting
      rcases List.mem_cons.1 waiting with rfl | later
      · exact .inl (.inl rfl)
      · exact .inr later
  case declared =>
    intro id started
    rcases (starts id).1 started with rfl | before
    · exact ⟨forward, unstarted forward List.mem_cons_self, rfl⟩
    · exact roster.declared id before
  case unstarted =>
    rw [unstarted_eq]
    exact fun other waiting => unstarted other (List.mem_cons_of_mem forward waiting)
  case registered =>
    intro id listed
    rw [starts]
    rcases registered id listed with same | before
    · exact .inl same
    · exact .inr (roster.registered id before)

theorem Roster.move (roster : Roster forwards run) (moves : Moves run label next) :
    Roster forwards next := by
  by_cases starting : label = .start
  · subst starting
    cases moves with
    | @startAgain forward left stage_eq known =>
        have starts (id : String) : run.fleet.Started id ↔
            id = forward.id ∨ run.fleet.Started id := by
          constructor
          · exact .inr
          · rintro (rfl | started)
            · exact roster.registered _ known
            · exact started
        exact roster.start stage_eq starts rfl fun id listed => .inr listed
    | start stage_eq unknown =>
        apply roster.start stage_eq (fun id => Fleet.started_start_iff) rfl
        intro id listed
        rcases List.mem_append.1 listed with before | last
        · exact .inr before
        · exact .inl (List.mem_singleton.1 last)
  · have keeps := moves.keeps starting
    have unstarted_eq := moves.unstarted_eq starting
    constructor
    case accounted =>
      intro forward member
      rw [keeps.started_iff, unstarted_eq]
      exact roster.accounted forward member
    case declared =>
      intro id started
      exact roster.declared id ((keeps.started_iff id).1 started)
    case unstarted =>
      rw [unstarted_eq]
      exact roster.unstarted
    case registered =>
      intro id listed
      exact keeps.started (roster.registered id (moves.registry_subset starting listed))

/-! ## Sessions and the board -/

theorem sound_stopAll (sound : run.fleet.Sound) : run.stopAll.fleet.Sound := by
  constructor
  case entered => exact sound.entered_of_keeps run.keeps_stopAll
  case closed =>
    intro id session found closed
    simp only [stopAll, NameMap.get?_mapValues, Option.map_eq_some_iff] at found
    obtain ⟨before, found, rfl⟩ := found
    exact sound.closed id before found closed

theorem sound_move (sound : run.fleet.Sound) (moves : Moves run label next) :
    next.fleet.Sound := by
  cases moves with
  | fleet permitted moves => exact sound.moves moves
  | cancelToken | heed => exact sound_stopAll sound
  | start => exact sound.start _ _ _
  | @forceClosed _ _ id => exact sound.report id (some run.timeoutReport)
  | _ => exact sound

/-! ## No session is torn down early -/

/-- What holds of sessions whether or not they are asked to stop still holds once all are. -/
theorem every_stopAll {property : Session → Prop} (every : run.fleet.Every property)
    (kept : ∀ session, property session → property { session with stopRequested := true }) :
    run.stopAll.fleet.Every property := by
  intro id session found
  simp only [stopAll, NameMap.get?_mapValues, Option.map_eq_some_iff] at found
  obtain ⟨before, found, rfl⟩ := found
  exact kept before (every id before found)

theorem Intact.move (intact : Intact run) (moves : Moves run label next) : Intact next := by
  intro notTearing
  cases moves with
  | fleet permitted moves =>
      apply (intact notTearing).moves moves
      intro id session told after report present goes label_eq dropped
      rcases goes.dropped_iff.1 dropped with already | rfl
      · exact present already
      · rcases label_eq with rfl | answers
        · have tearing : run.tearingDown = true := permitted
          rw [notTearing] at tearing
          cases tearing
        · cases answers
  | cancelToken | heed => exact every_stopAll (intact notTearing) fun session present => present
  | start => exact (intact notTearing).start nofun
  | deadline => cases notTearing
  | @forceClosed _ _ id => exact (intact notTearing).report id (some run.timeoutReport)
  | _ => exact intact notTearing

/-- A session that is over has closed, unless sessions are being torn down. -/
theorem showsClosed_of_isOver (sound : run.fleet.Sound) (intact : Intact run)
    (notTearing : run.tearingDown = false) {id : String} (started : run.fleet.Started id)
    (ended : run.isOver id = true) : run.fleet.ShowsClosed id := by
  obtain ⟨session, found⟩ := started
  apply sound.closed id session found
  have present := intact notTearing id session found
  simp only [isOver, found, Session.isOver] at ended
  cases stage_eq : session.stage with
  | closed => rfl
  | dropped => exact (present stage_eq).elim
  | _ => simp [stage_eq] at ended

/-- No session is torn down while runs watch or wait. -/
theorem Progress.notTearing (progress : Progress run run.stage)
    (stage_eq : run.stage = .watching ∨ run.stage = .stopping) : run.tearingDown = false := by
  rcases stage_eq with stage_eq | stage_eq
  · rw [stage_eq] at progress
    exact progress
  · rw [stage_eq] at progress
    exact progress

/-! ## Joined sessions -/

theorem Joined.start {forward : Forward} (joined : Joined run)
    (unknown : forward.id ∉ run.registry) (stage : RunStage) :
    Joined
      { run with
        stage := stage
        fleet := run.fleet.start run.terms.retry run.tokenCancelled forward
        registry := run.registry ++ [forward.id] } := by
  constructor
  case nodup =>
    rw [List.nodup_append]
    refine ⟨joined.nodup, by simp, ?_⟩
    intro id listed other member same
    obtain rfl := List.mem_singleton.1 member
    exact unknown (same ▸ listed)
  case closed =>
    intro id started unlisted
    rw [List.mem_append, List.mem_singleton, not_or] at unlisted
    have before := (Fleet.started_start_iff.1 started).resolve_left unlisted.2
    simp only [Fleet.ShowsClosed, Fleet.start, Status.Board.state?, Status.Board.get?_register,
      if_neg unlisted.2]
    exact joined.closed id before unlisted.1

theorem Joined.move (orderly : Orderly forwards run) (moves : Moves run label next) :
    Joined next := by
  obtain ⟨nodup, closed⟩ := orderly.joined
  -- All moves but a start leave the closed forwards closed.
  have keep (keeps : run.fleet.Keeps next.fleet) (id : String) (started : next.fleet.Started id)
      (unlisted : id ∉ run.registry) : next.fleet.ShowsClosed id :=
    keeps.showsClosed (closed id ((keeps.started_iff id).1 started) unlisted)
  cases moves with
  | fleet permitted moves => exact ⟨nodup, keep moves.keeps⟩
  | cancelToken | heed => exact ⟨nodup, keep run.keeps_stopAll⟩
  | @forceClosed _ _ id =>
      exact ⟨nodup, keep (run.fleet.keeps_report id (some run.timeoutReport))⟩
  | start stage_eq unknown => exact orderly.joined.start unknown _
  | @join id stage_eq listed ended =>
      constructor
      case nodup => exact nodup.filter _
      case closed =>
        intro other started unlisted
        by_cases same : other = id
        · subst same
          have notTearing := orderly.progress.notTearing stage_eq
          exact showsClosed_of_isOver orderly.sound orderly.intact notTearing started ended
        · apply closed other started
          intro before
          exact unlisted (List.mem_filter.2 ⟨before, by simpa using same⟩)
  | _ => exact ⟨nodup, keep (.refl _)⟩

/-! ## Progress -/

/-- What a stage says stays true while the run stays in it. -/
theorem Progress.keep {stage : RunStage} (progress : Progress run stage)
    (keeps : run.fleet.Keeps next.fleet) (tearingDown_eq : next.tearingDown = run.tearingDown)
    (sound : run.fleet.Sound) : Progress next stage := by
  cases stage with
  | starting | watching | stopping => exact tearingDown_eq.trans progress
  | sweeping left chosen timeouts =>
      obtain ⟨nodup, started, accounted⟩ := progress
      refine ⟨nodup, fun id member => keeps.started (started id member), ?_⟩
      intro id there
      rcases accounted id ((keeps.started_iff id).1 there) with shown | listed
      · exact .inl (keeps.showsClosed shown)
      · exact .inr listed
  | finishing exit timeouts =>
      obtain ⟨sorted, started, closed⟩ := progress
      exact ⟨sorted, fun id member => keeps.started (started id member), keeps.allClosed closed⟩
  | «over» report =>
      obtain ⟨sorted, started, closed, entries_eq⟩ := progress
      refine ⟨sorted, fun id member => keeps.started (started id member),
        keeps.allClosed closed, ?_⟩
      intro id
      rw [← entries_eq id]
      cases found : run.fleet.board.entries.get? id with
      | some entry =>
          have entered : (run.fleet.board.entries.get? id).isSome = true := by simp [found]
          rw [keeps.entry_eq id (closed id ((sound.entered id).2 entered)), found]
      | none =>
          have absent := keeps.entered_eq id
          rw [found] at absent
          exact Option.isNone_iff_eq_none.1 (by simpa using absent)

/-- Timeouts in the order in which they are reported. -/
theorem pairwise_lt_mergeSort {timeouts : List String} (nodup : timeouts.Nodup) :
    (timeouts.mergeSort (· ≤ ·)).Pairwise (· < ·) := by
  have ordered : (timeouts.mergeSort (· ≤ ·)).Pairwise fun first second =>
      decide (first ≤ second) = true :=
    List.pairwise_mergeSort (fun first second third => by simpa using String.le_trans)
      (fun first second => by simpa using String.le_total first second) timeouts
  have sorted : (timeouts.mergeSort (· ≤ ·)).Pairwise (· ≤ ·) := by simpa using ordered
  have distinct : (timeouts.mergeSort (· ≤ ·)).Pairwise (· ≠ ·) :=
    (List.mergeSort_perm timeouts _).nodup_iff.2 nodup
  exact (sorted.and distinct).imp fun ⟨le, ne⟩ => Std.lt_of_le_of_ne le ne

/-- An entry of a list may as well stand at its end. -/
theorem filter_append_perm {left : List String} {id : String} (nodup : left.Nodup)
    (listed : id ∈ left) : (left.filter (· != id) ++ [id]).Perm left := by
  rw [← nodup.erase_eq_filter]
  exact (List.perm_append_singleton id _).trans (List.perm_cons_erase listed).symm

/-- A forward that the run has reported closed shows as closed. -/
theorem showsClosed_timeoutReport {id : String} (sound : run.fleet.Sound)
    (started : run.fleet.Started id) :
    (run.fleet.report id (some run.timeoutReport)).ShowsClosed id := by
  apply (run.fleet.showsClosed_report_iff id id _).2
  rcases Status.Board.isOpen_or_closed ((sound.entered id).1 started) with isOpen | shown
  · exact .inr ⟨rfl, isOpen, rfl⟩
  · exact .inl shown

theorem Progress.move (orderly : Orderly forwards run) (moves : Moves run label next) :
    Progress next next.stage := by
  obtain ⟨roster, sound, intact, joined, progress⟩ := orderly
  cases moves with
  | requestShutdown | join => exact progress.keep (.refl _) rfl sound
  | cancelToken => exact progress.keep run.keeps_stopAll rfl sound
  | fleet permitted moves => exact progress.keep moves.keeps rfl sound
  | startAgain stage_eq | start stage_eq | started stage_eq | heed stage_eq =>
      rw [stage_eq] at progress
      exact progress
  | allClosed stage_eq none_left | allStopped stage_eq none_left =>
      refine ⟨.nil, nofun, ?_⟩
      intro id started
      apply joined.closed id started
      rw [none_left]
      exact List.not_mem_nil
  | deadline stage_eq =>
      refine ⟨by simpa using joined.nodup, ?_, ?_⟩
      · intro id member
        exact roster.registered id (by simpa using member)
      · intro id started
        by_cases listed : id ∈ run.registry
        · exact .inr (by simpa using listed)
        · exact .inl (joined.closed id started listed)
  | @inspectClosed left timeouts id stage_eq listed closed =>
      rw [stage_eq] at progress
      obtain ⟨nodup, started, accounted⟩ := progress
      simp only [Option.toList_none, List.append_nil] at nodup started accounted
      have fewer : (left.filter (· != id) ++ timeouts).Sublist (left ++ timeouts) :=
        List.filter_sublist.append_right timeouts
      simp only [Progress, Option.toList_none, List.append_nil]
      refine ⟨nodup.sublist fewer, fun other member => started other (fewer.mem member), ?_⟩
      intro other there
      by_cases same : other = id
      · exact .inl (same ▸ closed)
      · rcases accounted other there with shown | later
        · exact .inl shown
        · exact .inr (List.mem_filter.2 ⟨later, by simpa using same⟩)
  | @inspectOpen left timeouts id stage_eq listed unclosed =>
      rw [stage_eq] at progress
      obtain ⟨nodup, started, accounted⟩ := progress
      simp only [Option.toList_none, List.append_nil] at nodup started accounted
      have perm := filter_append_perm (List.nodup_append.1 nodup).1 listed
      have permAll := perm.append_right timeouts
      refine ⟨permAll.nodup_iff.2 nodup, ?_, ?_⟩
      · intro other member
        exact started other (permAll.mem_iff.1 member)
      · intro other there
        rcases accounted other there with shown | later
        · exact .inl shown
        · exact .inr (perm.mem_iff.2 later)
  | @forceClosed left timeouts id stage_eq =>
      rw [stage_eq] at progress
      obtain ⟨nodup, started, accounted⟩ := progress
      have keeps := run.fleet.keeps_report id (some run.timeoutReport)
      have perm : (left ++ [] ++ (timeouts ++ [id])).Perm (left ++ [id] ++ timeouts) := by
        rw [List.append_nil, List.append_assoc]
        exact List.perm_append_comm.append_left left
      refine ⟨perm.nodup_iff.2 nodup, ?_, ?_⟩
      · intro other member
        exact keeps.started (started other (perm.mem_iff.1 member))
      · intro other there
        have before := (keeps.started_iff other).1 there
        rcases accounted other before with shown | later
        · exact .inl (keeps.showsClosed shown)
        · rcases List.mem_append.1 later with listed | chosen
          · exact .inr (List.mem_append_left _ listed)
          · obtain rfl : other = id := by simpa using chosen
            exact .inl (showsClosed_timeoutReport sound before)
  | @swept timeouts stage_eq =>
      rw [stage_eq] at progress
      obtain ⟨nodup, started, accounted⟩ := progress
      refine ⟨pairwise_lt_mergeSort (by simpa using nodup), ?_, ?_⟩
      · intro id member
        exact started id (by simpa using member)
      · intro id there
        exact (accounted id there).resolve_right (by simp)
  | finish stage_eq =>
      rw [stage_eq] at progress
      obtain ⟨sorted, started, closed⟩ := progress
      refine ⟨sorted, started, closed, ?_⟩
      intro id
      simp [Fleet.snapshot, Status.Board.get?_snapshot, Option.map_map, Function.comp_def]

/-! ## The whole invariant -/

/-- Every move keeps the invariant. -/
theorem Orderly.move (orderly : Orderly forwards run) (moves : Moves run label next) :
    Orderly forwards next where
  roster := orderly.roster.move moves
  sound := sound_move orderly.sound moves
  intact := orderly.intact.move moves
  joined := Joined.move orderly moves
  progress := Progress.move orderly moves

/-- The invariant holds along every trail of a run. -/
theorem orderly_of_trail {terms : Terms} {sharing : Bool} {labels : List Label}
    (trail : Trail Goes (ofForwards terms sharing forwards) labels run) : Orderly forwards run := by
  have absent (id : String) : ¬ (ofForwards terms sharing forwards).fleet.Started id := by
    rintro ⟨session, found⟩
    cases found
  have begins : Orderly forwards (ofForwards terms sharing forwards) :=
    { roster :=
        ⟨fun forward member => .inr member, fun id started => (absent id started).elim,
          fun forward member => member, fun id listed => (List.not_mem_nil listed).elim⟩
      sound :=
        ⟨fun id => ⟨fun started => (absent id started).elim, fun entered => by cases entered⟩,
          fun id session found => (absent id ⟨session, found⟩).elim⟩
      intact := fun _ id session found => (absent id ⟨session, found⟩).elim
      joined := ⟨.nil, fun id started => (absent id started).elim⟩
      progress := rfl }
  exact trail.preserves begins fun orderly step => orderly.move (step_eq_some_iff.1 step)

end Run

end PortTunnel.Supervisor
