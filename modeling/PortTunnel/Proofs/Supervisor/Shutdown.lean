import PortTunnel.Proofs.Supervisor.Order

/-!
# How runs end

Whatever sessions and links do and in whatever order, a run that is over has left
every forward closed.  A session that closes reports so on its own; the forwards
whose sessions do not do so in time are closed by the run, which names them.

Two things are found out by looking back along a trail.  A forward that the run
names had a session that was not over at the deadline.  A forward that shows as
closed and is not named was closed by its own session.
-/

namespace PortTunnel.Supervisor.Run

open Tunnel

/-- When the deadline came the session of the forward was not over. -/
def LateAtDeadline (start : Run) (labels : List Label) (id : String) : Prop :=
  ∃ before after run, labels = before ++ .deadline :: after ∧ Trail Goes start before run ∧
    run.isOver id = false

/-- The session of the forward reported that it closed, and that was put on the board. -/
def ClosedItself (start : Run) (labels : List Label) (id : String) : Prop :=
  ∃ before told after run session next failure,
    labels = before ++ .fleet (.session id told) :: after ∧ Trail Goes start before run ∧
      run.fleet.sessions.get? id = some session ∧
        session.step told = some (next, some (.state .closed failure)) ∧
          run.fleet.board.isOpen id = true

/-- The run has closed the forward itself, or may come to do so. -/
def Suspects (run : Run) (id : String) : RunStage → Prop
  | .sweeping left chosen timeouts =>
      id ∈ timeouts ∨ chosen = some id ∨ (id ∈ left ∧ ¬ run.fleet.ShowsClosed id)
  | .finishing _ timeouts => id ∈ timeouts
  | .over report => id ∈ report.timeouts
  | .starting _ | .watching | .stopping => False

section Looking

variable {forwards : List Forward} {start run next : Run} {labels : List Label} {label : Label}
  {id : String}

theorem LateAtDeadline.later (late : LateAtDeadline start labels id) (label : Label) :
    LateAtDeadline start (labels ++ [label]) id := by
  obtain ⟨before, after, run, rfl, trail, notOver⟩ := late
  exact ⟨before, after ++ [label], run, by simp, trail, notOver⟩

theorem ClosedItself.later (closed : ClosedItself start labels id) (label : Label) :
    ClosedItself start (labels ++ [label]) id := by
  obtain ⟨before, told, after, run, session, next, failure, rfl, rest⟩ := closed
  exact ⟨before, told, after ++ [label], run, session, next, failure, by simp, rest⟩

/-- While the stage stays, a run comes to suspect nobody. -/
theorem Suspects.of_keeps {stage : RunStage} (suspects : Suspects next id stage)
    (keeps : run.fleet.Keeps next.fleet) : Suspects run id stage := by
  cases stage with
  | sweeping left chosen timeouts =>
      rcases suspects with named | chosen | ⟨listed, unclosed⟩
      · exact .inl named
      · exact .inr (.inl chosen)
      · exact .inr (.inr ⟨listed, fun closed => unclosed (keeps.showsClosed closed)⟩)
  | _ => exact suspects

/-- A run suspects a forward from the deadline on, if its session is not over then. -/
theorem Suspects.move (orderly : Orderly forwards run) (moves : Moves run label next)
    (suspects : Suspects next id next.stage) :
    Suspects run id run.stage ∨ (label = .deadline ∧ run.isOver id = false) := by
  cases moves with
  | requestShutdown | join => exact .inl suspects
  | cancelToken => exact .inl (suspects.of_keeps run.keeps_stopAll)
  | fleet permitted moves => exact .inl (suspects.of_keeps moves.keeps)
  | startAgain | start | started | heed => exact suspects.elim
  | allClosed | allStopped => exact (List.not_mem_nil suspects).elim
  | deadline stage_eq =>
      rcases suspects with named | chosen | ⟨listed, unclosed⟩
      · exact (List.not_mem_nil named).elim
      · cases chosen
      · have notTearing := orderly.progress.notTearing (.inr stage_eq)
        have started := orderly.roster.registered id listed
        have notOver : ¬ run.isOver id = true := fun ended =>
          unclosed (showsClosed_of_isOver orderly.sound orderly.intact notTearing started ended)
        exact .inr ⟨rfl, Bool.eq_false_iff.2 notOver⟩
  | inspectClosed stage_eq listed closed =>
      rw [stage_eq]
      rcases suspects with named | chosen | ⟨later, unclosed⟩
      · exact .inl (.inl named)
      · cases chosen
      · exact .inl (.inr (.inr ⟨(List.mem_filter.1 later).1, unclosed⟩))
  | inspectOpen stage_eq listed unclosed =>
      rw [stage_eq]
      rcases suspects with named | chosen | ⟨later, unclosed⟩
      · exact .inl (.inl named)
      · cases chosen
        exact .inl (.inr (.inr ⟨listed, unclosed⟩))
      · exact .inl (.inr (.inr ⟨(List.mem_filter.1 later).1, unclosed⟩))
  | @forceClosed left timeouts chosen stage_eq =>
      rw [stage_eq]
      have keeps := run.fleet.keeps_report chosen (some run.timeoutReport)
      rcases suspects with named | none_chosen | ⟨listed, unclosed⟩
      · rcases List.mem_append.1 named with before | last
        · exact .inl (.inl before)
        · obtain rfl : id = chosen := by simpa using last
          exact .inl (.inr (.inl rfl))
      · cases none_chosen
      · exact .inl (.inr (.inr ⟨listed, fun closed => unclosed (keeps.showsClosed closed)⟩))
  | swept stage_eq =>
      rw [stage_eq]
      exact .inl (.inl (List.mem_mergeSort.1 suspects))
  | finish stage_eq =>
      rw [stage_eq]
      exact .inl suspects

/-- A forward comes to show as closed because its session reports so or because the run
closes it, and then the run names it. -/
theorem Moves.closes (moves : Moves run label next) (closed : next.fleet.ShowsClosed id) :
    run.fleet.ShowsClosed id ∨ id ∈ next.stage.timeouts ∨
      ∃ told session after failure, label = .fleet (.session id told) ∧
        run.fleet.sessions.get? id = some session ∧
          session.step told = some (after, some (.state .closed failure)) ∧
            run.fleet.board.isOpen id = true := by
  cases moves with
  | @fleet label fleet permitted moves =>
      rcases moves.sessions_and_board with
        ⟨-, board_eq⟩ | ⟨mover, session, told, after, report, goes, label_eq⟩
      · left
        unfold Fleet.ShowsClosed at closed ⊢
        rwa [board_eq] at closed
      · have reported : (run.fleet.report mover report).ShowsClosed id := by
          unfold Fleet.ShowsClosed at closed ⊢
          rwa [goes.board_eq] at closed
        rcases (run.fleet.showsClosed_report_iff mover id report).1 reported with
          before | ⟨rfl, isOpen, closing⟩
        · exact .inl before
        · obtain ⟨report, rfl, shown⟩ := Option.bind_eq_some_iff.1 closing
          cases report with
          | state state failure =>
              obtain rfl : state = .closed := Option.some.inj shown
              have own := goes.moves.isAnswer_eq_false
              rcases label_eq with rfl | answers
              · exact .inr (.inr ⟨told, session, after, failure, rfl, goes.found,
                  goes.moves.step, isOpen⟩)
              · rw [own] at answers
                cases answers
          | retry => cases shown
  | @start forward left stage_eq unknown =>
      left
      simp only [Fleet.ShowsClosed, Fleet.start, Status.Board.state?,
        Status.Board.get?_register] at closed
      split at closed
      · cases closed
      · exact closed
  | @forceClosed left timeouts chosen stage_eq =>
      rcases (run.fleet.showsClosed_report_iff chosen id _).1 closed with before | ⟨rfl, -⟩
      · exact .inl before
      · exact .inr (.inl (List.mem_append_right _ (List.mem_singleton_self id)))
  | _ => exact .inl closed

/-- The forwards that a run has closed itself remain named. -/
theorem Moves.timeouts_subset (moves : Moves run label next) :
    run.stage.timeouts ⊆ next.stage.timeouts := by
  intro id named
  cases moves with
  | forceClosed stage_eq =>
      rw [stage_eq] at named
      exact List.mem_append_left _ named
  | swept stage_eq =>
      rw [stage_eq] at named
      exact List.mem_mergeSort.2 named
  | requestShutdown | cancelToken | fleet | join => exact named
  | startAgain stage_eq | start stage_eq | started stage_eq | heed stage_eq | allClosed stage_eq
  | allStopped stage_eq | deadline stage_eq | inspectClosed stage_eq | inspectOpen stage_eq
  | finish stage_eq =>
      rw [stage_eq] at named
      exact named

end Looking

section Trails

variable {terms : Terms} {sharing : Bool} {forwards : List Forward} {labels : List Label}
  {run : Run} {id : String}

theorem late_of_trail (trail : Trail Goes (ofForwards terms sharing forwards) labels run)
    (suspects : Suspects run id run.stage) :
    LateAtDeadline (ofForwards terms sharing forwards) labels id := by
  induction trail with
  | here => exact suspects.elim
  | @onward labels middle label last before step ih =>
      rcases suspects.move (orderly_of_trail before) (step_eq_some_iff.1 step) with
        suspected | ⟨rfl, notOver⟩
      · exact (ih suspected).later label
      · exact ⟨labels, [], middle, rfl, before, notOver⟩

theorem named_or_closedItself_of_trail
    (trail : Trail Goes (ofForwards terms sharing forwards) labels run)
    (closed : run.fleet.ShowsClosed id) :
    id ∈ run.stage.timeouts ∨ ClosedItself (ofForwards terms sharing forwards) labels id := by
  induction trail with
  | here => cases closed
  | @onward labels middle label last before step ih =>
      have moves := step_eq_some_iff.1 step
      rcases moves.closes closed with shown | named | ⟨told, session, after, failure, rfl, own⟩
      · rcases ih shown with named | itself
        · exact .inl (moves.timeouts_subset named)
        · exact .inr (itself.later label)
      · exact .inl named
      · exact .inr ⟨labels, told, [], middle, session, after, failure, rfl, before, own⟩

/-- A run that is over stays so, whatever is left of its fleet does. -/
theorem stage_eq_of_over {report : RunReport} (ended : run.stage = .over report)
    {more : List Label} {late : Run} (trail : Trail Goes run more late) :
    late.stage = .over report := by
  induction trail with
  | here => exact ended
  | onward _ step stays =>
      cases step_eq_some_iff.1 step with
      | requestShutdown | cancelToken | fleet => exact stays
      | join stage_eq =>
          rcases stage_eq with stage_eq | stage_eq
          · rw [stays] at stage_eq
            cases stage_eq
          · rw [stays] at stage_eq
            cases stage_eq
      | startAgain stage_eq | start stage_eq | started stage_eq | heed stage_eq
      | allClosed stage_eq | allStopped stage_eq | deadline stage_eq | inspectClosed stage_eq
      | inspectOpen stage_eq | forceClosed stage_eq | swept stage_eq | finish stage_eq =>
          rw [stays] at stage_eq
          cases stage_eq

section Over

variable {report : RunReport}

/-- The snapshot of a run that is over shows what has been started. -/
theorem mem_names_iff_started
    (trail : Trail Goes (ofForwards terms sharing forwards) labels run)
    (ended : run.stage = .over report) : id ∈ report.snapshot.names ↔ run.fleet.Started id := by
  have orderly := orderly_of_trail trail
  have progress := orderly.progress
  rw [ended] at progress
  rw [NameMap.mem_names_iff, orderly.sound.entered, progress.2.2.2 id, Option.isSome_map,
    Option.isSome_iff_exists]

/-- By then every forward has been started. -/
theorem mem_names_iff_declared
    (trail : Trail Goes (ofForwards terms sharing forwards) labels run)
    (ended : run.stage = .over report) :
    id ∈ report.snapshot.names ↔ ∃ forward ∈ forwards, forward.id = id := by
  have roster := (orderly_of_trail trail).roster
  rw [mem_names_iff_started trail ended]
  constructor
  · exact roster.declared id
  · rintro ⟨forward, member, rfl⟩
    rcases roster.accounted forward member with started | waiting
    · exact started
    · rw [ended] at waiting
      exact (List.not_mem_nil waiting).elim

theorem allIn_closed_of_over
    (trail : Trail Goes (ofForwards terms sharing forwards) labels run)
    (ended : run.stage = .over report) : report.snapshot.allIn .closed = true := by
  have progress := (orderly_of_trail trail).progress
  rw [ended] at progress
  obtain ⟨-, -, closed, entries_eq⟩ := progress
  apply List.all_eq_true.2
  intro standing member
  obtain ⟨id, found⟩ := (NameMap.mem_values_iff _ _).1 member
  have named := (NameMap.mem_names_iff _ _).2 ⟨standing, found⟩
  have shown := closed id ((mem_names_iff_started trail ended).1 named)
  simpa [Fleet.ShowsClosed, Status.Board.state?, entries_eq id, found] using shown

/-- The run closes no forward itself if all sessions are over at the deadline. -/
theorem timeouts_eq_nil
    (trail : Trail Goes (ofForwards terms sharing forwards) labels run)
    (ended : run.stage = .over report)
    (punctual : ∀ before after middle, labels = before ++ .deadline :: after →
      Trail Goes (ofForwards terms sharing forwards) before middle →
        ∀ id, middle.isOver id = true) : report.timeouts = [] := by
  apply List.eq_nil_iff_forall_not_mem.2
  intro id named
  have suspects : Suspects run id run.stage := by
    rw [ended]
    exact named
  obtain ⟨before, after, middle, labels_eq, first, notOver⟩ := late_of_trail trail suspects
  rw [punctual before after middle labels_eq first id] at notOver
  cases notOver

/-- When a run is over, exactly the forwards it was given are shown, and all as closed.  The
names of those that did not close in time are sorted and distinct, all of them had been
started, and there are none if every session was over at the deadline.  All others were
closed by their own sessions.  Nothing that happens later changes what is shown. -/
theorem run_closes_every_forward
    (trail : Trail Goes (ofForwards terms sharing forwards) labels run)
    (ended : run.stage = .over report) :
    report.snapshot.allIn .closed = true ∧
      (∀ id, id ∈ report.snapshot.names ↔ ∃ forward ∈ forwards, forward.id = id) ∧
      report.timeouts.Pairwise (· < ·) ∧
      (∀ id ∈ report.timeouts, id ∈ report.snapshot.names) ∧
      ((∀ before after middle, labels = before ++ .deadline :: after →
        Trail Goes (ofForwards terms sharing forwards) before middle →
          ∀ id, middle.isOver id = true) → report.timeouts = []) ∧
      (∀ id ∈ report.snapshot.names,
        id ∈ report.timeouts ∨ ClosedItself (ofForwards terms sharing forwards) labels id) ∧
      ∀ more late, Trail Goes run more late → late.stage = .over report ∧
        ∀ id, late.fleet.board.entries.get? id = (report.snapshot.get? id).map (·.entry) := by
  have progress := (orderly_of_trail trail).progress
  rw [ended] at progress
  obtain ⟨sorted, started, closed, -⟩ := progress
  have shown_iff (id : String) : id ∈ report.snapshot.names ↔ run.fleet.Started id :=
    mem_names_iff_started trail ended
  refine ⟨allIn_closed_of_over trail ended, fun id => mem_names_iff_declared trail ended, sorted,
    fun id named => (shown_iff id).2 (started id named), timeouts_eq_nil trail ended, ?_, ?_⟩
  · intro id shown
    have either := named_or_closedItself_of_trail trail (closed id ((shown_iff id).1 shown))
    rwa [ended] at either
  · intro more late later
    have stays := stage_eq_of_over ended later
    have progress := (orderly_of_trail (trail.trans later)).progress
    rw [stays] at progress
    exact ⟨stays, progress.2.2.2⟩

end Over

end Trails

/-- Another forward for runs on fixed inputs. -/
def secondForward : Forward :=
  { Session.sampleForward with localPort := 8081 }

/-- A run of two forwards, one of them given twice.  The first closes in time and the second
does not, but goes on for a while after the run is over. -/
def partlyTimedOutLabels : List Label :=
  let first := Session.sampleForward.id
  let second := secondForward.id
  [.start, .start, .start, .started, .fleet (.session first .bound),
    .fleet (.session first .announce), .fleet (.session first .call),
    .fleet (.session second .bound), .requestShutdown, .heed, .fleet (.session first .heed),
    .fleet (.session first .close), .join first, .deadline, .inspect second, .forceClosed,
    .swept, .finish, .fleet (.session second .announce), .fleet (.session second .drop)]

theorem partly_timed_out_run_closes_every_forward :
    ∃ run report,
      Trail Goes (ofForwards {} true [Session.sampleForward, secondForward, secondForward])
        partlyTimedOutLabels run ∧
        run.stage = .over report ∧ report.timeouts = [secondForward.id] ∧
          report.snapshot.allIn .closed = true := by
  obtain ⟨run, report, followed, ended, timeouts_eq⟩ :
      ∃ run report,
        follow step (ofForwards {} true [Session.sampleForward, secondForward, secondForward])
          partlyTimedOutLabels = some run ∧
          run.stage = .over report ∧ report.timeouts = [secondForward.id] :=
    ⟨_, _, rfl, rfl, List.mergeSort_singleton _⟩
  have trail := follow_eq_some_iff.1 followed
  exact ⟨run, report, trail, ended, timeouts_eq, (run_closes_every_forward trail ended).1⟩

end PortTunnel.Supervisor.Run
