import PortTunnel.Proofs.Supervisor.Histories
import PortTunnel.Proofs.Tunnel.Causes

/-!
# What the exit code says

The exit code is computed from flags that many reports have written: whether a forward
has ever been active, its last failure and its state.  Here they are told from the
labels of the run.  A forward has been active exactly if a report of that was put on
the board, which happens only before the report of closing.

A forward whose listener was refused has never been active.  The report of closing that
the run makes itself names another failure.  So as long as the cluster answers with
connection failures only, no forward that has been active counts as failed.
-/

namespace PortTunnel

open Tunnel

namespace Status.Entry

/-- A forward that has been active remains so for good. -/
theorem told_everActive (entry : Entry) (report : Report) :
    (entry.told report).everActive = (entry.everActive || report.isActive) := by
  cases report with
  | state state failure => cases state <;> simp [told, reported, Report.isActive]
  | retry number delay => simp [told, Report.isActive]

theorem toldAll_everActive (entry : Entry) (reports : List Report) :
    (entry.toldAll reports).everActive = (entry.everActive || reports.any Report.isActive) := by
  induction reports using List.reverseRecOn with
  | nil => simp [toldAll]
  | append_singleton reports report ih =>
      simp [told_everActive, ih, Bool.or_assoc]

/-- The failure of an entry was there before or has been reported. -/
theorem told_lastFailure {entry : Entry} {report : Report} {failure : Failure}
    (failure_eq : (entry.told report).lastFailure = some failure) :
    entry.lastFailure = some failure ∨ ∃ state, report = .state state (some failure) := by
  cases report with
  | retry number delay => exact .inl failure_eq
  | state state told =>
      have told_eq : state ≠ .active → told.or entry.lastFailure = some failure := by
        intro inactive
        cases state <;> first | exact failure_eq | exact (inactive rfl).elim
      cases state with
      | active => cases failure_eq
      | _ =>
          rcases Option.or_eq_some_iff.1 (told_eq nofun) with rfl | ⟨rfl, before⟩
          · exact .inr ⟨_, rfl⟩
          · exact .inl before

theorem toldAll_lastFailure {entry : Entry} {reports : List Report} {failure : Failure}
    (failure_eq : (entry.toldAll reports).lastFailure = some failure) :
    entry.lastFailure = some failure ∨ ∃ state, .state state (some failure) ∈ reports := by
  induction reports using List.reverseRecOn with
  | nil => exact .inl failure_eq
  | append_singleton reports report ih =>
      rw [toldAll_concat] at failure_eq
      rcases told_lastFailure failure_eq with before | ⟨state, rfl⟩
      · exact (ih before).imp_right fun ⟨state, member⟩ => ⟨state, List.mem_append_left _ member⟩
      · exact .inr ⟨state, List.mem_append_right _ (List.mem_singleton_self _)⟩

end Status.Entry

namespace Status.Snapshot

/-- A snapshot without some of its forwards. -/
def without (snapshot : Snapshot) (ids : List String) : Snapshot :=
  ⟨snapshot.toList.filter fun entry => !ids.contains entry.1, snapshot.sorted.filter _⟩

theorem isHealthy_iff {snapshot : Snapshot} :
    snapshot.isHealthy = true ↔
      ∀ id standing, snapshot.get? id = some standing → standing.isFailed = false := by
  simp only [isHealthy, List.all_eq_true, NameMap.mem_values_iff, Bool.not_eq_true',
    forall_exists_index]
  exact forall_comm

theorem get?_without_eq_some_iff {snapshot : Snapshot} {ids : List String} {id : String}
    {standing : Standing} :
    (snapshot.without ids).get? id = some standing ↔
      snapshot.get? id = some standing ∧ id ∉ ids := by
  rw [← NameMap.mem_toList_iff, ← NameMap.mem_toList_iff]
  simp [without]

end Status.Snapshot

namespace Supervisor

theorem RunReport.exitCode_eq_zero_iff {report : RunReport} :
    report.exitCode = 0 ↔ report.exit = .shutdownRequested ∧ report.snapshot.isHealthy = true := by
  simp [exitCode, isSuccess]

/-! ## Activity on the board -/

namespace Fleet

/-- The board shows that a forward has been active. -/
def ShowsActivity (fleet : Fleet) (id : String) : Prop :=
  ∃ entry, fleet.board.entries.get? id = some entry ∧ entry.everActive = true

/-- A report shows activity if it is accepted. -/
theorem showsActivity_report_iff (fleet : Fleet) (id other : String) (report : Option Report) :
    (fleet.report id report).ShowsActivity other ↔
      fleet.ShowsActivity other ∨
        (other = id ∧ fleet.board.isOpen id = true ∧ report.any Report.isActive = true) := by
  by_cases same : other = id
  · subst same
    cases report with
    | none => simp [Fleet.report]
    | some report =>
        cases isOpen : fleet.board.isOpen other with
        | true =>
            obtain ⟨entry, found, open_⟩ := Status.Board.isOpen_iff.1 isOpen
            simp [ShowsActivity, get?_report_of_open found open_, found,
              Status.Entry.told_everActive]
        | false =>
            have entry_eq : (fleet.report other (some report)).board.entries.get? other =
                fleet.board.entries.get? other := by
              rw [report_board]
              cases report with
              | state => rw [Status.Board.get?_report, if_neg (by simp [isOpen])]
              | retry => rw [Status.Board.get?_reportRetry, if_neg (by simp [isOpen])]
            simp [ShowsActivity, entry_eq]
  · simp [ShowsActivity, get?_report_of_ne same, same]

theorem showsActivity_advance_iff (fleet : Fleet) (id other : String) (session after : Session)
    (report : Option Report) :
    (fleet.advance id session after report).ShowsActivity other ↔
      fleet.ShowsActivity other ∨
        (other = id ∧ fleet.board.isOpen id = true ∧ report.any Report.isActive = true) := by
  rw [← showsActivity_report_iff, ShowsActivity, advance_board]
  rfl

end Fleet

namespace Run

/-- The session of a forward reported that it was active, and that was put on the board, which
shows it as closed only later. -/
def WasActive (start : Run) (labels : List Label) (id : String) : Prop :=
  ∃ before told after run session next failure,
    labels = before ++ .fleet (.session id told) :: after ∧ Trail Goes start before run ∧
      run.fleet.sessions.get? id = some session ∧
        session.step told = some (next, some (.state .active failure)) ∧
          run.fleet.board.isOpen id = true

section Activity

variable {forwards : List Forward} {run next : Run} {labels : List Label} {label : Label}
  {id : String}

/-- No answer makes a session report that it is active. -/
theorem isAnswer_eq_false_of_active {session after : Session} {told : Session.Label}
    {report : Option Report} (moves : Session.Moves session told after report)
    (active : report.any Report.isActive = true) : told.isAnswer = false := by
  cases moves <;> first | rfl | cases active

theorem exists_active {report : Option Report} (active : report.any Report.isActive = true) :
    ∃ failure, report = some (.state .active failure) := by
  rcases report with - | ⟨state, failure⟩ | ⟨number, delay⟩
  · cases active
  · cases state with
    | active => exact ⟨failure, rfl⟩
    | _ => cases active
  · cases active

/-- A forward comes to show activity when its session reports it. -/
theorem Moves.showsActivity_iff (sound : run.fleet.Sound) (filling : Filling forwards run)
    (moves : Moves run label next) :
    next.fleet.ShowsActivity id ↔
      run.fleet.ShowsActivity id ∨
        ∃ told session after failure, label = .fleet (.session id told) ∧
          run.fleet.sessions.get? id = some session ∧
            session.step told = some (after, some (.state .active failure)) ∧
              run.fleet.board.isOpen id = true := by
  -- Only labels of a session come with reports of activity.
  have other (unlike : ∀ told, label ≠ .fleet (.session id told))
      (same : next.fleet.ShowsActivity id ↔ run.fleet.ShowsActivity id) :
      next.fleet.ShowsActivity id ↔
        run.fleet.ShowsActivity id ∨
          ∃ told session after failure, label = .fleet (.session id told) ∧
            run.fleet.sessions.get? id = some session ∧
              session.step told = some (after, some (.state .active failure)) ∧
                run.fleet.board.isOpen id = true := by
    rw [same]
    refine ⟨.inl, fun either => either.resolve_right ?_⟩
    rintro ⟨told, -, -, -, label_eq, -⟩
    exact unlike told label_eq
  cases moves with
  | @fleet label fleet permitted moves =>
      cases moves with
      | link => exact other (by simp) Iff.rfl
      | @answer _ label _ _ session _ told report _ _ _ told_eq moves =>
          refine other (by simp) ?_
          have silent : report.any Report.isActive = false := by
            rw [Bool.eq_false_iff]
            intro active
            cases (Fleet.isAnswer_of_answerLabel? told_eq).symm.trans
              (isAnswer_eq_false_of_active moves active)
          rw [Fleet.showsActivity_advance_iff, silent]
          simp [Fleet.ShowsActivity, Fleet.setLink]
      | @session mover told session after report unanswered found moves =>
          rw [Fleet.showsActivity_advance_iff]
          refine or_congr_right ⟨?_, ?_⟩
          · rintro ⟨rfl, isOpen, active⟩
            obtain ⟨failure, rfl⟩ := exists_active active
            exact ⟨told, session, after, failure, rfl, found, moves.step, isOpen⟩
          · rintro ⟨told', session', after', failure, label_eq, found', step, isOpen⟩
            cases label_eq
            cases found.symm.trans found'
            cases moves.step.symm.trans step
            exact ⟨rfl, isOpen, rfl⟩
  | @start forward left stage_eq unknown =>
      refine other (by simp) ?_
      by_cases same : id = forward.id
      · have absent : run.fleet.board.entries.get? id = none := by
          by_contra present
          have started := (sound.entered id).2 (Option.isSome_iff_ne_none.2 present)
          exact unknown (same ▸ (filling _ stage_eq).listed id started)
        rw [same] at absent ⊢
        simp [Fleet.ShowsActivity, Fleet.start, Status.Board.get?_register, absent]
      · simp [Fleet.ShowsActivity, Fleet.start, Status.Board.get?_register, same]
  | @forceClosed left timeouts chosen stage_eq =>
      refine other (by simp) ?_
      rw [Fleet.showsActivity_report_iff]
      simp [timeoutReport, Report.isActive]
  | _ => exact other (by simp) Iff.rfl

/-- No move opens a forward again. -/
theorem Moves.showsClosed (moves : Moves run label next) (sound : run.fleet.Sound)
    (filling : Filling forwards run) (closed : run.fleet.ShowsClosed id) :
    next.fleet.ShowsClosed id := by
  by_cases starting : label = .start
  · subst starting
    cases moves with
    | startAgain => exact closed
    | @start forward left stage_eq unknown =>
        have different : id ≠ forward.id := by
          rintro rfl
          refine unknown ((filling _ stage_eq).listed _ ((sound.entered _).2 ?_))
          obtain ⟨entry, found, -⟩ := Option.map_eq_some_iff.1 closed
          rw [found]
          rfl
        simpa [Fleet.ShowsClosed, Fleet.start, Status.Board.state?, Status.Board.get?_register,
          different] using closed
  · exact (moves.keeps starting).showsClosed closed

/-- A session that has reported nothing has not been active. -/
theorem Shown.not_showsActivity {forward : Forward} {history : List Session.Entry}
    (shown : Shown run forward history) (nothing : Session.reports history = []) :
    ¬ run.fleet.ShowsActivity forward.id := by
  rintro ⟨entry, found, active⟩
  cases shown with
  | own shown =>
      cases found.symm.trans shown
      rw [nothing] at active
      cases active
  | @abandoned before after history_eq _ _ shown =>
      cases found.symm.trans shown
      rw [history_eq, Session.reports, List.filterMap_append] at nothing
      have nothingBefore : Session.reports before = [] := (List.append_eq_nil_iff.1 nothing).1
      rw [nothingBefore] at active
      cases active

theorem wasActive_concat_iff {start : Run} (trail : Trail Goes start labels run) :
    WasActive start (labels ++ [label]) id ↔
      WasActive start labels id ∨
        ∃ told session after failure, label = .fleet (.session id told) ∧
          run.fleet.sessions.get? id = some session ∧
            session.step told = some (after, some (.state .active failure)) ∧
              run.fleet.board.isOpen id = true := by
  constructor
  · rintro ⟨before, told, after, middle, session, next, failure, labels_eq, first, rest⟩
    rcases concat_eq_append_cons labels_eq with ⟨rfl, label_eq, -⟩ | ⟨between, before_eq, -⟩
    · obtain rfl : middle = run := first.functional
        (fun step step' => Option.some.inj (step.symm.trans step')) trail
      exact .inr ⟨told, session, next, failure, label_eq, rest⟩
    · exact .inl ⟨before, told, between, middle, session, next, failure, before_eq, first, rest⟩
  · rintro (⟨before, told, after, middle, session, next, failure, rfl, first, rest⟩ |
      ⟨told, session, after, failure, rfl, rest⟩)
    · exact ⟨before, told, after ++ [label], middle, session, next, failure, by simp, first, rest⟩
    · exact ⟨labels, told, [], run, session, after, failure, rfl, trail, rest⟩

end Activity

section Trails

variable {terms : Terms} {sharing : Bool} {forwards : List Forward} {labels : List Label}
  {run : Run} {id : String}

/-- The board shows which forwards have been active. -/
theorem showsActivity_iff_of_trail
    (trail : Trail Goes (ofForwards terms sharing forwards) labels run) :
    run.fleet.ShowsActivity id ↔ WasActive (ofForwards terms sharing forwards) labels id := by
  induction trail with
  | here =>
      constructor
      · rintro ⟨entry, ⟨⟩, -⟩
      · rintro ⟨before, told, after, middle, session, next, failure, labels_eq, -⟩
        simp at labels_eq
  | onward trail step ih =>
      rw [wasActive_concat_iff trail, ← ih, (step_eq_some_iff.1 step).showsActivity_iff
        (orderly_of_trail trail).sound (filling_of_trail trail)]

/-- A forward whose listener was refused is closed without having been active. -/
theorem closed_of_refused (trail : Trail Goes (ofForwards terms sharing forwards) labels run)
    {refusal : BindRefusal} (refused : .fleet (.session id (.refused refusal)) ∈ labels) :
    run.fleet.ShowsClosed id ∧ ¬ run.fleet.ShowsActivity id := by
  induction trail with
  | here => exact (List.not_mem_nil refused).elim
  | @onward labels run label next trail step ih =>
      have moves := step_eq_some_iff.1 step
      have sound := (orderly_of_trail trail).sound
      have filling := filling_of_trail trail
      rcases List.mem_append.1 refused with before | last
      · obtain ⟨closed, inactive⟩ := ih before
        refine ⟨moves.showsClosed sound filling closed, ?_⟩
        rw [moves.showsActivity_iff sound filling, not_or]
        refine ⟨inactive, ?_⟩
        rintro ⟨-, -, -, -, -, -, -, isOpen⟩
        cases isOpen.symm.trans (Status.Board.not_isOpen_of_closed closed)
      · obtain rfl := List.mem_singleton.1 last
        cases moves with
        | fleet permitted moves =>
            cases moves with
            | session unanswered found moves =>
                obtain ⟨asked, history, recorded⟩ := records_of_trail trail id _ found
                cases moves with
                | refused stage_eq =>
                    have story := story_of_trail recorded.trail
                    rw [stage_eq] at story
                    refine ⟨?_, ?_⟩
                    · rw [Fleet.ShowsClosed, Fleet.advance_board]
                      apply (run.fleet.showsClosed_report_iff id id _).2
                      rcases Status.Board.isOpen_or_closed ((sound.entered id).1 ⟨_, found⟩) with
                        isOpen | closed
                      · exact .inr ⟨rfl, isOpen, rfl⟩
                      · exact .inl closed
                    · rw [Fleet.showsActivity_advance_iff, not_or]
                      refine ⟨recorded.id_eq ▸ recorded.shown.not_showsActivity story, ?_⟩
                      rintro ⟨-, -, active⟩
                      cases active

/-- A forward that has been active does not end on its local port. -/
theorem lastFailure_of_active (trail : Trail Goes (ofForwards terms sharing forwards) labels run)
    (connects : Connects labels) {entry : Status.Entry}
    (found : run.fleet.board.entries.get? id = some entry) (active : entry.everActive = true) :
    entry.lastFailure.map (·.kind) ≠ some .bindFailed := by
  have entered := (orderly_of_trail trail).sound.entered id
  obtain ⟨session, present⟩ := entered.2 (by rw [found]; rfl)
  obtain ⟨asked, history, recorded⟩ := records_of_trail trail id session present
  have found' := recorded.id_eq.symm ▸ found
  intro bindFailed
  obtain ⟨failure, failure_eq, kind_eq⟩ := Option.map_eq_some_iff.1 bindFailed
  cases recorded.shown with
  | abandoned history_eq unclosed named shown =>
      cases found'.symm.trans shown
      cases failure_eq
      cases kind_eq
  | own shown =>
      cases found'.symm.trans shown
      rcases Status.Entry.toldAll_lastFailure failure_eq with before | ⟨state, reported⟩
      · cases before
      · have told := connects.kind_eq_of_recorded recorded
        rcases expected_of_reported recorded.trail (fun _ => rfl) told reported with
          connectFailed | ⟨refusal, refused⟩
        · cases kind_eq.symm.trans connectFailed
        · rw [Status.Entry.toldAll_everActive, refused.reports_eq] at active
          cases active

/-- What the report of a run says of the forwards that it was given. -/
structure Truthful (start : Run) (forwards : List Forward) (labels : List Label)
    (report : RunReport) : Prop where
  /-- The exit code is zero exactly if the run was shut down and every forward had been active. -/
  exitCode_eq_zero_iff : report.exitCode = 0 ↔
    report.exit = .shutdownRequested ∧ ∀ forward ∈ forwards, WasActive start labels forward.id
  /-- The forwards that never were active are the ones that count as failed. -/
  isFailed_iff : ∀ id standing, report.snapshot.get? id = some standing →
    (standing.isFailed = true ↔ ¬ WasActive start labels id)
  /-- A forward whose listener was refused was never active. -/
  refused : ∀ id refusal, .fleet (.session id (.refused refusal)) ∈ labels →
    ¬ WasActive start labels id
  /-- Forwards that the run closed itself make no difference if they had been active. -/
  abandoned : ∀ gone : List String,
    (∀ id ∈ gone, id ∈ report.timeouts ∧ WasActive start labels id) →
      RunReport.exitCode { report with snapshot := report.snapshot.without gone } = report.exitCode

/-- If the links of a run fail with connection failures only, its exit code is zero exactly if it
was shut down and each of its forwards was active before it was closed. -/
theorem exit_code_tells_truth
    (trail : Trail Goes (ofForwards terms sharing forwards) labels run) {report : RunReport}
    (ended : run.stage = .over report) (connects : Connects labels) :
    Truthful (ofForwards terms sharing forwards) forwards labels report := by
  have progress := (orderly_of_trail trail).progress
  rw [ended] at progress
  obtain ⟨-, -, -, entries_eq⟩ := progress
  have isFailed_iff (id : String) (standing : Status.Standing)
      (found : report.snapshot.get? id = some standing) :
      standing.isFailed = true ↔
        ¬ WasActive (ofForwards terms sharing forwards) labels id := by
    have entry_eq : run.fleet.board.entries.get? id = some standing.entry := by
      rw [entries_eq, found]
      rfl
    rw [← showsActivity_iff_of_trail trail, Fleet.ShowsActivity, entry_eq]
    cases active : standing.entry.everActive with
    | false => simp [Status.Standing.isFailed, active]
    | true =>
        have unfailed := lastFailure_of_active trail connects entry_eq active
        simp [Status.Standing.isFailed, active, unfailed]
  constructor
  case isFailed_iff => exact isFailed_iff
  case exitCode_eq_zero_iff =>
    rw [RunReport.exitCode_eq_zero_iff, Status.Snapshot.isHealthy_iff]
    refine and_congr_right fun _ => ?_
    constructor
    · intro healthy forward member
      have shown := (mem_names_iff_declared trail ended).2 ⟨forward, member, rfl⟩
      obtain ⟨standing, found⟩ := (NameMap.mem_names_iff _ _).1 shown
      by_contra inactive
      cases (healthy _ standing found).symm.trans ((isFailed_iff _ standing found).2 inactive)
    · intro active id standing found
      have shown := (NameMap.mem_names_iff _ _).2 ⟨standing, found⟩
      obtain ⟨forward, member, rfl⟩ := (mem_names_iff_declared trail ended).1 shown
      rw [Bool.eq_false_iff, ne_eq, isFailed_iff _ standing found, not_not]
      exact active forward member
  case refused =>
    intro id refusal told
    rw [← showsActivity_iff_of_trail trail]
    exact (closed_of_refused trail told).2
  case abandoned =>
    intro gone innocent
    have same : (report.snapshot.without gone).isHealthy = report.snapshot.isHealthy := by
      rw [Bool.eq_iff_iff, Status.Snapshot.isHealthy_iff, Status.Snapshot.isHealthy_iff]
      constructor
      · intro healthy id standing found
        by_cases left : id ∈ gone
        · rw [Bool.eq_false_iff, ne_eq, isFailed_iff id standing found, not_not]
          exact (innocent id left).2
        · exact healthy id standing (Status.Snapshot.get?_without_eq_some_iff.2 ⟨found, left⟩)
      · intro healthy id standing found
        exact healthy id standing (Status.Snapshot.get?_without_eq_some_iff.1 found).1
    simp [RunReport.exitCode, RunReport.isSuccess, same]

end Trails

/-- A run of two forwards.  The first becomes active with its second call and closes in time, the
second becomes active at once and is late. -/
def lateLabels : List Label :=
  let first := Session.sampleForward.id
  let second := secondForward.id
  [.start, .start, .started, .fleet (.session first .bound), .fleet (.session first .announce),
    .fleet (.session first .call), .fleet (.link "dev" (.establish (first, 0))),
    .fleet (.link "dev" (.notEstablished (first, 0) (.connectFailed "refused"))),
    .fleet (.session first .degrade), .fleet (.session first (.schedule [])),
    .fleet (.session first .wake), .fleet (.session first .announce), .fleet (.session first .call),
    .fleet (.link "dev" (.establish (first, 1))),
    .fleet (.link "dev" (.established (first, 1) false)), .fleet (.link "dev" (.call (first, 1))),
    .fleet (.link "dev" (.answered (first, 1) (.ok ()))), .fleet (.session first .activate),
    .fleet (.session second .bound), .fleet (.session second .announce),
    .fleet (.session second .call), .fleet (.link "dev" (.proceed (second, 0))),
    .fleet (.link "dev" (.call (second, 0))), .fleet (.link "dev" (.answered (second, 0) (.ok ()))),
    .fleet (.session second .activate), .requestShutdown, .heed, .fleet (.session first .heed),
    .fleet (.session first .drained), .fleet (.session first .close), .join first, .deadline,
    .inspect second, .forceClosed, .swept, .finish]

theorem connects_lateLabels : Connects lateLabels := by
  intro name label failure happened failure_eq
  simp only [lateLabels, List.mem_cons, reduceCtorEq, Label.fleet.injEq, Fleet.Label.link.injEq,
    List.not_mem_nil, false_or, or_false] at happened
  rcases happened with ⟨-, rfl⟩ | ⟨-, rfl⟩ | ⟨-, rfl⟩ | ⟨-, rfl⟩ | ⟨-, rfl⟩ | ⟨-, rfl⟩ | ⟨-, rfl⟩ |
    ⟨-, rfl⟩ | ⟨-, rfl⟩
  all_goals
    cases failure_eq
    try rfl

theorem late_active_run_succeeds :
    ∃ run report,
      Trail Goes (ofForwards {} true [Session.sampleForward, secondForward]) lateLabels run ∧
        run.stage = .over report ∧ Connects lateLabels ∧ report.timeouts = [secondForward.id] ∧
          report.exitCode = 0 ∧
            ∀ forward ∈ [Session.sampleForward, secondForward],
              WasActive (ofForwards {} true [Session.sampleForward, secondForward]) lateLabels
                forward.id := by
  obtain ⟨run, report, followed, ended, timeouts_eq, code_eq⟩ :
      ∃ run report,
        follow step (ofForwards {} true [Session.sampleForward, secondForward]) lateLabels =
          some run ∧ run.stage = .over report ∧ report.timeouts = [secondForward.id] ∧
            report.exitCode = 0 :=
    ⟨_, _, rfl, rfl, List.mergeSort_singleton _, rfl⟩
  have trail := follow_eq_some_iff.1 followed
  have truthful := exit_code_tells_truth trail ended connects_lateLabels
  exact ⟨run, report, trail, ended, connects_lateLabels, timeouts_eq, code_eq,
    (truthful.exitCode_eq_zero_iff.1 code_eq).2⟩

end Run

end Supervisor

end PortTunnel
