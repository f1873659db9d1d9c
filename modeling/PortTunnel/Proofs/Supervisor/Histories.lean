import PortTunnel.Proofs.Cluster.Link
import PortTunnel.Proofs.Supervisor.Retries
import PortTunnel.Proofs.Supervisor.Starts

/-!
# The history of a session in its run

A run tells a session what to do by labels of the session itself, by answers to its
requests and by asking all sessions to stop.  Picked out of the run these make up a
history of the session alone, so all that holds along the trail of a session holds in
every run.

The board shows what the session has reported in that history.  Only the run may add
to it, when it closes a forward whose session is late; whatever the session reports
after that is not put on the board.
-/

namespace PortTunnel

open Tunnel

/-! ## Failures that are told -/

/-- The failure that a label of a link tells its request. -/
def Cluster.Link.Label.failure? {Id : Type} : Cluster.Link.Label Id → Option Failure
  | .notEstablished _ failure | .answered _ (.error failure) => some failure
  | _ => none

/-- A session hears of the failure that is the answer to its call. -/
theorem Tunnel.Session.eq_error_of_answerLabel? {session : Session} {call : Nat}
    {answer : Except Failure Unit} {told : Session.Label} {failure : Failure}
    (told_eq : session.answerLabel? call answer = some told)
    (failure_eq : told.failure? = some failure) : answer = .error failure := by
  revert told_eq
  fun_cases Session.answerLabel? session call answer <;> intro told_eq <;> cases told_eq
  all_goals
    cases failure_eq
    try rfl

/-- The answer to a request tells the failure of its label. -/
theorem Cluster.Link.failure?_of_step {Id : Type} [DecidableEq Id] {link next : Cluster.Link Id}
    {label : Label Id} {failure : Failure}
    (step : link.step label = some (next, some (.error failure))) :
    label.failure? = some failure := by
  cases Link.step_eq_some_iff.1 step <;> rfl

namespace Supervisor

/-! ## What a fleet tells a session -/

namespace Fleet

/-- A report on one forward leaves the entries of all others. -/
theorem get?_report_of_ne {fleet : Fleet} {id other : String} (different : other ≠ id)
    (report : Option Report) :
    (fleet.report id report).board.entries.get? other = fleet.board.entries.get? other := by
  rw [report_board]
  rcases report with - | ⟨state, failure⟩ | ⟨attempt, delay⟩
  · rfl
  · rw [Status.Board.get?_report, if_neg fun accepted => different accepted.1]
  · rw [Status.Board.get?_reportRetry, if_neg fun accepted => different accepted.1]

/-- A label of a fleet tells a session something: a label of its own, or the answer to one of
its requests. -/
inductive Label.Tells : Label → String → Session.Label → Prop
  | own {told : Session.Label} (id : String) (unanswered : told.isAnswer = false) :
      Tells (.session id told) id told
  | answer {label : Cluster.Link.Label CallId} {told : Session.Label} (name : String)
      (answers : told.isAnswer = true)
      (failure_eq : ∀ failure, told.failure? = some failure → label.failure? = some failure) :
      Tells (.link name label) label.id.1 told

/-- Either no session goes on or the one that the label tells something. -/
theorem Moves.sessions_and_tells {fleet next : Fleet} {label : Label}
    (moves : Moves fleet label next) :
    (next.sessions = fleet.sessions ∧ next.board = fleet.board) ∨
      ∃ id session told after report, MovesSession fleet id session told after report next ∧
        label.Tells id told := by
  cases moves with
  | link => exact .inl ⟨rfl, rfl⟩
  | @answer name label link answer session after told report own step found told_eq moves =>
      have tells : Label.Tells (.link name label) label.id.1 told := by
        refine .answer name (isAnswer_of_answerLabel? told_eq) fun failure failure_eq => ?_
        obtain rfl := Session.eq_error_of_answerLabel? told_eq failure_eq
        exact Cluster.Link.failure?_of_step step
      refine .inr ⟨_, _, _, _, _, ⟨found, moves, by simp [setLink], ?_⟩, tells⟩
      rw [advance_board, report_board, report_board]
      rfl
  | session unanswered found moves =>
      exact .inr ⟨_, _, _, _, _, ⟨found, moves, by simp, by simp⟩, .own _ unanswered⟩

end Fleet

namespace Run

/-- What a session has heard in a run: what a label of its fleet told it, or the request to
stop that goes to all sessions. -/
inductive Heard (labels : List Label) (id : String) : Session.Label → Prop
  | told {label : Fleet.Label} {told : Session.Label} (happened : .fleet label ∈ labels)
      (tells : label.Tells id told) (unasked : told ≠ .stop) : Heard labels id told
  | asked (happened : .cancelToken ∈ labels ∨ .heed ∈ labels) : Heard labels id .stop

theorem Heard.mono {first second : List Label} {id : String} {told : Session.Label}
    (heard : Heard first id told) (subset : first ⊆ second) : Heard second id told := by
  cases heard with
  | told happened tells unasked => exact .told (subset happened) tells unasked
  | asked happened => exact .asked (happened.imp (fun mem => subset mem) fun mem => subset mem)

/-- What is neither an answer nor a request to stop is a label of the run itself. -/
theorem Heard.happened {labels : List Label} {id : String} {told : Session.Label}
    (heard : Heard labels id told) (unanswered : told.isAnswer = false) (unasked : told ≠ .stop) :
    .fleet (.session id told) ∈ labels := by
  cases heard with
  | asked => exact (unasked rfl).elim
  | told happened tells =>
      cases tells with
      | own => exact happened
      | answer _ answers => cases unanswered.symm.trans answers

/-- The failures that a session hears of are told to its own requests. -/
theorem Heard.exists_failure {labels : List Label} {id : String} {told : Session.Label}
    {failure : Failure} (heard : Heard labels id told) (failure_eq : told.failure? = some failure) :
    ∃ name label, .fleet (.link name label) ∈ labels ∧ label.id.1 = id ∧
      label.failure? = some failure := by
  cases heard with
  | asked => cases failure_eq
  | @told label _ happened tells =>
      cases tells with
      | own id unanswered =>
          cases unanswered.symm.trans (Session.Label.isAnswer_of_failure? failure_eq)
      | answer name answers told_eq => exact ⟨name, _, happened, rfl, told_eq failure failure_eq⟩

end Run

end Supervisor

/-! ## Entries and reports -/

namespace Status.Entry

/-- The status after all reports of a session, the oldest first. -/
def toldAll (entry : Entry) (reports : List Report) : Entry :=
  reports.foldl told entry

@[simp]
theorem toldAll_concat (entry : Entry) (reports : List Report) (report : Report) :
    entry.toldAll (reports ++ [report]) = (entry.toldAll reports).told report := by
  simp [toldAll]

/-- A forward is open until it is reported closed. -/
theorem toldAll_state_ne_closed (entry : Entry) (open_ : entry.state ≠ .closed)
    {reports : List Report} (unclosed : Unclosed reports) :
    (entry.toldAll reports).state ≠ .closed := by
  induction reports using List.reverseRecOn with
  | nil => exact open_
  | append_singleton reports report ih =>
      obtain ⟨before, now⟩ := unclosed_append_iff.1 unclosed
      rw [toldAll_concat, told_state]
      have notClosing : report.state? ≠ some .closed := now report (List.mem_singleton_self _)
      cases shown : report.state? with
      | none => exact ih before
      | some state =>
          rw [shown] at notClosing
          exact fun same => notClosing (congrArg some same)

theorem toldAll_new_state_ne_closed (forward : Forward) {reports : List Report}
    (unclosed : Unclosed reports) :
    (({ forward := forward } : Entry).toldAll reports).state ≠ .closed :=
  toldAll_state_ne_closed _ (by simp) unclosed

end Status.Entry

/-- Nothing is reported after the report of closing. -/
theorem Tunnel.unclosed_of_reported {forward : Forward} {policy : Retry.Policy} {asked : Bool}
    {history : List Session.Entry} {session : Session} {label : Session.Label} {report : Report}
    (trail : Trail Session.Goes (Session.fresh forward policy asked)
      (history ++ [(label, some report)]) session) : Unclosed (Session.reports history) := by
  have either := unclosed_or_closing_last trail
  rw [Session.reports_concat] at either
  rcases either with unclosed | ⟨before, failure, reports_eq, unclosed⟩
  · exact (unclosed_append_iff.1 unclosed).1
  · obtain ⟨rfl, -⟩ := List.append_inj' reports_eq rfl
    exact unclosed

namespace Supervisor.Run

variable {forwards : List Forward} {run next : Run} {labels : List Label} {label : Label}
  {id : String} {session : Session} {history : List Session.Entry}

/-! ## What the board shows of a session -/

/-- The board shows all that a session has reported, or all that it had reported when the run
closed its forward. -/
inductive Shown (run : Run) (forward : Forward) (history : List Session.Entry) : Prop
  | own
      (found : run.fleet.board.entries.get? forward.id =
        some (({ forward := forward } : Status.Entry).toldAll (Session.reports history)))
  | abandoned {before after : List Session.Entry} (history_eq : history = before ++ after)
      (unclosed : Unclosed (Session.reports before)) (named : forward.id ∈ run.stage.timeouts)
      (found : run.fleet.board.entries.get? forward.id =
        some ((({ forward := forward } : Status.Entry).toldAll (Session.reports before)).told
          run.timeoutReport))

/-- The session of a run has come to its state by a history of its own, and the board shows
what it has reported. -/
structure Recorded (labels : List Label) (run : Run) (id : String) (session : Session)
    (asked : Bool) (history : List Session.Entry) : Prop where
  id_eq : session.forward.id = id
  trail : Trail Session.Goes (Session.fresh session.forward run.terms.retry asked) history session
  heard : ∀ entry ∈ history, Heard labels id entry.1
  asked : asked = true → .cancelToken ∈ labels ∨ .heed ∈ labels
  shown : Shown run session.forward history

/-- Every session of a run is recorded. -/
def Records (labels : List Label) (run : Run) : Prop :=
  ∀ id session, run.fleet.sessions.get? id = some session →
    ∃ asked history, Recorded labels run id session asked history

section Moving

variable {asked : Bool}

/-- A forward that a session has not reported closed is open until the run closes it. -/
theorem Shown.state_eq_closed {forward : Forward} (shown : Shown run forward history)
    (closed : run.fleet.ShowsClosed forward.id) :
    ¬ Unclosed (Session.reports history) ∨ forward.id ∈ run.stage.timeouts := by
  cases shown with
  | own found =>
      left
      intro unclosed
      have open_ := Status.Entry.toldAll_new_state_ne_closed forward unclosed
      simp only [Fleet.ShowsClosed, Status.Board.state?, found, Option.map_some,
        Option.some.injEq] at closed
      exact open_ closed
  | abandoned history_eq unclosed named found => exact .inr named

/-- A forward that the run has closed is shown as closed. -/
theorem showsClosed_of_abandoned {forward : Forward} {entry : Status.Entry}
    (found : run.fleet.board.entries.get? forward.id = some (entry.told run.timeoutReport)) :
    run.fleet.ShowsClosed forward.id := by
  simp [Fleet.ShowsClosed, Status.Board.state?, found, Status.Entry.told_state, timeoutReport,
    Report.state?]

/-- Whatever leaves an entry alone leaves it a record of the same reports. -/
theorem Shown.keep {forward : Forward} (shown : Shown run forward history)
    (entry_eq : next.fleet.board.entries.get? forward.id =
      run.fleet.board.entries.get? forward.id)
    (timeouts : run.stage.timeouts ⊆ next.stage.timeouts) (terms_eq : next.terms = run.terms) :
    Shown next forward history := by
  have report_eq : next.timeoutReport = run.timeoutReport := by
    simp only [timeoutReport, terms_eq]
  cases shown with
  | own found => exact .own (entry_eq.trans found)
  | abandoned history_eq unclosed named found =>
      exact .abandoned history_eq unclosed (timeouts named) (report_eq ▸ entry_eq.trans found)

/-- The board shows what a session reports next, if it is still open. -/
theorem Shown.report {forward : Forward} {told : Session.Label} {report : Option Report}
    (shown : Shown run forward history)
    (unclosed : report ≠ none → Unclosed (Session.reports history))
    (board_eq : next.fleet.board = (run.fleet.report forward.id report).board)
    (timeouts : run.stage.timeouts ⊆ next.stage.timeouts) (terms_eq : next.terms = run.terms) :
    Shown next forward (history ++ [(told, report)]) := by
  have report_eq : next.timeoutReport = run.timeoutReport := by
    simp only [timeoutReport, terms_eq]
  cases shown with
  | own found =>
      refine .own ?_
      rw [board_eq, Session.reports_concat]
      cases report with
      | none => simpa [Fleet.report] using found
      | some report =>
          have open_ := Status.Entry.toldAll_new_state_ne_closed forward (unclosed (by simp))
          rw [Fleet.get?_report_of_open found open_ report, Option.toList_some,
            Status.Entry.toldAll_concat]
  | @abandoned before after history_eq unclosed named found =>
      have closed := showsClosed_of_abandoned found
      have grown_eq : history ++ [(told, report)] = before ++ (after ++ [(told, report)]) := by
        rw [history_eq, List.append_assoc]
      refine .abandoned grown_eq unclosed (timeouts named) ?_
      rw [board_eq, report_eq, (run.fleet.keeps_report forward.id report).entry_eq _ closed, found]

/-- When the run closes a forward, it adds its own report to those of the session. -/
theorem Shown.forceClosed {forward : Forward} {left timeouts : List String} {chosen : String}
    (shown : Shown run forward history) (stage_eq : run.stage = .sweeping left (some chosen) timeouts)
    (story : Unclosed (Session.reports history) ∨
      ∃ before failure, Session.reports history = before ++ [.state .closed failure]) :
    Shown
      { run with
        stage := .sweeping left none (timeouts ++ [chosen])
        fleet := run.fleet.report chosen (some run.timeoutReport) }
      forward history := by
  have grows : run.stage.timeouts ⊆ timeouts ++ [chosen] := by
    rw [stage_eq]
    exact List.subset_append_left _ _
  cases shown with
  | abandoned history_eq unclosed named found =>
      have closed := showsClosed_of_abandoned found
      exact .abandoned history_eq unclosed (grows named)
        (((run.fleet.keeps_report chosen _).entry_eq _ closed).trans found)
  | own found =>
      by_cases same : forward.id = chosen
      · subst same
        rcases story with unclosed | ⟨before, failure, reports_eq⟩
        · have open_ := Status.Entry.toldAll_new_state_ne_closed forward unclosed
          refine .abandoned (List.append_nil history).symm unclosed ?_ ?_
          · exact List.mem_append_right _ (List.mem_singleton_self _)
          · exact Fleet.get?_report_of_open found open_ run.timeoutReport
        · have closed : run.fleet.ShowsClosed forward.id := by
            simp [Fleet.ShowsClosed, Status.Board.state?, found, reports_eq,
              Status.Entry.told_state, Report.state?]
          exact .own (((run.fleet.keeps_report _ _).entry_eq _ closed).trans found)
      · exact .own ((Fleet.get?_report_of_ne same _).trans found)

/-- What a record says of a session that stays as it is. -/
theorem Recorded.keep (recorded : Recorded labels run id session asked history)
    (grows : labels ⊆ labels ++ [label])
    (entry_eq : next.fleet.board.entries.get? id = run.fleet.board.entries.get? id)
    (timeouts : run.stage.timeouts ⊆ next.stage.timeouts) (terms_eq : next.terms = run.terms) :
    Recorded (labels ++ [label]) next id session asked history where
  id_eq := recorded.id_eq
  trail := terms_eq ▸ recorded.trail
  heard := fun entry member => (recorded.heard entry member).mono grows
  asked := fun asked => (recorded.asked asked).imp (fun mem => grows mem) fun mem => grows mem
  shown := recorded.shown.keep (recorded.id_eq.symm ▸ entry_eq) timeouts terms_eq

/-- A session that goes on adds to its history what it has heard. -/
theorem Recorded.onward {told : Session.Label} {after : Session} {report : Option Report}
    (recorded : Recorded labels run id session asked history)
    (moves : Session.Moves session told after report)
    (heard : Heard (labels ++ [label]) id told)
    (board_eq : next.fleet.board = (run.fleet.report id report).board)
    (timeouts : run.stage.timeouts ⊆ next.stage.timeouts) (terms_eq : next.terms = run.terms) :
    Recorded (labels ++ [label]) next id after asked (history ++ [(told, report)]) := by
  obtain ⟨forward_eq, -⟩ := moves.forward_eq_and_policy_eq
  have grows : labels ⊆ labels ++ [label] := List.subset_append_left _ _
  have onward := recorded.trail.onward moves.goes
  constructor
  case id_eq => rw [forward_eq, recorded.id_eq]
  case trail => rwa [forward_eq, terms_eq]
  case heard =>
    intro entry member
    rcases List.mem_append.1 member with before | last
    · exact (recorded.heard entry before).mono grows
    · rw [List.mem_singleton.1 last]
      exact heard
  case asked =>
    exact fun asked => (recorded.asked asked).imp (fun mem => grows mem) fun mem => grows mem
  case shown =>
    rw [forward_eq]
    refine recorded.shown.report ?_ (recorded.id_eq.symm ▸ board_eq) timeouts terms_eq
    intro reported
    obtain ⟨report, rfl⟩ := Option.ne_none_iff_exists'.1 reported
    exact unclosed_of_reported onward

/-- A session that has just been started has no history yet. -/
theorem Recorded.start {forward : Forward}
    (entry_eq : next.fleet.board.entries.get? forward.id = some { forward := forward })
    (cancels : asked = true → .cancelToken ∈ labels ∨ .heed ∈ labels) :
    Recorded labels next forward.id (Session.fresh forward next.terms.retry asked) asked [] := by
  constructor
  case id_eq => rfl
  case trail => exact .here
  case heard => exact List.forall_mem_nil _
  case asked => exact cancels
  case shown => exact .own entry_eq

end Moving

/-! ## Every session is recorded -/

/-- The token is cancelled when somebody cancels it or when the run asks all sessions to stop. -/
def Cancels (labels : List Label) (run : Run) : Prop :=
  run.tokenCancelled = true → .cancelToken ∈ labels ∨ .heed ∈ labels

theorem Cancels.move (cancels : Cancels labels run) (moves : Moves run label next) :
    Cancels (labels ++ [label]) next := by
  have keep (before : .cancelToken ∈ labels ∨ .heed ∈ labels) :
      .cancelToken ∈ labels ++ [label] ∨ .heed ∈ labels ++ [label] :=
    before.imp (List.mem_append_left _) (List.mem_append_left _)
  intro cancelled
  cases moves with
  | cancelToken => exact .inl (List.mem_append_right _ (List.mem_singleton_self _))
  | heed => exact .inr (List.mem_append_right _ (List.mem_singleton_self _))
  | _ => exact keep (cancels cancelled)

theorem Records.move (records : Records labels run) (cancels : Cancels labels run)
    (moves : Moves run label next) : Records (labels ++ [label]) next := by
  have grows : labels ⊆ labels ++ [label] := List.subset_append_left _ _
  have timeouts := moves.timeouts_subset
  -- Asking all sessions to stop adds that to every history.
  have stops (sessions_eq : next.fleet = run.stopAll.fleet) (terms_eq : next.terms = run.terms)
      (happened : .cancelToken ∈ labels ++ [label] ∨ .heed ∈ labels ++ [label]) :
      Records (labels ++ [label]) next := by
    intro id session found
    rw [sessions_eq] at found
    simp only [stopAll, NameMap.get?_mapValues, Option.map_eq_some_iff] at found
    obtain ⟨before, found, rfl⟩ := found
    obtain ⟨asked, history, recorded⟩ := records id before found
    exact ⟨asked, _, recorded.onward .stop (.asked happened) (by rw [sessions_eq]; rfl) timeouts
      terms_eq⟩
  -- Most moves change neither sessions nor the board.
  have keep (fleet_eq : next.fleet = run.fleet) (terms_eq : next.terms = run.terms) :
      Records (labels ++ [label]) next := by
    intro id session found
    rw [fleet_eq] at found
    obtain ⟨asked, history, recorded⟩ := records id session found
    exact ⟨asked, history, recorded.keep grows (by rw [fleet_eq]) timeouts terms_eq⟩
  cases moves with
  | cancelToken =>
      exact stops rfl rfl (.inl (List.mem_append_right _ (List.mem_singleton_self _)))
  | heed => exact stops rfl rfl (.inr (List.mem_append_right _ (List.mem_singleton_self _)))
  | @fleet label fleet permitted moves =>
      intro id session found
      rcases moves.sessions_and_tells with
        ⟨sessions_eq, board_eq⟩ | ⟨mover, before, told, after, report, goes, tells⟩
      · rw [sessions_eq] at found
        obtain ⟨asked, history, recorded⟩ := records id session found
        exact ⟨asked, history, recorded.keep grows (by rw [board_eq]) timeouts rfl⟩
      · rw [goes.sessions_eq, NameMap.get?_insert] at found
        split at found
        · rename_i same
          obtain rfl : after = session := Option.some.inj found
          subst same
          obtain ⟨asked, history, recorded⟩ := records id before goes.found
          have unasked : told ≠ .stop := by
            rintro rfl
            cases tells with
            | own => cases permitted
            | answer _ answers => cases answers
          have heard : Heard (labels ++ [.fleet label]) id told :=
            .told (List.mem_append_right _ (List.mem_singleton_self _)) tells unasked
          exact ⟨asked, _, recorded.onward goes.moves heard goes.board_eq timeouts rfl⟩
        · rename_i other
          obtain ⟨asked, history, recorded⟩ := records id session found
          refine ⟨asked, history, recorded.keep grows ?_ timeouts rfl⟩
          rw [goes.board_eq, Fleet.get?_report_of_ne other]
  | @start forward left stage_eq unknown =>
      intro id session found
      simp only [Fleet.start, NameMap.get?_insert] at found
      by_cases same : id = forward.id
      · rw [if_pos same] at found
        cases found
        subst same
        refine ⟨_, [], .start ?_ fun cancelled => ?_⟩
        · simp [Fleet.start, Status.Board.get?_register]
        · exact (cancels cancelled).imp (fun mem => grows mem) fun mem => grows mem
      · rw [if_neg same] at found
        obtain ⟨asked, history, recorded⟩ := records id session found
        refine ⟨asked, history, recorded.keep grows ?_ timeouts rfl⟩
        simp [Fleet.start, Status.Board.get?_register, same]
  | @forceClosed left timeouts chosen stage_eq =>
      intro id session found
      rw [Fleet.report_sessions] at found
      obtain ⟨asked, history, recorded⟩ := records id session found
      have story : Unclosed (Session.reports history) ∨
          ∃ before failure, Session.reports history = before ++ [.state .closed failure] := by
        rcases unclosed_or_closing_last recorded.trail with
          unclosed | ⟨before, failure, reports_eq, -⟩
        · exact .inl unclosed
        · exact .inr ⟨before, failure, reports_eq⟩
      exact ⟨asked, history, recorded.id_eq, recorded.trail,
        fun entry member => (recorded.heard entry member).mono grows,
        fun asked => (recorded.asked asked).imp (fun mem => grows mem) fun mem => grows mem,
        recorded.shown.forceClosed stage_eq story⟩
  | _ => exact keep rfl rfl

theorem terms_eq_of_trail {terms : Terms} {sharing : Bool}
    (trail : Trail Goes (ofForwards terms sharing forwards) labels run) :
    run.terms = terms := by
  induction trail with
  | here => rfl
  | onward trail step ih =>
      rw [← ih]
      cases step_eq_some_iff.1 step <;> rfl

theorem records_of_trail {terms : Terms} {sharing : Bool}
    (trail : Trail Goes (ofForwards terms sharing forwards) labels run) : Records labels run := by
  have both : Cancels labels run ∧ Records labels run := by
    induction trail with
    | here => exact ⟨nofun, fun id session found => by cases found⟩
    | onward trail step ih =>
        have moves := step_eq_some_iff.1 step
        exact ⟨ih.1.move moves, ih.2.move ih.1 moves⟩
  exact both.2

/-! ## Failures of connections -/

/-- The failures that the links of a run tell are connection failures. -/
def Connects (labels : List Label) : Prop :=
  ∀ name label failure, .fleet (.link name label) ∈ labels → label.failure? = some failure →
    failure.kind = .connectFailed

/-- So are those that its sessions have heard of. -/
theorem Connects.kind_eq_of_recorded (connects : Connects labels) {asked : Bool}
    (recorded : Recorded labels run id session asked history) :
    ∀ entry ∈ history, ∀ failure, entry.1.failure? = some failure →
      failure.kind = .connectFailed := by
  intro entry member failure told
  obtain ⟨name, label, happened, -, label_eq⟩ := (recorded.heard entry member).exists_failure told
  exact connects name label failure happened label_eq

end Supervisor.Run

end PortTunnel
