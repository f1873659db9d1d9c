import PortTunnel.Proofs.Supervisor.Cancellation
import PortTunnel.Proofs.Supervisor.Histories
import PortTunnel.Proofs.Supervisor.Links
import PortTunnel.Proofs.Tunnel.Causes

/-!
# Forwards do not touch each other

The sessions of a run share the board, the token, the links and the loop that joins
them.  None of these lets the failure of one session reach another.  A step about one
session leaves the states, the entries and the requests of all others as they are, and
joining a session that is over changes nothing but the registry.

So before anybody asks a run to shut down, no session is asked to stop, and a session
closes only for a reason of its own: its listener was refused, or it gave up on a
failure that it met itself.  A run that ends then has seen all its sessions close that
way.
-/

namespace PortTunnel.Supervisor

open Tunnel Cluster

/-! ## Steps about one session -/

namespace Fleet

variable {fleet next : Fleet}

/-- The session that a label is about. -/
def Label.id : Label → String
  | .session id _ => id
  | .link _ label => label.id.1

/-- What is about one session leaves all others as they are, together with their entries and
their requests. -/
structure LeavesOthers (fleet next : Fleet) (id : String) : Prop where
  session_eq : ∀ other, other ≠ id → next.sessions.get? other = fleet.sessions.get? other
  entry_eq : ∀ other, other ≠ id → next.board.entries.get? other = fleet.board.entries.get? other
  request_eq : ∀ other, other ≠ id → ∀ name call,
    (next.link name).stage? (other, call) = (fleet.link name).stage? (other, call)

theorem stage?_onLink_of_ne {label : Link.Label CallId} {other : CallId}
    (different : other ≠ label.id) (link : Link CallId) :
    (onLink label link).stage? other = link.stage? other := by
  unfold onLink
  split
  · rename_i next answer step
    exact (Link.step_eq_some_iff.1 step).stage?_of_ne different
  · rfl

theorem stage?_foldl_onLink_of_ne (label : Nat → Link.Label CallId) {other : CallId}
    (different : ∀ call, other ≠ (label call).id) (calls : List Nat) (link : Link CallId) :
    (calls.foldl (fun link call => onLink (label call) link) link).stage? other =
      link.stage? other := by
  induction calls generalizing link with
  | nil => rfl
  | cons call calls ih =>
      rw [List.foldl_cons, ih, stage?_onLink_of_ne (different call)]

/-- The requests that one session makes and drops are its own. -/
theorem stage?_requested_of_ne {id other : String} (different : other ≠ id)
    (before after : Session) (link : Link CallId) (call : Nat) :
    (requested id before after link).stage? (other, call) = link.stage? (other, call) := by
  have apart (made : Nat) : (other, call) ≠ (id, made) := fun same =>
    different (congrArg Prod.fst same)
  unfold requested
  rw [stage?_foldl_onLink_of_ne (fun call => .request (id, call)) apart,
    stage?_foldl_onLink_of_ne (fun call => .drop (id, call)) apart]

theorem leavesOthers_advance (fleet : Fleet) (id : String) (session after : Session)
    (report : Option Report) : fleet.LeavesOthers (fleet.advance id session after report) id := by
  constructor
  case session_eq =>
    intro other different
    rw [advance_sessions, NameMap.get?_insert, if_neg different]
  case entry_eq =>
    intro other different
    rw [advance_board, get?_report_of_ne different]
  case request_eq =>
    intro other different name call
    rw [link_advance]
    split
    · exact stage?_requested_of_ne different _ _ _ _
    · rfl

theorem leavesOthers_setLink {name : String} {label : Link.Label CallId} {link : Link CallId}
    {answer : Option (Except Failure Unit)}
    (step : (fleet.link name).step label = some (link, answer)) :
    fleet.LeavesOthers (fleet.setLink name link) label.id.1 := by
  constructor
  case session_eq => exact fun _ _ => rfl
  case entry_eq => exact fun _ _ => rfl
  case request_eq =>
    intro other different used call
    rw [link_setLink]
    split
    · rename_i same
      subst same
      apply (Link.step_eq_some_iff.1 step).stage?_of_ne
      exact fun same => different (congrArg Prod.fst same)
    · rfl

theorem LeavesOthers.trans {middle : Fleet} {id : String} (first : fleet.LeavesOthers middle id)
    (second : middle.LeavesOthers next id) : fleet.LeavesOthers next id := by
  constructor
  case session_eq =>
    intro other different
    rw [second.session_eq other different, first.session_eq other different]
  case entry_eq =>
    intro other different
    rw [second.entry_eq other different, first.entry_eq other different]
  case request_eq =>
    intro other different name call
    rw [second.request_eq other different, first.request_eq other different]

/-- A step about one session leaves all others as they are. -/
theorem Moves.leavesOthers {label : Label} (moves : Moves fleet label next) :
    fleet.LeavesOthers next label.id := by
  cases moves with
  | link own step => exact leavesOthers_setLink step
  | answer own step found told_eq moves =>
      exact (leavesOthers_setLink step).trans (leavesOthers_advance _ _ _ _ _)
  | session unanswered found moves => exact leavesOthers_advance _ _ _ _ _

end Fleet

namespace Run

/-! ## Before anybody asks -/

/-- How far a run may have come while nobody has asked it to stop. -/
def Quiet : RunStage → Prop
  | .starting _ | .watching => True
  | .stopping | .sweeping _ _ _ => False
  | .finishing exit timeouts => exit = .allSessionsClosed ∧ timeouts = []
  | .over report => report.exit = .allSessionsClosed ∧ report.timeouts = []

/-- Nobody has asked a run to stop. -/
structure Undisturbed (run : Run) : Prop where
  unrequested : run.shutdownRequested = false
  uncancelled : run.tokenCancelled = false
  standing : run.tearingDown = false
  quiet : Quiet run.stage

theorem Undisturbed.move {run next : Run} {label : Label} (undisturbed : Undisturbed run)
    (unrequested : label ≠ .requestShutdown) (uncancelled : label ≠ .cancelToken)
    (moves : Moves run label next) : Undisturbed next := by
  obtain ⟨notRequested, notCancelled, standing, quiet⟩ := undisturbed
  cases moves with
  | requestShutdown => exact (unrequested rfl).elim
  | cancelToken => exact (uncancelled rfl).elim
  | fleet | join => exact ⟨notRequested, notCancelled, standing, quiet⟩
  | startAgain | start | started => exact ⟨notRequested, notCancelled, standing, trivial⟩
  | heed stage_eq asked =>
      rcases asked with requested | cancelled
      · cases notRequested.symm.trans requested
      · cases notCancelled.symm.trans cancelled
  | allClosed => exact ⟨notRequested, notCancelled, standing, rfl, rfl⟩
  | finish stage_eq =>
      rw [stage_eq] at quiet
      exact ⟨notRequested, notCancelled, standing, quiet⟩
  | allStopped stage_eq | deadline stage_eq | inspectClosed stage_eq | inspectOpen stage_eq
  | forceClosed stage_eq | swept stage_eq =>
      rw [stage_eq] at quiet
      exact quiet.elim

/-- Where a failure comes from that a session closes with. -/
inductive Own (labels : List Label) (forward : Forward) : Failure → Prop
  | refused {refusal : BindRefusal}
      (happened : .fleet (.session forward.id (.refused refusal)) ∈ labels) :
      Own labels forward (.ofBind forward.localEndpoint.text refusal)
  | told {name : String} {label : Link.Label CallId} {failure : Failure}
      (happened : .fleet (.link name label) ∈ labels) (about : label.id.1 = forward.id)
      (failure_eq : label.failure? = some failure) : Own labels forward failure
  | lost (reason : String) : Own labels forward (Pair.lost forward.destination reason)

/-- A session has closed with a failure of its own, by a history in which nobody asked it to
stop, and that failure is shown. -/
structure ClosedAlone (terms : Terms) (labels : List Label) (run : Run) (session : Session)
    (history : List Session.Entry) (failure : Failure) : Prop where
  closed : session.stage = .closed
  trail : Trail Session.Goes (Session.fresh session.forward terms.retry false) history session
  heard : ∀ entry ∈ history, Heard labels session.forward.id entry.1 ∧ entry.1 ≠ .stop
  reason : Reason session.forward terms.retry history failure
  own : Own labels session.forward failure
  shown : ∃ entry, run.fleet.board.entries.get? session.forward.id = some entry ∧
    entry.state = .closed ∧ entry.lastFailure = some failure

section Trails

variable {terms : Terms} {sharing : Bool} {forwards : List Forward} {labels : List Label}
  {run : Run} {id : String} {session : Session}

theorem undisturbed_of_trail
    (trail : Trail Goes (ofForwards terms sharing forwards) labels run)
    (unrequested : .requestShutdown ∉ labels) (uncancelled : .cancelToken ∉ labels) :
    Undisturbed run := by
  induction trail with
  | here => exact ⟨rfl, rfl, rfl, trivial⟩
  | @onward labels middle label next trail step ih =>
      rw [List.mem_append, not_or, List.mem_singleton] at unrequested uncancelled
      exact (ih unrequested.1 uncancelled.1).move (Ne.symm unrequested.2) (Ne.symm uncancelled.2)
        (step_eq_some_iff.1 step)

/-- A run that nobody has asked to stop has not taken notice of anything. -/
theorem not_heeded_of_trail
    (trail : Trail Goes (ofForwards terms sharing forwards) labels run)
    (undisturbed : Undisturbed run) : .heed ∉ labels := by
  have fits := fitsNotice_of_trail trail
  have quiet := undisturbed.quiet
  intro heeded
  cases stage_eq : run.stage with
  | starting | watching =>
      rw [stage_eq] at fits
      exact fits heeded
  | stopping | sweeping =>
      rw [stage_eq] at quiet
      exact quiet
  | finishing | «over» =>
      rw [stage_eq] at fits quiet
      cases quiet.1.symm.trans (fits.2 heeded)

theorem timeouts_eq_nil_of_undisturbed (undisturbed : Undisturbed run) :
    run.stage.timeouts = [] := by
  have quiet := undisturbed.quiet
  cases stage_eq : run.stage with
  | starting | watching | stopping => rfl
  | sweeping =>
      rw [stage_eq] at quiet
      exact quiet.elim
  | finishing | «over» =>
      rw [stage_eq] at quiet
      exact quiet.2

/-- A session of such a run has a history in which nobody asked it to stop, and the board shows
all that it has reported. -/
theorem alone_of_trail (trail : Trail Goes (ofForwards terms sharing forwards) labels run)
    (unrequested : .requestShutdown ∉ labels) (uncancelled : .cancelToken ∉ labels)
    (found : run.fleet.sessions.get? id = some session) :
    session.forward.id = id ∧ session.stopRequested = false ∧
      ∃ history, Trail Session.Goes (Session.fresh session.forward terms.retry false) history
          session ∧
        (∀ entry ∈ history, Heard labels session.forward.id entry.1 ∧ entry.1 ≠ .stop) ∧
          run.fleet.board.entries.get? session.forward.id =
            some (({ forward := session.forward } : Status.Entry).toldAll
              (Session.reports history)) := by
  have undisturbed := undisturbed_of_trail trail unrequested uncancelled
  have unheeded := not_heeded_of_trail trail undisturbed
  obtain ⟨asked, history, recorded⟩ := records_of_trail trail id session found
  have unasked : asked = false := by
    rw [Bool.eq_false_iff]
    intro asked
    exact (recorded.asked asked).elim uncancelled unheeded
  have unstopped (entry : Session.Entry) (member : entry ∈ history) : entry.1 ≠ .stop := by
    intro stop
    have heard := recorded.heard entry member
    rw [stop] at heard
    cases heard with
    | told _ _ notStop => exact notStop rfl
    | asked happened => exact happened.elim uncancelled unheeded
  have itsTrail := recorded.trail
  rw [terms_eq_of_trail trail, unasked] at itsTrail
  refine ⟨recorded.id_eq, ?_, history, itsTrail, ?_, ?_⟩
  · rw [Bool.eq_false_iff, ne_eq, stopRequested_iff_of_trail itsTrail, not_or]
    refine ⟨nofun, fun stopped => ?_⟩
    obtain ⟨entry, member, label_eq⟩ := List.mem_map.1 stopped
    exact unstopped entry member label_eq
  · intro entry member
    exact ⟨recorded.id_eq ▸ recorded.heard entry member, unstopped entry member⟩
  · cases recorded.shown with
    | own shown => exact shown
    | abandoned _ _ named =>
        rw [timeouts_eq_nil_of_undisturbed undisturbed] at named
        exact (List.not_mem_nil named).elim

/-- The failure that a session closes with is one that it met itself. -/
theorem own_of_reason {history : List Session.Entry} {failure : Failure}
    (trail : Trail Session.Goes (Session.fresh session.forward terms.retry false) history session)
    (heard : ∀ entry ∈ history, Heard labels session.forward.id entry.1)
    (reason : Reason session.forward terms.retry history failure) :
    Own labels session.forward failure := by
  have told : ∀ entry ∈ history, ∀ failure, entry.1.failure? = some failure →
      Own labels session.forward failure := by
    intro entry member failure failure_eq
    obtain ⟨name, label, happened, about, label_eq⟩ := (heard entry member).exists_failure failure_eq
    exact .told happened about label_eq
  have refusedAlone {refusal : BindRefusal} (refused : Refused session.forward history refusal) :
      Own labels session.forward (.ofBind session.forward.localEndpoint.text refusal) := by
    obtain ⟨entry, member, label_eq⟩ := List.mem_map.1 refused.told
    have heardNow := heard entry member
    rw [label_eq] at heardNow
    exact .refused (heardNow.happened rfl nofun)
  have reportedLast {before : List Session.Entry}
      (reported : ReportedLast history failure [.state .closed (some failure)] before) :
      Own labels session.forward failure := by
    have mem : .state .degraded (some failure) ∈ Session.reports history := by
      rw [reported.reports_eq]
      simp
    rcases expected_of_reported trail .lost told mem with own | ⟨refusal, refused⟩
    · exact own
    · rw [refused.reports_eq] at mem
      cases List.mem_singleton.1 mem
  cases reason with
  | refused refused => exact refusedAlone refused
  | unretryable reported => exact reportedLast reported
  | exhausted reported => exact reportedLast reported

theorem closedAlone_of_trail (trail : Trail Goes (ofForwards terms sharing forwards) labels run)
    (unrequested : .requestShutdown ∉ labels) (uncancelled : .cancelToken ∉ labels)
    (found : run.fleet.sessions.get? id = some session) (closed : session.stage = .closed) :
    ∃ history failure, ClosedAlone terms labels run session history failure := by
  obtain ⟨-, unasked, history, itsTrail, heard, shown⟩ :=
    alone_of_trail trail unrequested uncancelled found
  obtain ⟨failure, reason, last_eq⟩ := reason_of_trail itsTrail closed unasked
  obtain ⟨before, reports_eq⟩ := List.getLast?_eq_some_iff.1 last_eq
  refine ⟨history, failure, closed, itsTrail, heard, reason, ?_, _, shown, ?_, ?_⟩
  · exact own_of_reason itsTrail (fun entry member => (heard entry member).1) reason
  · rw [reports_eq, Status.Entry.toldAll_concat]
    rfl
  · rw [reports_eq, Status.Entry.toldAll_concat]
    rfl

/-- What is closed on the board has closed by itself. -/
theorem closed_of_showsClosed
    (trail : Trail Goes (ofForwards terms sharing forwards) labels run)
    (unrequested : .requestShutdown ∉ labels) (uncancelled : .cancelToken ∉ labels)
    (found : run.fleet.sessions.get? id = some session) (closed : run.fleet.ShowsClosed id) :
    session.stage = .closed := by
  obtain ⟨rfl, -, history, itsTrail, -, shown⟩ :=
    alone_of_trail trail unrequested uncancelled found
  rcases unclosed_or_closing_last itsTrail with unclosed | ⟨before, failure, reports_eq, -⟩
  · rw [Fleet.ShowsClosed, Status.Board.state?, shown] at closed
    exact (Status.Entry.toldAll_new_state_ne_closed session.forward unclosed
      (Option.some.inj closed)).elim
  · apply closed_of_reported itsTrail
    rw [reports_eq]
    exact List.mem_append_right _ (List.mem_singleton_self _)

/-- The forwards of a run that nobody has asked to stop do not touch each other. -/
structure Isolated (terms : Terms) (forwards : List Forward) (labels : List Label) (run : Run) :
    Prop where
  /-- No session has been asked to stop, and none is torn down. -/
  untouched : run.tokenCancelled = false ∧
    run.fleet.Every fun session => session.stopRequested = false ∧ session.stage ≠ .dropped
  /-- A session that has closed did so for a reason of its own, which the board shows. -/
  closed : ∀ id session, run.fleet.sessions.get? id = some session → session.stage = .closed →
    ∃ history failure, ClosedAlone terms labels run session history failure
  /-- Nobody else has closed a forward. -/
  shown : ∀ id session, run.fleet.sessions.get? id = some session → run.fleet.ShowsClosed id →
    session.stage = .closed
  /-- A step about one session, the one by which it closes included, leaves all other sessions
  as they are, and the run as well. -/
  apart : ∀ label next, Goes run (.fleet label) next →
    next = { run with fleet := next.fleet } ∧ run.fleet.LeavesOthers next.fleet label.id
  /-- So does joining a session that has closed. -/
  joined : ∀ id next, Goes run (.join id) next →
    next = { run with registry := run.registry.filter (· != id) }
  /-- A run that ends now says that all sessions have closed, and each has closed that way. -/
  finished : ∀ report, run.stage = .over report →
    report.exit = .allSessionsClosed ∧ report.timeouts = [] ∧
      ∀ forward ∈ forwards, ∃ session history failure standing,
        run.fleet.sessions.get? forward.id = some session ∧
          ClosedAlone terms labels run session history failure ∧
            report.snapshot.get? forward.id = some standing ∧
              standing.entry.state = .closed ∧ standing.entry.lastFailure = some failure

/-- As long as nobody asks a run to shut down, its forwards do not touch each other. -/
theorem forwards_are_isolated
    (trail : Trail Goes (ofForwards terms sharing forwards) labels run)
    (unrequested : .requestShutdown ∉ labels) (uncancelled : .cancelToken ∉ labels) :
    Isolated terms forwards labels run := by
  have undisturbed := undisturbed_of_trail trail unrequested uncancelled
  have orderly := orderly_of_trail trail
  constructor
  case untouched =>
    refine ⟨undisturbed.uncancelled, fun id session found => ⟨?_, ?_⟩⟩
    · exact (alone_of_trail trail unrequested uncancelled found).2.1
    · exact orderly.intact undisturbed.standing id session found
  case closed =>
    exact fun id session found closed =>
      closedAlone_of_trail trail unrequested uncancelled found closed
  case shown =>
    exact fun id session found closed =>
      closed_of_showsClosed trail unrequested uncancelled found closed
  case apart =>
    intro label next step
    cases step_eq_some_iff.1 step with
    | fleet permitted moves => exact ⟨rfl, moves.leavesOthers⟩
  case joined =>
    intro id next step
    cases step_eq_some_iff.1 step with
    | join => rfl
  case finished =>
    intro report ended
    have quiet := undisturbed.quiet
    have progress := orderly.progress
    rw [ended] at quiet progress
    obtain ⟨-, -, allClosed, entries_eq⟩ := progress
    refine ⟨quiet.1, quiet.2, fun forward member => ?_⟩
    have unstarted : run.stage.unstarted = [] := by rw [ended]; rfl
    have started := (started_iff_of_unstarted trail unstarted).2 ⟨forward, member, rfl⟩
    obtain ⟨session, found⟩ := started
    have closed := closed_of_showsClosed trail unrequested uncancelled found
      (allClosed forward.id ⟨session, found⟩)
    obtain ⟨history, failure, alone⟩ :=
      closedAlone_of_trail trail unrequested uncancelled found closed
    obtain ⟨entry, shown, state_eq, failure_eq⟩ := alone.shown
    rw [(alone_of_trail trail unrequested uncancelled found).1, entries_eq] at shown
    obtain ⟨standing, standing_eq, rfl⟩ := Option.map_eq_some_iff.1 shown
    exact ⟨session, history, failure, standing, found, alone, standing_eq, state_eq, failure_eq⟩

end Trails

/-- A run of two forwards that nobody asks to stop.  The listener of the first is refused, and
the second has no retry for the call that fails. -/
def unaskedLabels : List Label :=
  let first := Session.sampleForward.id
  let second := secondForward.id
  [.start, .start, .started, .fleet (.session first (.refused .inUse)), .join first,
    .fleet (.session second .bound), .fleet (.session second .announce),
    .fleet (.session second .call), .fleet (.link "dev" (.establish (second, 0))),
    .fleet (.link "dev" (.notEstablished (second, 0) (.connectFailed "refused"))),
    .fleet (.session second .degrade), .fleet (.session second .giveUp),
    .fleet (.session second .close), .join second, .allJoined, .finish]

theorem unasked_forwards_are_isolated :
    ∃ run report,
      Trail Goes (ofForwards { retry := { maxRetries := some 0 } } true
        [Session.sampleForward, secondForward]) unaskedLabels run ∧
        .requestShutdown ∉ unaskedLabels ∧ .cancelToken ∉ unaskedLabels ∧
          run.stage = .over report ∧ report.exit = .allSessionsClosed ∧
            Isolated { retry := { maxRetries := some 0 } } [Session.sampleForward, secondForward]
              unaskedLabels run := by
  obtain ⟨run, report, followed, ended⟩ :
      ∃ run report,
        follow step (ofForwards { retry := { maxRetries := some 0 } } true
          [Session.sampleForward, secondForward]) unaskedLabels = some run ∧
            run.stage = .over report :=
    ⟨_, _, rfl, rfl⟩
  have unrequested : .requestShutdown ∉ unaskedLabels := by simp [unaskedLabels]
  have uncancelled : .cancelToken ∉ unaskedLabels := by simp [unaskedLabels]
  have trail := follow_eq_some_iff.1 followed
  have isolated := forwards_are_isolated trail unrequested uncancelled
  exact ⟨run, report, trail, unrequested, uncancelled, ended, (isolated.finished report ended).1,
    isolated⟩

end Run

end PortTunnel.Supervisor
