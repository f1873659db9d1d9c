import PortTunnel.Proofs.Status.Board
import PortTunnel.Proofs.Tunnel.Reports
import PortTunnel.Supervisor.Fleet

/-!
# The moves of a fleet

A step of a fleet is a step of one of its links, a step of one of its sessions, or
an answer that a link passes on to a session.  What matters for the forwards is
the same in the last two cases: one session goes on, and what it reports is put
on the board.
-/

namespace PortTunnel

/-- Whether only sessions make a label of a link happen. -/
def Cluster.Link.Label.isFromSession {Id : Type} : Label Id → Bool
  | .request _ | .drop _ => true
  | _ => false

namespace Supervisor.Fleet

open Tunnel Cluster

/-! ## Steps -/

/-- The fleet after one of its sessions went on. -/
def advance (fleet : Fleet) (id : String) (session next : Session) (report : Option Report) :
    Fleet :=
  let name := fleet.linkName session.forward
  ((fleet.setSession id next).setLink name (requested id session next (fleet.link name))).report
    id report

theorem sessionStep_eq_some_iff {fleet next : Fleet} {id : String} {label : Session.Label} :
    fleet.sessionStep id label = some next ↔
      ∃ session after report, fleet.sessions.get? id = some session ∧
        Session.Moves session label after report ∧
          next = fleet.advance id session after report := by
  unfold sessionStep
  constructor
  · intro step
    split at step
    · cases step
    · rename_i session found
      split at step
      · cases step
      · rename_i after report goes
        cases step
        exact ⟨session, after, report, found, .of_step goes, rfl⟩
  · rintro ⟨session, after, report, found, moves, rfl⟩
    simp [found, moves.step, advance]

/-- The label by which an answer reaches a session tells an answer. -/
theorem isAnswer_of_answerLabel? {session : Session} {call : Nat} {answer : Except Failure Unit}
    {told : Session.Label} :
    session.answerLabel? call answer = some told → told.isAnswer = true := by
  fun_cases Session.answerLabel? session call answer <;> intro told_eq
  all_goals
    cases told_eq
    try rfl

/-- The steps of a fleet. -/
inductive Moves (fleet : Fleet) : Label → Fleet → Prop
  | link {name : String} {label : Link.Label CallId} {link : Link CallId}
      (own : label.isFromSession = false)
      (step : (fleet.link name).step label = some (link, none)) :
      Moves fleet (.link name label) (fleet.setLink name link)
  | answer {name : String} {label : Link.Label CallId} {link : Link CallId}
      {answer : Except Failure Unit} {session after : Session} {told : Session.Label}
      {report : Option Report} (own : label.isFromSession = false)
      (step : (fleet.link name).step label = some (link, some answer))
      (found : fleet.sessions.get? label.id.1 = some session)
      (told_eq : session.answerLabel? label.id.2 answer = some told)
      (moves : Session.Moves session told after report) :
      Moves fleet (.link name label)
        ((fleet.setLink name link).advance label.id.1 session after report)
  | session {id : String} {label : Session.Label} {session after : Session}
      {report : Option Report} (unanswered : label.isAnswer = false)
      (found : fleet.sessions.get? id = some session)
      (moves : Session.Moves session label after report) :
      Moves fleet (.session id label) (fleet.advance id session after report)

theorem deliver_eq_some_iff {fleet next : Fleet} {call : CallId} {answer : Except Failure Unit} :
    fleet.deliver call answer = some next ↔
      ∃ session told after report, fleet.sessions.get? call.1 = some session ∧
        session.answerLabel? call.2 answer = some told ∧
          Session.Moves session told after report ∧
            next = fleet.advance call.1 session after report := by
  unfold deliver
  constructor
  · intro step
    split at step
    · cases step
    · rename_i session found
      split at step
      · cases step
      · rename_i told told_eq
        obtain ⟨same, after, report, found', moves, rfl⟩ := sessionStep_eq_some_iff.1 step
        obtain rfl : session = same := Option.some.inj (found.symm.trans found')
        exact ⟨session, told, after, report, found, told_eq, moves, rfl⟩
  · rintro ⟨session, told, after, report, found, told_eq, moves, rfl⟩
    simp only [found, told_eq]
    exact sessionStep_eq_some_iff.2 ⟨session, after, report, found, moves, rfl⟩

theorem isFromSession_eq_false {label : Link.Label CallId}
    (notRequest : ∀ call, label = .request call → False)
    (notDrop : ∀ call, label = .drop call → False) : label.isFromSession = false := by
  cases label with
  | request call => exact (notRequest call rfl).elim
  | drop call => exact (notDrop call rfl).elim
  | _ => rfl

/-- The relation holds exactly what the step function does. -/
theorem step_eq_some_iff {fleet next : Fleet} {label : Label} :
    fleet.step label = some next ↔ Moves fleet label next := by
  constructor
  · fun_cases Fleet.step fleet label <;> intro step
    case case2 id label unanswered =>
      obtain ⟨session, after, report, found, moves, rfl⟩ := sessionStep_eq_some_iff.1 step
      exact .session (Bool.eq_false_iff.2 unanswered) found moves
    case case6 name label notRequest notDrop link step_eq =>
      cases step
      exact .link (isFromSession_eq_false notRequest notDrop) step_eq
    case case7 name label notRequest notDrop link answer step_eq =>
      obtain ⟨session, told, after, report, found, told_eq, moves, rfl⟩ :=
        deliver_eq_some_iff.1 step
      exact .answer (isFromSession_eq_false notRequest notDrop) step_eq found told_eq moves
    all_goals cases step
  · intro moves
    cases moves with
    | @link name label link own step =>
        cases label with
        | request | drop => cases own
        | _ => simp only [Fleet.step, step]
    | @answer name label link answer session after told report own step found told_eq moves =>
        have delivered : (fleet.setLink name link).deliver label.id answer =
            some ((fleet.setLink name link).advance label.id.1 session after report) :=
          deliver_eq_some_iff.2 ⟨session, told, after, report, found, told_eq, moves, rfl⟩
        cases label with
        | request | drop => cases own
        | _ => simpa only [Fleet.step, step] using delivered
    | session unanswered found moves =>
        simp only [Fleet.step, unanswered, Bool.false_eq_true, if_false]
        exact sessionStep_eq_some_iff.2 ⟨_, _, _, found, moves, rfl⟩

/-! ## Sessions and the board -/

@[simp]
theorem report_sessions (fleet : Fleet) (id : String) (report : Option Report) :
    (fleet.report id report).sessions = fleet.sessions := by
  rcases report with - | ⟨state, failure⟩ | ⟨attempt, delay⟩ <;> rfl

theorem report_board (fleet : Fleet) (id : String) (report : Option Report) :
    (fleet.report id report).board =
      match report with
      | some (.state state failure) => fleet.board.report id state failure
      | some (.retry attempt delay) => fleet.board.reportRetry id attempt delay
      | none => fleet.board := by
  rcases report with - | ⟨state, failure⟩ | ⟨attempt, delay⟩ <;> rfl

@[simp]
theorem advance_sessions (fleet : Fleet) (id : String) (session next : Session)
    (report : Option Report) :
    (fleet.advance id session next report).sessions = fleet.sessions.insert id next :=
  report_sessions _ _ _

@[simp]
theorem advance_board (fleet : Fleet) (id : String) (session next : Session)
    (report : Option Report) :
    (fleet.advance id session next report).board = (fleet.report id report).board := by
  rw [advance, report_board, report_board]
  rfl

/-- In a step of a fleet one session goes on and what it reports is put on the board. -/
structure MovesSession (fleet : Fleet) (id : String) (session : Session) (label : Session.Label)
    (after : Session) (report : Option Report) (next : Fleet) : Prop where
  found : fleet.sessions.get? id = some session
  moves : Session.Moves session label after report
  sessions_eq : next.sessions = fleet.sessions.insert id after
  board_eq : next.board = (fleet.report id report).board

/-- Either no session goes on or one does, by its own label or because it gets an answer. -/
theorem Moves.sessions_and_board {fleet next : Fleet} {label : Label}
    (moves : Moves fleet label next) :
    (next.sessions = fleet.sessions ∧ next.board = fleet.board) ∨
      ∃ id session told after report, MovesSession fleet id session told after report next ∧
        (label = .session id told ∨ told.isAnswer = true) := by
  cases moves with
  | link => exact .inl ⟨rfl, rfl⟩
  | answer own step found told_eq moves =>
      right
      refine ⟨_, _, _, _, _, ⟨found, moves, by simp [setLink], ?_⟩, .inr ?_⟩
      · rw [advance_board, report_board, report_board]
        rfl
      · exact isAnswer_of_answerLabel? told_eq
  | session unanswered found moves =>
      exact .inr ⟨_, _, _, _, _, ⟨found, moves, by simp, by simp⟩, .inl rfl⟩

/-! ## What steps keep -/

/-- A session has been started for the forward of an id. -/
def Started (fleet : Fleet) (id : String) : Prop :=
  ∃ session, fleet.sessions.get? id = some session

/-- The board shows the forward of an id as closed. -/
def ShowsClosed (fleet : Fleet) (id : String) : Prop :=
  fleet.board.state? id = some .closed

/-- All forwards that were started are shown as closed. -/
def AllClosed (fleet : Fleet) : Prop :=
  ∀ id, fleet.Started id → fleet.ShowsClosed id

/-- The forwards remain the same, and so do the entries of closed ones. -/
structure Keeps (fleet next : Fleet) : Prop where
  started_iff : ∀ id, next.Started id ↔ fleet.Started id
  entered_eq : ∀ id, (next.board.entries.get? id).isSome = (fleet.board.entries.get? id).isSome
  entry_eq : ∀ id, fleet.ShowsClosed id →
    next.board.entries.get? id = fleet.board.entries.get? id

namespace Keeps

variable {fleet next : Fleet} {id : String}

theorem refl (fleet : Fleet) : fleet.Keeps fleet :=
  ⟨fun _ => Iff.rfl, fun _ => rfl, fun _ _ => rfl⟩

theorem started (keeps : fleet.Keeps next) (started : fleet.Started id) : next.Started id :=
  (keeps.started_iff id).2 started

theorem showsClosed (keeps : fleet.Keeps next) (closed : fleet.ShowsClosed id) :
    next.ShowsClosed id := by
  unfold ShowsClosed Status.Board.state? at closed ⊢
  rwa [keeps.entry_eq id closed]

theorem allClosed (keeps : fleet.Keeps next) (closed : fleet.AllClosed) : next.AllClosed := by
  intro id started
  apply keeps.showsClosed
  exact closed id ((keeps.started_iff id).1 started)

end Keeps

/-- A report changes nothing about a forward that is closed. -/
theorem keeps_report (fleet : Fleet) (id : String) (report : Option Report) :
    fleet.Keeps (fleet.report id report) := by
  constructor
  case started_iff =>
    intro other
    simp [Started]
  case entered_eq =>
    intro other
    rw [report_board]
    rcases report with - | ⟨state, failure⟩ | ⟨attempt, delay⟩
    · rfl
    · rw [Status.Board.get?_report]
      split <;> simp
    · rw [Status.Board.get?_reportRetry]
      split <;> simp
  case entry_eq =>
    intro other closed
    have refused : ¬ (other = id ∧ fleet.board.isOpen id = true) := by
      rintro ⟨rfl, accepted⟩
      rw [Status.Board.not_isOpen_of_closed closed] at accepted
      cases accepted
    rw [report_board]
    rcases report with - | ⟨state, failure⟩ | ⟨attempt, delay⟩
    · rfl
    · rw [Status.Board.get?_report, if_neg refused]
    · rw [Status.Board.get?_reportRetry, if_neg refused]

/-- A forward shows as closed after a report if it did before or the report says so. -/
theorem showsClosed_report_iff (fleet : Fleet) (id other : String) (report : Option Report) :
    (fleet.report id report).ShowsClosed other ↔
      fleet.ShowsClosed other ∨
        (other = id ∧ fleet.board.isOpen id = true ∧ report.bind Report.state? = some .closed) := by
  constructor
  · intro closed
    unfold ShowsClosed at closed
    rw [report_board] at closed
    rcases report with - | ⟨state, failure⟩ | ⟨attempt, delay⟩
    · exact .inl closed
    · rw [Status.Board.state?_report] at closed
      split at closed
      · rename_i accepted
        exact .inr ⟨accepted.1, accepted.2, closed⟩
      · exact .inl closed
    · rw [Status.Board.state?_reportRetry] at closed
      exact .inl closed
  · rintro (closed | ⟨rfl, accepted, told⟩)
    · exact (fleet.keeps_report id report).showsClosed closed
    · obtain ⟨report, rfl, told⟩ := Option.bind_eq_some_iff.1 told
      cases report with
      | state state failure =>
          obtain rfl : state = .closed := Option.some.inj told
          unfold ShowsClosed
          rw [report_board, Status.Board.state?_report, if_pos ⟨rfl, accepted⟩]
      | retry => cases told

theorem MovesSession.keeps {fleet next : Fleet} {id : String} {session after : Session}
    {label : Session.Label} {report : Option Report}
    (moves : MovesSession fleet id session label after report next) : fleet.Keeps next := by
  have reported := fleet.keeps_report id report
  constructor
  case started_iff =>
    intro other
    unfold Started
    rw [moves.sessions_eq, NameMap.get?_insert]
    by_cases same : other = id
    · simp [same, moves.found]
    · simp [same]
  case entered_eq =>
    intro other
    rw [moves.board_eq]
    exact reported.entered_eq other
  case entry_eq =>
    intro other closed
    rw [moves.board_eq]
    exact reported.entry_eq other closed

theorem Moves.keeps {fleet next : Fleet} {label : Label} (moves : Moves fleet label next) :
    fleet.Keeps next := by
  rcases moves.sessions_and_board with
    ⟨sessions_eq, board_eq⟩ | ⟨id, session, told, after, report, moves, -⟩
  · constructor
    case started_iff =>
      intro id
      rw [Started, Started, sessions_eq]
    case entered_eq =>
      intro id
      rw [board_eq]
    case entry_eq =>
      intro id closed
      rw [board_eq]
  · exact moves.keeps

/-- A forward that is started joins those that were. -/
theorem started_start_iff {fleet : Fleet} {policy : Retry.Policy} {asked : Bool}
    {forward : Forward} {id : String} :
    (fleet.start policy asked forward).Started id ↔ id = forward.id ∨ fleet.Started id := by
  unfold Started start
  rw [NameMap.get?_insert]
  by_cases same : id = forward.id
  · simp [same]
  · simp [same]

/-! ## Facts about all sessions -/

/-- Every session of a fleet has a property. -/
def Every (fleet : Fleet) (property : Session → Prop) : Prop :=
  ∀ id session, fleet.sessions.get? id = some session → property session

section Every

variable {fleet next : Fleet} {property : Session → Prop}

/-- What the steps of a session keep is kept by the steps of a fleet. -/
theorem Every.moves {label : Label} (every : fleet.Every property) (moves : Moves fleet label next)
    (kept : ∀ {id session told after report}, property session →
      Session.Moves session told after report →
        label = .session id told ∨ told.isAnswer = true → property after) :
    next.Every property := by
  intro id session found
  rcases moves.sessions_and_board with
    ⟨sessions_eq, -⟩ | ⟨mover, before, told, after, report, goes, label_eq⟩
  · rw [sessions_eq] at found
    exact every id session found
  · rw [goes.sessions_eq, NameMap.get?_insert] at found
    split at found
    · obtain rfl : after = session := Option.some.inj found
      exact kept (every mover before goes.found) goes.moves label_eq
    · exact every id session found

theorem Every.start {policy : Retry.Policy} {asked : Bool} {forward : Forward}
    (every : fleet.Every property) (begins : property (Session.fresh forward policy asked)) :
    (fleet.start policy asked forward).Every property := by
  intro id session found
  simp only [Fleet.start, NameMap.get?_insert] at found
  split at found
  · cases found
    exact begins
  · exact every id session found

theorem Every.report (every : fleet.Every property) (id : String) (report : Option Report) :
    (fleet.report id report).Every property := by
  intro other session found
  rw [report_sessions] at found
  exact every other session found

end Every

/-! ## Sessions that have closed -/

/-- Every session has an entry on the board, and the other way round; those that have closed
are shown as closed. -/
structure Sound (fleet : Fleet) : Prop where
  entered : ∀ id, fleet.Started id ↔ (fleet.board.entries.get? id).isSome = true
  closed : ∀ id session, fleet.sessions.get? id = some session → session.stage = .closed →
    fleet.ShowsClosed id

namespace Sound

variable {fleet next : Fleet}

/-- What keeps the forwards keeps their entries. -/
theorem entered_of_keeps (sound : fleet.Sound) (keeps : fleet.Keeps next) (id : String) :
    next.Started id ↔ (next.board.entries.get? id).isSome = true := by
  rw [keeps.started_iff, keeps.entered_eq]
  exact sound.entered id

theorem report (sound : fleet.Sound) (id : String) (report : Option Report) :
    (fleet.report id report).Sound := by
  have keeps := fleet.keeps_report id report
  constructor
  case entered => exact sound.entered_of_keeps keeps
  case closed =>
    intro other session found closed
    rw [report_sessions] at found
    apply keeps.showsClosed
    exact sound.closed other session found closed

theorem start (sound : fleet.Sound) (policy : Retry.Policy) (asked : Bool) (forward : Forward) :
    (fleet.start policy asked forward).Sound := by
  constructor
  case entered =>
    intro id
    rw [started_start_iff, sound.entered]
    simp only [Fleet.start, Status.Board.get?_register]
    by_cases same : id = forward.id
    · simp [same]
    · simp [same]
  case closed =>
    intro id session found closed
    simp only [Fleet.start, NameMap.get?_insert] at found
    simp only [ShowsClosed, Fleet.start, Status.Board.state?, Status.Board.get?_register]
    by_cases same : id = forward.id
    · rw [if_pos same] at found
      cases found
      cases closed
    · rw [if_neg same] at found ⊢
      exact sound.closed id session found closed

theorem moves {label : Label} (sound : fleet.Sound) (moves : Moves fleet label next) :
    next.Sound := by
  have keeps := moves.keeps
  constructor
  case entered => exact sound.entered_of_keeps keeps
  case closed =>
    intro id session found closed
    rcases moves.sessions_and_board with
      ⟨sessions_eq, -⟩ | ⟨mover, before, told, after, report, goes, -⟩
    · rw [sessions_eq] at found
      apply keeps.showsClosed
      exact sound.closed id session found closed
    · rw [goes.sessions_eq, NameMap.get?_insert] at found
      split at found
      · rename_i same
        obtain rfl : after = session := Option.some.inj found
        subst same
        rcases goes.moves.closed_iff.1 closed with already | ⟨failure, rfl⟩
        · apply keeps.showsClosed
          exact sound.closed id before goes.found already
        · unfold ShowsClosed
          rw [goes.board_eq]
          apply (fleet.showsClosed_report_iff id id _).2
          have entered := (sound.entered id).1 ⟨before, goes.found⟩
          rcases Status.Board.isOpen_or_closed entered with accepted | shown
          · exact .inr ⟨rfl, accepted, rfl⟩
          · exact .inl shown
      · apply keeps.showsClosed
        exact sound.closed id session found closed

end Sound

end Supervisor.Fleet

end PortTunnel
