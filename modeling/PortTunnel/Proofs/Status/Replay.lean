import PortTunnel.Proofs.Status.Board
import PortTunnel.Proofs.Trail

/-!
# Replaying events

Followers of a board are told events and do not see the table.  Each event holds
enough to make the same change to a view of their own, so whoever replays the
events of a forward from its registration on sees what the table shows.

A notice is what one call reports on a forward.  The change of the table and the
event are two parts of one call, and each lemma below is about one of the parts,
so that they can also be used where calls overlap.
-/

namespace PortTunnel.Status

/-! ## Notices -/

/-- What is reported on a forward. -/
inductive Notice where
  | report (id : String) (state : State) (failure : Option Failure)
  | retry (id : String) (attempt : UInt32) (delay : Span)
  deriving DecidableEq

namespace Notice

/-- The forward that a notice is about. -/
def id : Notice → String
  | report id _ _ | retry id _ _ => id

/-- The event that is told when a notice is accepted. -/
def event : Notice → Event
  | report id state failure => Board.reportEvent id state failure
  | retry id attempt delay => Board.retryEvent id attempt delay

/-- The status after a notice that is accepted. -/
def apply : Notice → Entry → Entry
  | report _ state failure, entry => entry.reported state failure
  | retry _ attempt _, entry => { entry with retryCount := attempt }

@[simp]
theorem event_id (notice : Notice) : notice.event.id = notice.id := by
  cases notice <;> rfl

end Notice

namespace Board

/-- The table after a notice; none if it is dropped. -/
def change? (board : Board) : Notice → Option Board
  | .report id state failure => board.update? id state failure
  | .retry id attempt _ => board.updateRetry? id attempt

/-- A whole call with a notice. -/
def notify (board : Board) : Notice → Board
  | .report id state failure => board.report id state failure
  | .retry id attempt delay => board.reportRetry id attempt delay

variable {board changed : Board} {notice : Notice} {id : String}

theorem change?_eq (board : Board) (notice : Notice) :
    board.change? notice =
      if board.isOpen notice.id then
        some { board with entries := board.entries.modify notice.id notice.apply }
      else none := by
  cases notice <;> rfl

theorem change?_eq_some_iff :
    board.change? notice = some changed ↔
      board.isOpen notice.id = true ∧
        { board with entries := board.entries.modify notice.id notice.apply } = changed := by
  rw [change?_eq, Option.ite_none_right_eq_some, Option.some.injEq]

theorem change?_eq_none_iff : board.change? notice = none ↔ board.isOpen notice.id = false := by
  simp [change?_eq]

/-- A whole call changes the table and then tells the event. -/
theorem notify_of_change? (changes : board.change? notice = some changed) :
    board.notify notice = changed.tell notice.event := by
  cases notice with
  | report id state failure =>
      rw [change?] at changes
      simp only [notify, report, changes]
      rfl
  | retry id attempt delay =>
      rw [change?] at changes
      simp only [notify, reportRetry, changes]
      rfl

theorem notify_of_dropped (dropped : board.change? notice = none) :
    board.notify notice = board := by
  cases notice with
  | report id state failure =>
      rw [change?] at dropped
      simp only [notify, report, dropped]
  | retry id attempt delay =>
      rw [change?] at dropped
      simp only [notify, reportRetry, dropped]

theorem get?_of_change? (changes : board.change? notice = some changed) :
    changed.entries.get? id =
      if id = notice.id then (board.entries.get? id).map notice.apply
      else board.entries.get? id := by
  obtain ⟨-, rfl⟩ := change?_eq_some_iff.1 changes
  exact NameMap.get?_modify _ _ _ _

end Board

/-! ## Views -/

/-- What a follower can know of a forward. -/
structure View where
  state : State := .idle
  everActive : Bool := false
  retryCount : UInt32 := 0
  message : Option String := none
  deriving DecidableEq

/-- What an entry shows. -/
def Entry.view (entry : Entry) : View where
  state := entry.state
  everActive := entry.everActive
  retryCount := entry.retryCount
  message := entry.lastFailure.map Failure.message

/-- The view after an event. -/
def View.see (view : View) : Event → View
  | .stateChanged _ .active _ =>
      { state := .active, everActive := true, retryCount := 0, message := none }
  | .stateChanged _ state message =>
      { view with state := state, message := message.or view.message }
  | .retryScheduled _ attempt _ => { view with retryCount := attempt }

/-- The view after all events. -/
def View.replay (view : View) (events : List Event) : View :=
  events.foldl see view

/-- The event of a notice does to a view what the notice does to the entry. -/
theorem Notice.view_apply (notice : Notice) (entry : Entry) :
    (notice.apply entry).view = entry.view.see notice.event := by
  cases notice with
  | report id state failure =>
      cases state <;> cases failure <;> rfl
  | retry id attempt delay => rfl

/-! ## Tables and events -/

/-- A table shows of a forward what events tell of it, and they tell that it is closed only if
it is, and last. -/
structure Mirrors (board : Board) (id : String) (origin : View) (events : List Event) : Prop where
  shown : ∃ entry, board.entries.get? id = some entry ∧ entry.view = origin.replay events
  closing : ∀ early late message, events = early ++ .stateChanged id .closed message :: late →
    late = [] ∧ board.isOpen id = false

namespace Mirrors

variable {board changed : Board} {notice : Notice} {id : String} {origin : View}
  {events : List Event}

theorem begun {entry : Entry} (found : board.entries.get? id = some entry) :
    Mirrors board id entry.view [] := by
  constructor
  case shown => exact ⟨entry, found, rfl⟩
  case closing => simp

/-- Only the entries count. -/
theorem of_entries_eq (mirrors : Mirrors board id origin events)
    (same : changed.entries.get? id = board.entries.get? id) :
    Mirrors changed id origin events := by
  have open_eq : changed.isOpen id = board.isOpen id := by
    simp only [Board.isOpen, Board.state?, same]
  constructor
  case shown => exact same ▸ mirrors.shown
  case closing => exact open_eq ▸ mirrors.closing

/-- A change of the entry is told by its event. -/
theorem change (mirrors : Mirrors board id origin events)
    (changes : board.change? notice = some changed) (about : notice.id = id) :
    Mirrors changed id origin (events ++ [notice.event]) := by
  obtain ⟨entry, found, view_eq⟩ := mirrors.shown
  have found' : changed.entries.get? id = some (notice.apply entry) := by
    rw [Board.get?_of_change? changes, if_pos about.symm, found, Option.map_some]
  constructor
  case shown =>
    refine ⟨_, found', ?_⟩
    rw [Notice.view_apply, view_eq, View.replay, View.replay, List.foldl_append]
    rfl
  case closing =>
    intro early late message events_eq
    have accepted : board.isOpen id = true := about ▸ (Board.change?_eq_some_iff.1 changes).1
    rcases concat_eq_append_cons events_eq with ⟨-, event_eq, rfl⟩ | ⟨rest, before_eq, -⟩
    · -- The event is the last one, so the notice has closed the forward.
      have closes : (notice.apply entry).state = .closed := by
        have view_eq := congrArg View.state (notice.view_apply entry)
        rw [event_eq] at view_eq
        exact view_eq
      have closed : changed.state? id = some .closed := by
        rw [Board.state?, found', Option.map_some, closes]
      exact ⟨rfl, Board.not_isOpen_of_closed closed⟩
    · -- The forward was closed before and would not have accepted the notice.
      have refused := (mirrors.closing early rest message before_eq).2
      cases accepted.symm.trans refused

end Mirrors

/-! ## Calls one after another -/

/-- A whole call on a board. -/
inductive Call where
  | register (forward : Forward)
  | notify (notice : Notice)
  deriving DecidableEq

/-- The forward that a call is about. -/
def Call.id : Call → String
  | register forward => forward.id
  | notify notice => notice.id

namespace Board

/-- Make a call. -/
def perform (board : Board) : Call → Board
  | .register forward => board.register forward
  | .notify notice => board.notify notice

/-- Make calls one after another. -/
def performAll (board : Board) (calls : List Call) : Board :=
  calls.foldl perform board

/-- The events about a forward that were told after the first `since` of all events. -/
def toldAbout (board : Board) (id : String) (since : Nat) : List Event :=
  (board.told.toList.drop since).filter (·.id == id)

variable {board : Board} {id : String} {since : Nat} {call : Call}

theorem toldAbout_size (board : Board) (id : String) : board.toldAbout id board.told.size = [] := by
  rw [toldAbout, List.drop_of_length_le (Nat.le_of_eq board.told.length_toList), List.filter_nil]

theorem toldAbout_tell (event : Event) (past : since ≤ board.told.size) :
    (board.tell event).toldAbout id since =
      board.toldAbout id since ++ if event.id = id then [event] else [] := by
  have past : since ≤ board.told.toList.length := past
  rw [toldAbout, tell, Array.toList_push, List.drop_append_of_le_length past, List.filter_append,
    toldAbout]
  by_cases about : event.id = id <;> simp [about]

theorem toldAbout_notify {changed : Board} {notice : Notice}
    (changes : board.change? notice = some changed) (past : since ≤ board.told.size) :
    (board.notify notice).toldAbout id since =
      board.toldAbout id since ++ if notice.id = id then [notice.event] else [] := by
  rw [notify_of_change? changes, ← notice.event_id]
  obtain ⟨-, rfl⟩ := change?_eq_some_iff.1 changes
  exact toldAbout_tell _ past

theorem size_le_perform (board : Board) (call : Call) :
    board.told.size ≤ (board.perform call).told.size := by
  cases call with
  | register forward => exact Nat.le_refl _
  | notify notice =>
      cases changes : board.change? notice with
      | none => simp [perform, notify_of_dropped changes]
      | some changed =>
          obtain ⟨-, rfl⟩ := change?_eq_some_iff.1 changes
          simp [perform, notify_of_change? changes, tell]

/-- A call on one forward leaves the entries of all others. -/
theorem get?_perform_of_ne (board : Board) (other : call.id ≠ id) :
    (board.perform call).entries.get? id = board.entries.get? id := by
  cases call with
  | register forward => exact (get?_register _ _).trans (if_neg (Ne.symm other))
  | notify notice =>
      cases changes : board.change? notice with
      | none => simp [perform, notify_of_dropped changes]
      | some changed =>
          simp only [perform, notify_of_change? changes]
          exact (get?_of_change? changes).trans (if_neg (Ne.symm other))

/-- It tells nothing about them either. -/
theorem toldAbout_perform_of_ne (past : since ≤ board.told.size) (other : call.id ≠ id) :
    (board.perform call).toldAbout id since = board.toldAbout id since := by
  cases call with
  | register forward => rfl
  | notify notice =>
      cases changes : board.change? notice with
      | none => simp [perform, notify_of_dropped changes]
      | some changed =>
          have elsewhere : notice.id ≠ id := other
          rw [perform, toldAbout_notify changes past, if_neg elsewhere, List.append_nil]

end Board

section Performing

variable {board : Board} {id : String} {origin : View} {since : Nat}

/-- Every call but a new registration keeps the table and the events of a forward alike. -/
theorem Mirrors.perform {call : Call}
    (mirrors : Mirrors board id origin (board.toldAbout id since))
    (past : since ≤ board.told.size)
    (unregistered : ∀ forward, call = .register forward → forward.id ≠ id) :
    Mirrors (board.perform call) id origin ((board.perform call).toldAbout id since) := by
  by_cases about : call.id = id
  · cases call with
    | register forward => exact (unregistered forward rfl about).elim
    | notify notice =>
        cases changes : board.change? notice with
        | none => rwa [Board.perform, Board.notify_of_dropped changes]
        | some changed =>
            have about : notice.id = id := about
            rw [Board.perform, Board.toldAbout_notify changes past, if_pos about,
              Board.notify_of_change? changes]
            exact (mirrors.change changes about).of_entries_eq rfl
  · rw [Board.toldAbout_perform_of_ne past about]
    exact mirrors.of_entries_eq (board.get?_perform_of_ne about)

theorem Mirrors.performAll {calls : List Call}
    (mirrors : Mirrors board id origin (board.toldAbout id since))
    (past : since ≤ board.told.size)
    (unregistered : ∀ forward, .register forward ∈ calls → forward.id ≠ id) :
    Mirrors (board.performAll calls) id origin ((board.performAll calls).toldAbout id since) := by
  induction calls generalizing board with
  | nil => exact mirrors
  | cons call calls ih =>
      apply ih
      · apply mirrors.perform past
        rintro forward rfl
        exact unregistered forward List.mem_cons_self
      · exact Nat.le_trans past (board.size_le_perform call)
      · exact fun forward member => unregistered forward (List.mem_cons_of_mem _ member)

/-- Nothing is known of a forward that has not been registered. -/
theorem unknown_of_performAll {calls : List Call} (absent : board.entries.get? id = none)
    (past : since ≤ board.told.size)
    (unregistered : ∀ forward, .register forward ∈ calls → forward.id ≠ id) :
    (board.performAll calls).entries.get? id = none ∧
      (board.performAll calls).toldAbout id since = board.toldAbout id since := by
  induction calls generalizing board with
  | nil => exact ⟨absent, rfl⟩
  | cons call calls ih =>
      have same : (board.perform call).entries.get? id = none ∧
          (board.perform call).toldAbout id since = board.toldAbout id since := by
        by_cases about : call.id = id
        · cases call with
          | register forward => exact (unregistered forward List.mem_cons_self about).elim
          | notify notice =>
              have refused : board.isOpen notice.id = false := by
                rw [show notice.id = id from about, Board.isOpen, Board.state?, absent]
                rfl
              rw [Board.perform, Board.notify_of_dropped (Board.change?_eq_none_iff.2 refused)]
              exact ⟨absent, rfl⟩
        · rw [board.get?_perform_of_ne about, Board.toldAbout_perform_of_ne past about]
          exact ⟨absent, rfl⟩
      rw [← same.2]
      apply ih same.1
      · exact Nat.le_trans past (board.size_le_perform call)
      · exact fun forward member => unregistered forward (List.mem_cons_of_mem _ member)

end Performing

/-- What a board shows and tells after calls that were made one after another. -/
structure Reflected (calls : List Call) (board : Board) : Prop where
  /-- The events of a forward since it was last registered tell what a snapshot shows of it. -/
  replays : ∀ before forward after, calls = before ++ .register forward :: after →
    (∀ other, .register other ∈ after → other.id ≠ forward.id) → ∀ counters,
      ∃ standing, (board.snapshot counters).get? forward.id = some standing ∧
        standing.entry.view = View.replay {}
          (board.toldAbout forward.id ((default : Board).performAll before).told.size)
  /-- None of them comes after one that tells that the forward is closed. -/
  closing : ∀ before forward after, calls = before ++ .register forward :: after →
    (∀ other, .register other ∈ after → other.id ≠ forward.id) → ∀ early late message,
      board.toldAbout forward.id ((default : Board).performAll before).told.size =
        early ++ .stateChanged forward.id .closed message :: late → late = []
  /-- Nothing is shown or told of a forward that was never registered. -/
  unknown : ∀ id, (∀ forward, .register forward ∈ calls → forward.id ≠ id) →
    (∀ counters, (board.snapshot counters).get? id = none) ∧ board.toldAbout id 0 = []
  /-- A notice on an unknown or closed forward changes nothing and tells nothing. -/
  dropped : ∀ notice, board.state? notice.id = none ∨ board.state? notice.id = some .closed →
    board.perform (.notify notice) = board
  /-- Any other notice is told. -/
  told : ∀ notice state, board.state? notice.id = some state → state ≠ .closed →
    (board.perform (.notify notice)).told = board.told.push notice.event
  /-- A call on one forward changes the entry of no other. -/
  others : ∀ call id, call.id ≠ id →
    (board.perform call).entries.get? id = board.entries.get? id

/-- Whatever calls are made one after another, the events tell exactly what the table shows. -/
theorem events_reflect_table (calls : List Call) :
    Reflected calls ((default : Board).performAll calls) := by
  have registered {before after : List Call} {forward : Forward}
      (calls_eq : calls = before ++ .register forward :: after)
      (last : ∀ other, .register other ∈ after → other.id ≠ forward.id) :
      Mirrors ((default : Board).performAll calls) forward.id {}
        (((default : Board).performAll calls).toldAbout forward.id
          ((default : Board).performAll before).told.size) := by
    have entered : (((default : Board).performAll before).register forward).entries.get?
        forward.id = some { forward := forward } := by
      rw [Board.get?_register, if_pos rfl]
    have silent : (((default : Board).performAll before).register forward).toldAbout forward.id
        ((default : Board).performAll before).told.size = [] :=
      Board.toldAbout_size (((default : Board).performAll before).register forward) _
    rw [calls_eq, Board.performAll, List.foldl_append, List.foldl_cons]
    exact (silent ▸ Mirrors.begun entered).performAll (Nat.le_refl _) last
  constructor
  case replays =>
    intro before forward after calls_eq last counters
    obtain ⟨entry, found, view_eq⟩ := (registered calls_eq last).shown
    refine ⟨⟨entry, counters forward.id⟩, ?_, view_eq⟩
    rw [Board.get?_snapshot, found, Option.map_some]
  case closing =>
    intro before forward after calls_eq last early late message events_eq
    exact ((registered calls_eq last).closing early late message events_eq).1
  case unknown =>
    intro id unregistered
    have begins : (default : Board).entries.get? id = none := rfl
    obtain ⟨absent, silent⟩ := unknown_of_performAll begins (Nat.zero_le _) unregistered
    refine ⟨fun counters => ?_, silent⟩
    rw [Board.get?_snapshot, absent, Option.map_none]
  case dropped =>
    intro notice refused
    apply Board.notify_of_dropped
    rw [Board.change?_eq_none_iff]
    rcases refused with absent | closed
    · rw [Board.isOpen, absent]
    · exact Board.not_isOpen_of_closed closed
  case told =>
    intro notice state state_eq open_
    have accepted : ((default : Board).performAll calls).isOpen notice.id = true := by
      rw [Board.isOpen, state_eq]
      cases state with
      | closed => exact (open_ rfl).elim
      | _ => rfl
    have changes := Board.change?_eq_some_iff.2 ⟨accepted, rfl⟩
    rw [Board.perform, Board.notify_of_change? changes]
    rfl
  case others => exact fun call id other => Board.get?_perform_of_ne _ other

end PortTunnel.Status
