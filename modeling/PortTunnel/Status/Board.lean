import PortTunnel.Failure
import PortTunnel.Forward.Basic
import PortTunnel.NameMap
import PortTunnel.Number.Power
import PortTunnel.Status.State

/-!
# The status board

Forwards report their states to a board.  The board keeps the current status of
every forward in a table and tells each accepted report to its followers as an
event.  The two happen one after the other: first the table changes, then the
event is told.  So each kind of report is given in two parts, the change of the
table, which may be refused, and the telling; when nobody else reports between
them they make up one whole report.

A forward that is closed stays closed: reports on it are dropped.
-/

namespace PortTunnel.Status

/-- The status of a forward. -/
structure Entry where
  forward : Forward
  state : State := .idle
  /-- The last failure since the forward was last active. -/
  lastFailure : Option Failure := none
  /-- The number of the last retry since the forward was last active. -/
  retryCount : UInt32 := 0
  /-- Whether the forward has been active. -/
  everActive : Bool := false
  /-- How often the forward has changed its state. -/
  moves : Nat := 0
  deriving DecidableEq

/-- What followers are told. -/
inductive Event where
  | stateChanged (id : String) (state : State) (message : Option String)
  | retryScheduled (id : String) (attempt : UInt32) (delayMillis : Nat)
  deriving DecidableEq, Repr

/-- The forward that an event is about. -/
def Event.id : Event → String
  | stateChanged id _ _ | retryScheduled id _ _ => id

/-- The status after a report. -/
def Entry.reported (entry : Entry) (state : State) (failure : Option Failure) : Entry :=
  let moved :=
    { entry with
      state := state
      moves := if entry.state = state then entry.moves else entry.moves + 1 }
  match state with
  | .active => { moved with everActive := true, retryCount := 0, lastFailure := none }
  | _ => { moved with lastFailure := failure.or entry.lastFailure }

/-- A table of forwards, and all that was told about them. -/
structure Board where
  entries : NameMap Entry := .empty
  /-- All events, the oldest first. -/
  told : Array Event := #[]

namespace Board

instance : Inhabited Board := ⟨{}⟩

/-- Enter a forward, which is idle; an entry of the same id is replaced. -/
def register (board : Board) (forward : Forward) : Board :=
  { board with entries := board.entries.insert forward.id { forward := forward } }

/-- The state of a forward. -/
def state? (board : Board) (id : String) : Option State :=
  (board.entries.get? id).map (·.state)

/-- Whether reports on an id are accepted: it has been registered and is not
closed. -/
def isOpen (board : Board) (id : String) : Bool :=
  match board.state? id with
  | none | some .closed => false
  | some _ => true

/-- The table after a report; none if the report is dropped. -/
def update? (board : Board) (id : String) (state : State) (failure : Option Failure) :
    Option Board :=
  if board.isOpen id then
    some { board with entries := board.entries.modify id (·.reported state failure) }
  else none

/-- The table after the announcement of a retry; none if it is dropped. -/
def updateRetry? (board : Board) (id : String) (attempt : UInt32) : Option Board :=
  if board.isOpen id then
    some
      { board with
        entries := board.entries.modify id fun entry => { entry with retryCount := attempt } }
  else none

/-- Tell an event. -/
def tell (board : Board) (event : Event) : Board :=
  { board with told := board.told.push event }

/-- The event of a report. -/
def reportEvent (id : String) (state : State) (failure : Option Failure) : Event :=
  .stateChanged id state (failure.map Failure.message)

/-- The event of a retry. -/
def retryEvent (id : String) (attempt : UInt32) (delay : Span) : Event :=
  .retryScheduled id attempt (min delay.millis (Number.twoTo 64 - 1))

/-- A whole report. -/
def report (board : Board) (id : String) (state : State) (failure : Option Failure) : Board :=
  match board.update? id state failure with
  | some changed => changed.tell (reportEvent id state failure)
  | none => board

/-- The whole announcement of a retry. -/
def reportRetry (board : Board) (id : String) (attempt : UInt32) (delay : Span) : Board :=
  match board.updateRetry? id attempt with
  | some changed => changed.tell (retryEvent id attempt delay)
  | none => board

/-- A summary of a board with a number of followers. -/
def summary (board : Board) (followers : Nat) : String :=
  "StatusReporter \x7b forwards: " ++ board.entries.size.repr ++ ", subscribers: "
    ++ followers.repr ++ " \x7d"

end Board

/-! ## Following -/

/-- The number of events that are kept for followers who fall behind. -/
def keptEvents : Nat := 256

/-- The place of a follower in what is told: the number of events that it has
received or lost. -/
structure Follower where
  position : Nat
  deriving DecidableEq, Repr, Inhabited

/-- What a follower receives: how many events it lost, and the ones after those. -/
structure Delivery where
  lost : Nat
  events : List Event
  deriving DecidableEq, Repr

namespace Board

/-- Follow a board from now on. -/
def follow (board : Board) : Follower :=
  ⟨board.told.size⟩

/-- Receive all that a follower has not received yet and that is still kept. -/
def deliver (board : Board) (follower : Follower) : Delivery × Follower :=
  let start := max follower.position (board.told.size - keptEvents)
  (⟨start - follower.position, (board.told.extract start board.told.size).toList⟩,
    board.follow)

end Board

end PortTunnel.Status
