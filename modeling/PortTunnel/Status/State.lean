import PortTunnel.Schema.Choice
import PortTunnel.Schema.Record

/-!
# States and counters of forwards

A forward is in one of five states.  `closed` is final.  Its counters count the
clients it accepted and the bytes that it carried for them.
-/

namespace PortTunnel.Status

/-- The state of a forward. -/
inductive State where
  /-- It has not begun. -/
  | idle
  /-- It asks the cluster for a channel. -/
  | connecting
  /-- Its last channel was opened. -/
  | active
  /-- Its last channel failed. -/
  | degraded
  /-- It has ended. -/
  | closed
  deriving DecidableEq, Repr, Inhabited

namespace State

/-- All states. -/
def all : List State := [idle, connecting, active, degraded, closed]

/-- The name of a state. -/
def name : State → String
  | idle => "idle"
  | connecting => "connecting"
  | active => "active"
  | degraded => "degraded"
  | closed => "closed"

/-- The state of a name. -/
def ofName? (name : String) : Option State :=
  all.find? fun state => state.name == name

/-- A state is written by its name. -/
def reader : Schema.Reader State :=
  .choice (all.map name) ofName?

end State

/-- What a forward has carried.  These are whole numbers, which words of 64 bits hold as long as
they fit: see `Counters.Fits`. -/
structure Counters where
  /-- The clients accepted so far. -/
  connections : Nat := 0
  /-- The accepted clients that are not done with. -/
  live : Nat := 0
  /-- The bytes from clients to the cluster. -/
  sent : Nat := 0
  /-- The bytes from the cluster to clients. -/
  received : Nat := 0
  deriving DecidableEq, Repr, Inhabited

namespace Counters

/-- Words of 64 bits hold all counters. -/
structure Fits (counters : Counters) : Prop where
  connections : counters.connections < Number.twoTo 64
  live : counters.live < Number.twoTo 64
  sent : counters.sent < Number.twoTo 64
  received : counters.received < Number.twoTo 64

open Schema

/-- A number of 64 bits. -/
def count : Reader Nat :=
  .unsigned 64 "u64"

/-- All counters have to be given. -/
def record : Record Counters where
  title := "struct ForwardStats"
  blank := {}
  fields :=
    [.of "connectionCount" true count fun value counters =>
        { counters with connections := value },
      .of "activeConnections" true count fun value counters => { counters with live := value },
      .of "bytesSent" true count fun value counters => { counters with sent := value },
      .of "bytesReceived" true count fun value counters => { counters with received := value }]
  strict := false

/-- Counters as JSON. -/
def toJson (counters : Counters) : Json.Value :=
  .object
    [("connectionCount", .integer counters.connections),
      ("activeConnections", .integer counters.live),
      ("bytesSent", .integer counters.sent),
      ("bytesReceived", .integer counters.received)]

end Counters

end PortTunnel.Status
