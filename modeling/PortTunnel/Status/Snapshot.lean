import PortTunnel.Address.Text
import PortTunnel.Forward.Layout
import PortTunnel.Status.Board
import PortTunnel.Text.Column

/-!
# Snapshots

A snapshot holds the status and the counters of all forwards at one moment.
-/

namespace PortTunnel.Status

/-- The status of a forward with its counters. -/
structure Standing where
  entry : Entry
  counters : Counters
  deriving DecidableEq

/-- Whether a forward never became active, or ended on its local port. -/
def Standing.isFailed (standing : Standing) : Bool :=
  !standing.entry.everActive ||
    (standing.entry.state == .closed &&
      standing.entry.lastFailure.map (·.kind) == some .bindFailed)

/-- The status of all forwards, by id. -/
abbrev Snapshot := NameMap Standing

/-- The board at this moment, given the counters of each forward. -/
def Board.snapshot (board : Board) (counters : String → Counters) : Snapshot :=
  ⟨board.entries.toList.map fun entry => (entry.1, ⟨entry.2, counters entry.1⟩),
    List.pairwise_map.2 board.entries.sorted⟩

namespace Snapshot

/-- The state of a forward. -/
def state? (snapshot : Snapshot) (id : String) : Option State :=
  (snapshot.get? id).map fun standing => standing.entry.state

/-- Whether all forwards are in a state. -/
def allIn (snapshot : Snapshot) (state : State) : Bool :=
  snapshot.values.all fun standing => standing.entry.state == state

/-- The forwards that never became active or ended on their local port. -/
def failed (snapshot : Snapshot) : List Standing :=
  snapshot.values.filter Standing.isFailed

/-- Whether no forward failed. -/
def isHealthy (snapshot : Snapshot) : Bool :=
  snapshot.values.all fun standing => !standing.isFailed

/-! ## As a table -/

/-- A row of the table. -/
def row (forward localEnd state retries connections sent received failure : String) : String :=
  Text.flushLeft 48 forward ++ " " ++ Text.flushLeft 22 localEnd ++ " "
    ++ Text.flushLeft 10 state ++ " " ++ Text.flushRight 7 retries ++ " "
    ++ Text.flushRight 6 connections ++ " " ++ Text.flushRight 12 sent ++ " "
    ++ Text.flushRight 12 received ++ "  " ++ failure ++ "\n"

/-- The row of a forward. -/
def standingRow (id : String) (standing : Standing) : String :=
  let entry := standing.entry
  row id entry.forward.localEndpoint.text entry.state.name entry.retryCount.toNat.repr
    standing.counters.connections.repr standing.counters.sent.repr
    standing.counters.received.repr ((entry.lastFailure.map Failure.message).getD "")

/-- A snapshot as a table. -/
def table (snapshot : Snapshot) : String :=
  row "FORWARD" "LOCAL" "STATE" "RETRIES" "CONNS" "SENT" "RECEIVED" "ERROR"
    ++ String.join (snapshot.toList.map fun entry => standingRow entry.1 entry.2)

end Snapshot

end PortTunnel.Status
