import PortTunnel.Failure
import PortTunnel.Forward.Basic
import PortTunnel.Tunnel.Pump

/-!
# Stream pairs

A stream pair joins an accepted client to a channel.  The first client of a
serving phase is given the channel that stands by; any other pair calls the
cluster for a channel of its own.  From then on two pumps run side by side, and
the pair ends when both are finished, when one of them breaks, or when it is
cancelled.

A failed read from the channel means that the channel is lost.  A failed write
to it ends only this pair: if the channel is broken, reading will tell.

Channels are named by the calls that opened them.
-/

namespace PortTunnel.Tunnel

/-- How a pair ended. -/
inductive Exit where
  | closed
  /-- The client went away. -/
  | localFailed
  /-- No channel was opened for the client. -/
  | openFailed (failure : Failure)
  /-- The channel was lost. -/
  | remoteFailed (failure : Failure)
  | cancelled
  deriving DecidableEq

/-- What a pair is doing. -/
inductive PairStage where
  /-- It has not begun; it may have been given a channel. -/
  | waiting (channel : Option Nat)
  /-- It waits for the answer to a call. -/
  | opening (call : Nat)
  | relaying (channel : Nat) (outbound inbound : Pump)
  deriving DecidableEq, Repr

/-- A pair.  Clients are numbered as they are accepted. -/
structure Pair where
  client : Nat
  stage : PairStage
  deriving DecidableEq, Repr

namespace Pair

/-- What may happen to a pair. -/
inductive Label where
  | start
  | opened
  | openFailed (failure : Failure)
  | relay (direction : Direction) (label : Pump.Label)
  | cancelled
  deriving DecidableEq

/-- What concerns others about a step of a pair. -/
inductive Effect where
  | none
  /-- A call was made. -/
  | called
  /-- A channel was opened afresh. -/
  | opened
  | carried (direction : Direction) (count : Nat)
  deriving DecidableEq, Repr

/-- What a pair has come to. -/
inductive Outcome where
  | continues (stage : PairStage) (effect : Effect)
  | ends (exit : Exit)
  deriving DecidableEq

/-- The failure of a channel on which reading failed. -/
def lost (destination : Destination) (reason : String) : Failure :=
  .connectFailed ("channel to " ++ destination.text ++ " lost: " ++ reason)

/-- How a pair ends when reading fails. -/
def readExit (destination : Destination) (reason : String) : Direction → Exit
  | .outbound => .localFailed
  | .inbound => .remoteFailed (lost destination reason)

/-- How a pair ends when writing fails. -/
def writeExit : Direction → Exit
  | .outbound => .closed
  | .inbound => .localFailed

/-- Two pumps as a stage, or the end of the pair when both are finished. -/
def relayOutcome (channel : Nat) (outbound inbound : Pump) (effect : Effect) : Outcome :=
  match outbound, inbound with
  | .finished, .finished => .ends .closed
  | outbound, inbound => .continues (.relaying channel outbound inbound) effect

/-- Follow a label of one of the pumps. -/
def relayStep (destination : Destination) (channel : Nat) (outbound inbound : Pump)
    (direction : Direction) (label : Pump.Label) : Option Outcome :=
  let pump :=
    match direction with
    | .outbound => outbound
    | .inbound => inbound
  match pump.step label with
  | none => none
  | some (.readBroke reason) => some (.ends (readExit destination reason direction))
  | some (.writeBroke _) => some (.ends (writeExit direction))
  | some (.continues next count) =>
      let effect := if count = 0 then .none else .carried direction count
      match direction with
      | .outbound => some (relayOutcome channel next inbound effect)
      | .inbound => some (relayOutcome channel outbound next effect)

/-- Follow a label, if it can happen.  A call that is made has the number
`nextCall`; `isCancelled` tells whether the pair has been asked to end. -/
def step (destination : Destination) (nextCall : Nat) (isCancelled : Bool) (stage : PairStage)
    (label : Label) : Option Outcome :=
  match stage, label with
  | .waiting (some channel), .start =>
      some (.continues (.relaying channel .reading .reading) .none)
  | .waiting none, .start => some (.continues (.opening nextCall) .called)
  | .opening call, .opened => some (.continues (.relaying call .reading .reading) .opened)
  | .opening _, .openFailed failure => some (.ends (.openFailed failure))
  | .relaying channel outbound inbound, .relay direction label =>
      relayStep destination channel outbound inbound direction label
  | _, .cancelled => if isCancelled then some (.ends .cancelled) else none
  | _, _ => none

end Pair

end PortTunnel.Tunnel
