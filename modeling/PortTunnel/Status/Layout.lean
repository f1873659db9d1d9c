import PortTunnel.Forward.Layout
import PortTunnel.Status.Snapshot

/-!
# Statuses and events as JSON

Moments are not kept, so they are given when a snapshot is written.
-/

namespace PortTunnel.Status

/-- A value that may be missing. -/
def orNull {α : Type} (encode : α → Json.Value) : Option α → Json.Value
  | some value => encode value
  | none => .null

/-- The members for the status of a forward, apart from the forward itself. -/
def Standing.members (standing : Standing) : List (String × Json.Value) :=
  let entry := standing.entry
  [("state", .text entry.state.name),
    ("lastError", orNull (fun failure : Failure => .text failure.kind.key) entry.lastFailure),
    ("lastErrorMessage", orNull (fun failure : Failure => .text failure.message) entry.lastFailure),
    ("retryCount", .integer entry.retryCount.toNat), ("everActive", .bool entry.everActive),
    ("stats", standing.counters.toJson)]

/-- A snapshot as JSON; `taken` and `moved` stand for the moments at which it was
taken and at which its forwards last changed their states. -/
def Snapshot.toJson (taken moved : Json.Value) (snapshot : Snapshot) : Json.Value :=
  .object
    [("takenAt", taken),
      ("forwards", .object (snapshot.toList.map fun (id, standing) =>
        (id, .object
          ([("spec", standing.entry.forward.toJson), ("since", moved)] ++ standing.members))))]

/-- An event as JSON; a message is left out where there is none. -/
def Event.toJson : Event → Json.Value
  | stateChanged id state message =>
      .object
        ([("type", .text "statusChanged"), ("forwardId", .text id), ("state", .text state.name)]
          ++ (message.map fun message => ("error", Json.Value.text message)).toList)
  | retryScheduled id attempt delayMillis =>
      .object
        [("type", .text "retryScheduled"), ("forwardId", .text id),
          ("attempt", .integer attempt.toNat), ("delayMs", .integer delayMillis)]

end PortTunnel.Status
