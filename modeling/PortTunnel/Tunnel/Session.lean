import PortTunnel.Retry.Policy
import PortTunnel.Status.State
import PortTunnel.Tunnel.Pair

/-!
# Tunnel sessions

A session keeps one forward alive.  It binds its listener once; then it connects,
serves clients while the connection lasts, and connects again after a delay.

While it serves, each accepted client is a stream pair of its own.  The loss of
one channel ends the phase.  A client for which no channel can be opened ends it
only if there is no other pair; otherwise the session is degraded until the next
channel is opened afresh.  Before a session leaves the phase it cancels its
pairs and waits for all of them.

A session is a state with labelled steps.  Labels are what the session does next
and what happens to it, so its runs are the sequences of labels that it can
follow, in whatever order the system lets things happen.  A step makes at most
one report.
-/

namespace PortTunnel.Tunnel

/-- What a session reports. -/
inductive Report where
  | state (state : Status.State) (failure : Option Failure)
  | retry (attempt : UInt32) (delay : Span)
  deriving DecidableEq

/-- The clients of one serving phase. -/
structure Phase where
  /-- The channel kept for the first client. -/
  standby : Option Nat
  /-- Whether a failed call has left the session degraded. -/
  degraded : Bool := false
  /-- The number of channels opened afresh. -/
  opened : Nat := 0
  /-- How many of those the session has taken notice of. -/
  seen : Nat := 0
  running : List Pair := []
  /-- The pairs that ended and have not been joined, by client. -/
  ended : List (Nat × Exit) := []
  deriving DecidableEq

namespace Phase

/-- Whether all pairs have been joined. -/
def isQuiet (phase : Phase) : Bool :=
  phase.running.isEmpty && phase.ended.isEmpty

/-- The pair of a client. -/
def pair? (phase : Phase) (client : Nat) : Option Pair :=
  phase.running.find? (·.client == client)

/-- Put a pair into another stage. -/
def setStage (phase : Phase) (client : Nat) (stage : PairStage) : Phase :=
  { phase with
    running := phase.running.map fun pair =>
      if pair.client = client then { pair with stage := stage } else pair }

/-- End a pair, which waits to be joined. -/
def finish (phase : Phase) (client : Nat) (exit : Exit) : Phase :=
  { phase with
    running := phase.running.filter (·.client != client)
    ended := phase.ended ++ [(client, exit)] }

/-- Join the pair of a client that ended. -/
def join? (phase : Phase) (client : Nat) : Option (Exit × Phase) :=
  match phase.ended.find? (·.1 == client) with
  | some (_, exit) => some (exit, { phase with ended := phase.ended.filter (·.1 != client) })
  | none => none

/-- Accept a client, who is given the channel that stands by. -/
def accept (phase : Phase) (client : Nat) : Phase :=
  { phase with
    standby := none
    running := phase.running ++ [⟨client, .waiting phase.standby⟩] }

/-- The calls that wait for an answer. -/
def calling (phase : Phase) : List Nat :=
  phase.running.filterMap fun pair =>
    match pair.stage with
    | .opening call => some call
    | _ => none

end Phase

/-- What a session is doing. -/
inductive Stage where
  /-- It has not bound its listener. -/
  | unbound
  /-- It is about to report that it connects. -/
  | announcing
  /-- It calls the cluster, once it has made the call. -/
  | connecting (call : Option Nat)
  /-- It has a channel and is about to report so. -/
  | connected (channel : Nat)
  /-- It serves clients; it pauses after a failed accept. -/
  | serving (phase : Phase) (pausing : Bool)
  /-- It has cancelled its pairs and waits for them, because of a failure or
  because it was asked to stop. -/
  | draining (phase : Phase) (failure : Option Failure)
  /-- It is about to report a failure. -/
  | failed (failure : Failure)
  /-- It decides whether to try again. -/
  | judging (failure : Failure)
  /-- It waits to try again. -/
  | resting
  /-- It is about to close its listener and to report so. -/
  | ending (failure : Option Failure)
  | closed
  /-- It was torn down from outside. -/
  | dropped
  deriving DecidableEq

/-- A session. -/
structure Session where
  forward : Forward
  policy : Retry.Policy
  stage : Stage := .unbound
  /-- Whether the session has been asked to stop. -/
  stopRequested : Bool := false
  /-- The number of calls made. -/
  calls : Nat := 0
  /-- The number of failures since the last connection. -/
  failures : UInt32 := 0
  counters : Status.Counters := {}
  deriving DecidableEq

namespace Session

/-- What a session may do, and what may happen to it. -/
inductive Label where
  /-- It is asked to stop. -/
  | stop
  | bound
  | refused (refusal : BindRefusal)
  | announce
  | call
  | opened
  | openFailed (failure : Failure)
  /-- It takes notice of the request to stop. -/
  | heed
  | activate
  | accept
  | acceptFailed
  | resume
  | pair (client : Nat) (label : Pair.Label)
  | join (client : Nat)
  /-- It takes notice of a channel opened afresh. -/
  | recover
  | drained
  | degrade
  | giveUp
  /-- It draws a delay from random words. -/
  | schedule (words : List UInt64)
  | wake
  | close
  /-- It is torn down. -/
  | drop
  deriving DecidableEq

/-- A state and the report made on the way to it. -/
abbrev Next := Session × Option Report

/-- Go on without a report. -/
def silently (session : Session) (stage : Stage) : Option Next :=
  some ({ session with stage := stage }, none)

/-- Go on with a report. -/
def reporting (session : Session) (stage : Stage) (state : Status.State)
    (failure : Option Failure) : Option Next :=
  some ({ session with stage := stage }, some (.state state failure))

/-- Count the bytes that were carried. -/
def count (session : Session) (direction : Direction) (bytes : Nat) : Session :=
  match direction with
  | .outbound =>
      { session with
        counters := { session.counters with sent := session.counters.sent + bytes } }
  | .inbound =>
      { session with
        counters := { session.counters with received := session.counters.received + bytes } }

/-- Follow a label of a pair.  `place` puts the phase back into the stage. -/
def pairStep (session : Session) (phase : Phase) (isCancelled : Bool) (place : Phase → Stage)
    (client : Nat) (label : Pair.Label) : Option Next :=
  match phase.pair? client with
  | none => none
  | some pair =>
      match Pair.step session.forward.destination session.calls isCancelled pair.stage label with
      | none => none
      | some (.ends exit) =>
          some
            ({ session with
                stage := place (phase.finish client exit)
                counters := { session.counters with live := session.counters.live - 1 } },
              none)
      | some (.continues stage effect) =>
          let moved := phase.setStage client stage
          match effect with
          | .none => session.silently (place moved)
          | .called => { session with calls := session.calls + 1 }.silently (place moved)
          | .opened => session.silently (place { moved with opened := moved.opened + 1 })
          | .carried direction bytes => (session.count direction bytes).silently (place moved)

/-- The session after a pair was joined that ended in some way. -/
def joined (session : Session) (phase : Phase) : Exit → Option Next
  | .remoteFailed failure => session.silently (.draining phase (some failure))
  | .openFailed failure =>
      if phase.isQuiet then session.silently (.draining phase (some failure))
      else
        session.reporting (.serving { phase with degraded := true, seen := phase.opened } false)
          .degraded (some failure)
  | .closed | .localFailed | .cancelled => session.silently (.serving phase false)

/-- Whether a session gives up after a failure. -/
def givesUp (session : Session) (failure : Failure) : Bool :=
  !failure.isRetryable || session.policy.isExhausted session.failures

/-- A number of failures and one more, as far as it can be counted. -/
def oneMore (failures : UInt32) : UInt32 :=
  if failures = 0xffffffff then failures else failures + 1

/-- Follow a label, if it can happen. -/
def step (session : Session) (label : Label) : Option Next :=
  match session.stage, label with
  | _, .stop => some ({ session with stopRequested := true }, none)
  | .unbound, .bound => session.silently .announcing
  | .unbound, .refused refusal =>
      session.reporting .closed .closed
        (some (.ofBind session.forward.localEndpoint.text refusal))
  | .announcing, .announce => session.reporting (.connecting none) .connecting none
  | .connecting none, .call =>
      { session with calls := session.calls + 1 }.silently (.connecting (some session.calls))
  | .connecting (some call), .opened => session.silently (.connected call)
  | .connecting (some _), .openFailed failure => session.silently (.failed failure)
  | .connecting _, .heed => if session.stopRequested then session.silently (.ending none) else none
  | .connected channel, .activate =>
      { session with failures := 0 }.reporting (.serving { standby := some channel } false)
        .active none
  | .serving phase false, .heed =>
      if session.stopRequested then session.silently (.draining phase none) else none
  | .serving phase false, .accept =>
      let client := session.counters.connections
      some
        ({ session with
            stage := .serving (phase.accept client) false
            counters :=
              { session.counters with
                connections := client + 1
                live := session.counters.live + 1 } },
          none)
  | .serving phase false, .acceptFailed => session.silently (.serving phase true)
  | .serving phase true, .resume => session.silently (.serving phase false)
  | .serving phase false, .join client =>
      match phase.join? client with
      | some (exit, phase) => session.joined phase exit
      | none => none
  | .serving phase false, .recover =>
      if phase.degraded && phase.seen != phase.opened then
        session.reporting (.serving { phase with degraded := false, seen := phase.opened } false)
          .active none
      else none
  | .serving phase pausing, .pair client label =>
      session.pairStep phase session.stopRequested (.serving · pausing) client label
  | .draining phase failure, .pair client label =>
      session.pairStep phase true (.draining · failure) client label
  | .draining phase failure, .join client =>
      match phase.join? client with
      | some (_, phase) => session.silently (.draining phase failure)
      | none => none
  | .draining phase failure, .drained =>
      if phase.isQuiet then
        match failure with
        | some failure => session.silently (.failed failure)
        | none => session.silently (.ending none)
      else none
  | .failed failure, .degrade =>
      { session with failures := oneMore session.failures }.reporting (.judging failure)
        .degraded (some failure)
  | .judging failure, .giveUp =>
      if session.givesUp failure then session.silently (.ending (some failure)) else none
  | .judging failure, .schedule words =>
      if session.givesUp failure then none
      else
        let delay := (session.policy.delay (session.failures - 1) words).1
        some ({ session with stage := .resting }, some (.retry session.failures delay))
  | .resting, .wake => session.silently .announcing
  | .resting, .heed => if session.stopRequested then session.silently (.ending none) else none
  | .ending failure, .close => session.reporting .closed .closed failure
  | .closed, .drop | .dropped, .drop => none
  | _, .drop => session.silently .dropped
  | _, _ => none

/-- The serving phase of a session, while it has one. -/
def phase? (session : Session) : Option Phase :=
  match session.stage with
  | .serving phase _ | .draining phase _ => some phase
  | _ => none

/-- The calls that wait for an answer. -/
def calling (session : Session) : List Nat :=
  match session.stage with
  | .connecting (some call) => [call]
  | .serving phase _ | .draining phase _ => phase.calling
  | _ => []

/-- The label by which a session learns the answer to a call. -/
def answerLabel? (session : Session) (call : Nat) (answer : Except Failure Unit) :
    Option Label :=
  match session.stage with
  | .connecting (some made) =>
      if made = call then
        match answer with
        | .ok _ => some .opened
        | .error failure => some (.openFailed failure)
      else none
  | .serving phase _ | .draining phase _ =>
      match phase.running.find? fun pair => pair.stage == .opening call with
      | some pair =>
          match answer with
          | .ok _ => some (.pair pair.client .opened)
          | .error failure => some (.pair pair.client (.openFailed failure))
      | none => none
  | _ => none

/-- Whether a label tells the answer to a call. -/
def Label.isAnswer : Label → Bool
  | .opened | .openFailed _ | .pair _ .opened | .pair _ (.openFailed _) => true
  | _ => false

/-- Whether a session has ended. -/
def isOver (session : Session) : Bool :=
  match session.stage with
  | .closed | .dropped => true
  | _ => false

end Session

end PortTunnel.Tunnel
