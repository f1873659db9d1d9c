import PortTunnel.Supervisor.Fleet
import PortTunnel.Supervisor.Terms

/-!
# Supervised runs

A run starts one session for each forward and then watches.  It ends when it is
asked to shut down or when all sessions have closed on their own.  On shutdown
every session is asked to stop, and the run waits for them until a deadline.
Sessions that have not closed by then are torn down, and the run itself reports
them closed.

The steps of a run are its own and those of its fleet.  The sessions do not wait
for the run nor the run for them, save where it joins them; so they may step in
any order, and sessions that were torn down late even after the run is over.
-/

namespace PortTunnel.Supervisor

open Tunnel

/-- Why a run ended. -/
inductive RunExit where
  | shutdownRequested
  | allSessionsClosed
  deriving DecidableEq, Repr

/-- The outcome of a run. -/
structure RunReport where
  exit : RunExit
  /-- The forwards that did not close in time. -/
  timeouts : List String
  snapshot : Status.Snapshot
  deriving DecidableEq

namespace RunReport

/-- Whether the run was shut down and every forward had been active.  Forwards
that did not close in time do not count. -/
def isSuccess (report : RunReport) : Bool :=
  report.exit == .shutdownRequested && report.snapshot.isHealthy

/-- The exit code of the program. -/
def exitCode (report : RunReport) : Nat :=
  if report.isSuccess then 0 else 1

end RunReport

/-- What a run is doing. -/
inductive RunStage where
  /-- It starts sessions for the forwards that are left. -/
  | starting (left : List Forward)
  | watching
  /-- It waits for the sessions that it asked to stop. -/
  | stopping
  /-- It closes the sessions that are left; of those `chosen` has been found open. -/
  | sweeping (left : List String) (chosen : Option String) (timeouts : List String)
  | finishing (exit : RunExit) (timeouts : List String)
  | over (report : RunReport)
  deriving DecidableEq

/-- A run. -/
structure Run where
  terms : Terms := {}
  fleet : Fleet := {}
  stage : RunStage
  /-- The sessions that have not been joined, in the order of their start. -/
  registry : List String := []
  /-- Whether the run has been asked to shut down. -/
  shutdownRequested : Bool := false
  /-- Whether the token that all sessions listen to has been cancelled. -/
  tokenCancelled : Bool := false
  /-- Whether the sessions left are being torn down. -/
  tearingDown : Bool := false

namespace Run

/-- What may happen in a run. -/
inductive Label where
  | requestShutdown
  | cancelToken
  | fleet (label : Fleet.Label)
  | start
  | started
  | heed
  | join (id : String)
  | allJoined
  | deadline
  | inspect (id : String)
  | forceClosed
  | swept
  | finish

/-- A run of forwards. -/
def ofForwards (terms : Terms) (sharing : Bool) (forwards : List Forward) : Run where
  terms := terms
  fleet := { sharing := sharing }
  stage := .starting forwards

/-- Ask all sessions to stop. -/
def stopAll (run : Run) : Run :=
  { run with
    tokenCancelled := true
    fleet :=
      { run.fleet with
        sessions := run.fleet.sessions.mapValues fun session =>
          { session with stopRequested := true } } }

/-- Whether the session of an id has ended. -/
def isOver (run : Run) (id : String) : Bool :=
  match run.fleet.sessions.get? id with
  | some session => session.isOver
  | none => true

/-- Put a run into another stage. -/
def goOn (run : Run) (stage : RunStage) : Option Run :=
  some { run with stage := stage }

/-- Whether a label of the fleet may happen now.  Only the run asks sessions to
stop and tears them down. -/
def permits (run : Run) : Fleet.Label → Bool
  | .session _ .stop => false
  | .session _ .drop => run.tearingDown
  | _ => true

/-- Follow a label, if it can happen. -/
def step (run : Run) (label : Label) : Option Run :=
  match run.stage, label with
  | _, .requestShutdown => some { run with shutdownRequested := true }
  | _, .cancelToken => some run.stopAll
  | _, .fleet label =>
      if run.permits label then
        (run.fleet.step label).map fun fleet => { run with fleet := fleet }
      else none
  | .starting (forward :: left), .start =>
      if run.registry.contains forward.id then run.goOn (.starting left)
      else
        some
          { run with
            stage := .starting left
            fleet := run.fleet.start run.terms.retry run.tokenCancelled forward
            registry := run.registry ++ [forward.id] }
  | .starting [], .started => run.goOn .watching
  | .watching, .heed =>
      if run.shutdownRequested || run.tokenCancelled then run.stopAll.goOn .stopping else none
  | .watching, .join id | .stopping, .join id =>
      if run.registry.contains id && run.isOver id then
        some { run with registry := run.registry.filter (· != id) }
      else none
  | .watching, .allJoined =>
      if run.registry.isEmpty then run.goOn (.finishing .allSessionsClosed []) else none
  | .stopping, .allJoined =>
      if run.registry.isEmpty then run.goOn (.finishing .shutdownRequested []) else none
  | .stopping, .deadline =>
      -- A session may have ended between the last look at the sessions and the deadline.
      if run.registry.isEmpty then none
      else { run with tearingDown := true }.goOn (.sweeping run.registry none [])
  | .sweeping left none timeouts, .inspect id =>
      if left.contains id then
        let rest := left.filter (· != id)
        if run.fleet.board.state? id = some .closed then run.goOn (.sweeping rest none timeouts)
        else run.goOn (.sweeping rest (some id) timeouts)
      else none
  | .sweeping left (some id) timeouts, .forceClosed =>
      some
        { run with
          stage := .sweeping left none (timeouts ++ [id])
          fleet :=
            run.fleet.report id
              (some (.state .closed (some (.shutdownTimeout run.terms.grace)))) }
  | .sweeping [] none timeouts, .swept =>
      run.goOn (.finishing .shutdownRequested (timeouts.mergeSort (· ≤ ·)))
  | .finishing exit timeouts, .finish =>
      run.goOn (.over ⟨exit, timeouts, run.fleet.snapshot⟩)
  | _, _ => none

/-- A summary of a run. -/
def summary (run : Run) : String :=
  "ForwardSupervisor \x7b config: " ++ run.terms.summary ++ ", sessions: "
    ++ run.registry.length.repr ++ " \x7d"

/-- The report of a run that is over. -/
def report? (run : Run) : Option RunReport :=
  match run.stage with
  | .over report => some report
  | _ => none

end Run

end PortTunnel.Supervisor
