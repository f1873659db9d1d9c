import PortTunnel.CommandLine.Manual
import PortTunnel.Config.Loading
import PortTunnel.Config.Location
import PortTunnel.Environment.Resolution
import PortTunnel.Kubeconfig.Access
import PortTunnel.Plan
import PortTunnel.Rehearsal.Timeline

/-!
# The program

From its command line and the files around it the program works out a job: to
print something, or to run forwards.  It ends with an exit code, with what it
printed, and with a complaint if it failed.
-/

namespace PortTunnel.Program

open CommandLine Supervisor

/-- What surrounds the program. -/
structure Surroundings where
  files : Files
  /-- The user's directory for configurations. -/
  userDirectory : Option String := none
  home : Option String := none
  /-- The path of the configuration, if the surroundings name one. -/
  config : Option String := none
  /-- The paths of files that describe clusters, if the surroundings list them. -/
  kubeconfig : Option String := none

/-! ## Complaints -/

/-- Why the program did not do its job. -/
inductive Complaint where
  | load (path : String) (error : Config.LoadError)
  | failed (failure : Failure)
  deriving DecidableEq

/-- What a failure to load a configuration comes from, if it does not say all itself. -/
def causeOf : Config.LoadError → Option String
  | .unreadable cause => some cause.message
  | .yamlFault => some "<syntax>"
  | .yamlProblem path problem => some (path.locate (problem.message .yaml))
  | .jsonFault .malformed => some "<syntax>"
  | .jsonFault .truncated => some "<eof>"
  | .jsonProblem problem => some (problem.message .json)
  | .notFound _ | .newerVersion _ => none

/-- What is being done when a configuration is loaded. -/
def loadOccasion (path : String) : String :=
  "failed to load " ++ path

/-- A complaint with all that led to it. -/
def Complaint.text : Complaint → String
  | load path error =>
      String.intercalate ": " ([loadOccasion path, error.message] ++ (causeOf error).toList)
  | failed failure => failure.message

/-! ## Jobs -/

/-- Forwards to run, and how. -/
structure Undertaking where
  context : String
  /-- Where the clusters are described. -/
  origin : Kubeconfig.Origin
  forwards : List Forward
  terms : Terms
  statusInterval : Option Span

/-- What the program is to do. -/
inductive Job where
  | print (text : String)
  | run (undertaking : Undertaking)

/-- The path of the configuration. -/
def configPath (surroundings : Surroundings) (invocation : Invocation) : String :=
  invocation.config.getD
    (Config.defaultPath (fun path => (surroundings.files path).isPresent)
      surroundings.userDirectory)

/-- The forwards of an environment. -/
def forwardsOf (config : Config) (environment : String) : Except Complaint (List Forward) :=
  match Environment.resolve config environment with
  | .ok forwards => .ok forwards
  | .error defect => .error (.failed defect.failure)

/-- An environment with all that it inherits. -/
def effectiveOf (config : Config) (environment : String) :
    Except Complaint Environment.Effective :=
  match Environment.effective config environment with
  | .ok effective => .ok effective
  | .error defect => .error (.failed defect.failure)

/-- Where clusters are described: the command line counts most, then the
configuration, then the surroundings. -/
def originOf (surroundings : Surroundings) (invocation : Invocation)
    (effective : Environment.Effective) : Kubeconfig.Origin :=
  match invocation.kubeconfig.or effective.kubeconfig with
  | some path => .named path
  | none => .surrounding surroundings.kubeconfig surroundings.home

/-- What a command comes to, given a configuration. -/
def jobOf (surroundings : Surroundings) (invocation : Invocation) (config : Config) :
    Except Complaint Job :=
  match invocation.command with
  | .plan environment asJson => do
      let forwards ← forwardsOf config environment
      return .print (Plan.text asJson forwards)
  | .up environment overrides statusInterval => do
      let effective ← effectiveOf config environment
      let forwards ← forwardsOf config environment
      return .run
        { context := effective.context
          origin := originOf surroundings invocation effective
          forwards := forwards
          terms := .ofSettings (overrides.over config.settings)
          statusInterval := statusInterval }

/-- What an invocation comes to. -/
def prepare (surroundings : Surroundings) (invocation : Invocation) : Except Complaint Job :=
  let path := configPath surroundings invocation
  match Config.load path (surroundings.files path) with
  | .ok config => jobOf surroundings invocation config
  | .error error => .error (.load path error)

/-! ## Files -/

/-- The paths at which a configuration may lie. -/
def configPaths (surroundings : Surroundings) (invocation : Invocation) : List String :=
  match invocation.config with
  | some path => [path]
  | none => Config.fileName :: (surroundings.userDirectory.map Config.sharedPath).toList

/-- The paths at which the program looks, as far as the files tell that are known. -/
def consulted (surroundings : Surroundings) (words : List String) : List String :=
  match CommandLine.read surroundings.config words with
  | .error _ => []
  | .ok invocation =>
      configPaths surroundings invocation
        ++ match prepare surroundings invocation with
          | .ok (.run undertaking) =>
              undertaking.origin.paths
                ++ match Kubeconfig.read surroundings.files undertaking.origin with
                  | .ok kubeconfig => kubeconfig.referredPaths
                  | .error _ => []
          | .ok (.print _) | .error _ => []

/-! ## Runs without a cluster -/

/-- The last moment that runs are played to: a hundred thousand seconds. -/
def lastMoment : Nat := 100000000

/-- A run whose links cannot be established. -/
def Undertaking.unreachable (undertaking : Undertaking) (failure : Failure) :
    Rehearsal.Timeline.Outcome :=
  let world := Rehearsal.World.ofRun undertaking.terms true undertaking.forwards
    { linkFallback := some failure } false
  Rehearsal.Timeline.play { interval := undertaking.statusInterval, limit := lastMoment } world

/-! ## Endings -/

/-- How the program ends. -/
structure Ending where
  exitCode : Nat
  output : String := ""
  errors : String := ""
  deriving DecidableEq

/-- The ending of a program that complains. -/
def Ending.ofComplaint (complaint : Complaint) : Ending :=
  { exitCode := 1, errors := "Error: " ++ complaint.text ++ "\n" }

/-- The ending of a program whose command line is not followed. -/
def Ending.ofUsage (config : Option String) : UsageError → Ending
  | .asked topic => { exitCode := 0, output := Manual.page config topic }
  | error => { exitCode := 2, errors := "error: " ++ error.message ++ "\n" }

/-- The ending of a run whose cluster cannot be reached with a library. -/
def Undertaking.ending? {Description Settings Client : Type}
    (library : Kubernetes.Library Description Settings Client) (undertaking : Undertaking) :
    Option Ending :=
  match Kubernetes.connect library undertaking.origin.path? undertaking.context with
  | .ok _ => none
  | .error failure =>
      let outcome := undertaking.unreachable failure
      outcome.report.map fun report => { exitCode := report.exitCode, output := outcome.output }

/-- The ending of a job that needs no cluster: of one that only prints, and of a
run whose cluster cannot be reached. -/
def Job.ending? (surroundings : Surroundings) : Job → Option Ending
  | .print text => some { exitCode := 0, output := text }
  | .run undertaking =>
      undertaking.ending? (Kubeconfig.library surroundings.files undertaking.origin)

/-- How the program ends, if it can end without a cluster. -/
def ending? (surroundings : Surroundings) (words : List String) : Option Ending :=
  match CommandLine.read surroundings.config words with
  | .error error => some (.ofUsage surroundings.config error)
  | .ok invocation =>
      match prepare surroundings invocation with
      | .error complaint => some (.ofComplaint complaint)
      | .ok job => job.ending? surroundings

end PortTunnel.Program
