import PortTunnel.CommandLine.Reading
import PortTunnel.Text.Column

/-!
# What the program tells about itself

The manual has a page for the program and one for each command.  A page ends
with the flags, those of the command among those for the files, and shows the
path of the configuration that the surroundings set, if they do.
-/

namespace PortTunnel.CommandLine

/-- The name of the program. -/
def programName : String := "kubeforward"

/-- The version of the program. -/
def programVersion : String := "0.1.0"

/-- The variable of the surroundings that names the configuration. -/
def configVariable : String := "KUBEFORWARD_CONFIG"

namespace Manual

/-- Lines one below the other. -/
def lines (content : List String) : String :=
  String.join (content.map (· ++ "\n"))

/-- A flag with its meaning. -/
structure Entry where
  flag : String
  meaning : String

/-- The flag for the configuration, with the path from the surroundings. -/
def configEntry (surrounding : Option String) : Entry :=
  ⟨"-f, --config <CONFIG>",
    "Configuration file (YAML, or JSON by extension) [env: " ++ configVariable ++ "="
      ++ surrounding.getD "" ++ "]"⟩

/-- The flag for the description of clusters. -/
def kubeconfigEntry : Entry :=
  ⟨"    --kubeconfig <KUBECONFIG>",
    "Path to kubeconfig file, overrides the one set in the configuration"⟩

/-- The flag for help. -/
def helpEntry : Entry :=
  ⟨"-h, --help", "Print help"⟩

/-- Flags with their meanings beside them. -/
def beside (entries : List Entry) : List String :=
  entries.map fun entry => "  " ++ Text.flushLeft 29 entry.flag ++ "  " ++ entry.meaning

/-- Flags with their meanings below them. -/
def below (entries : List Entry) : List String :=
  entries.flatMap fun entry => ["  " ++ entry.flag, "          " ++ entry.meaning]

/-- The page of the program. -/
def program (surrounding : Option String) : List String :=
  ["Keeps the Kubernetes port-forwards of an environment alive",
    "",
    "Usage: " ++ programName ++ " [OPTIONS] <COMMAND>",
    "",
    "Commands:",
    "  plan  Print the forwards an environment resolves to",
    "  up    Run the forwards of an environment until interrupted",
    "  help  Print this message or the help of the given subcommand(s)",
    "",
    "Options:"]
  ++ beside
    [configEntry surrounding, kubeconfigEntry, helpEntry, ⟨"-V, --version", "Print version"⟩]

/-- The page of the command that shows forwards. -/
def plan (surrounding : Option String) : List String :=
  ["Print the forwards an environment resolves to",
    "",
    "Usage: " ++ programName ++ " plan [OPTIONS] <ENVIRONMENT>",
    "",
    "Arguments:",
    "  <ENVIRONMENT>  Environment name from the configuration",
    "",
    "Options:"]
  ++ beside
    [configEntry surrounding, ⟨"    --json", "Print JSON instead of a table"⟩, kubeconfigEntry,
      helpEntry]

/-- The page of the command that runs forwards.  Its flags have long names, so
what they mean stands below them. -/
def up (surrounding : Option String) : List String :=
  ["Run the forwards of an environment until interrupted",
    "",
    "Usage: " ++ programName ++ " up [OPTIONS] <ENVIRONMENT>",
    "",
    "Arguments:",
    "  <ENVIRONMENT>  Environment name from the configuration",
    "",
    "Options:"]
  ++ below
    [configEntry surrounding,
      ⟨"    --initial-delay <INITIAL_DELAY>",
        "Backoff base before the first reconnect, e.g. \"500ms\""⟩,
      kubeconfigEntry,
      ⟨"    --max-delay <MAX_DELAY>", "Backoff cap, e.g. \"30s\""⟩,
      ⟨"    --max-retries <MAX_RETRIES>",
        "Consecutive failed attempts before a forward gives up"⟩,
      ⟨"    --shutdown-grace <SHUTDOWN_GRACE>",
        "How long shutdown waits for forwards to close"⟩,
      ⟨"    --status-interval <STATUS_INTERVAL>", "Print a status table at this interval"⟩,
      helpEntry]

/-- The page of the command that shows pages. -/
def help : List String :=
  ["Print this message or the help of the given subcommand(s)",
    "",
    "Usage: " ++ programName ++ " help [COMMAND]...",
    "",
    "Arguments:",
    "  [COMMAND]...  Print help for the subcommand(s)"]

/-- What is told about a topic. -/
def page (surrounding : Option String) : Topic → String
  | .version => lines [programName ++ " " ++ programVersion]
  | .program => lines (program surrounding)
  | .command .plan => lines (plan surrounding)
  | .command .up => lines (up surrounding)
  | .command .help => lines help

end Manual

/-- What is wrong with a command line. -/
def UsageError.message : UsageError → String
  | .asked _ => ""
  | .nothingGiven | .noCommand => "a command is required"
  | .noEnvironment => "the name of an environment is required"
  | .unknownArgument => "unexpected argument"
  | .unknownCommand => "unrecognized command"
  | .noValue => "a value is required"
  | .badValue => "invalid value"
  | .givenTwice => "an argument cannot be used multiple times"
  | .uselessValue => "unexpected value for an argument that takes none"

end PortTunnel.CommandLine
