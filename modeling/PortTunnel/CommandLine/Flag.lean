/-!
# Flags

A flag either asks for something by itself or takes a value.  Each command knows
its own flags; those for the files are known everywhere, before the command and
behind it.
-/

namespace PortTunnel.CommandLine

/-- What takes a value. -/
inductive Slot where
  | config
  | kubeconfig
  | initialDelay
  | maxDelay
  | maxRetries
  | shutdownGrace
  | statusInterval
  deriving DecidableEq, Repr

/-- What a command starts with. -/
inductive CommandWord where
  | plan
  | up
  | help
  deriving DecidableEq, Repr

/-- The command that a word stands for. -/
def CommandWord.ofText? : String → Option CommandWord
  | "plan" => some plan
  | "up" => some up
  | "help" => some help
  | _ => none

/-- What the program can tell about itself. -/
inductive Topic where
  | version
  /-- How the program is used. -/
  | program
  /-- How a command is used. -/
  | command (word : CommandWord)
  deriving DecidableEq, Repr

/-- What a flag asks for. -/
inductive Flag where
  /-- To be told something instead of anything else. -/
  | tell (topic : Topic)
  /-- To print JSON. -/
  | json
  | value (slot : Slot)
  deriving DecidableEq, Repr

/-- Where on the command line a word stands. -/
inductive Level where
  /-- Before the command. -/
  | top
  | plan
  | up
  deriving DecidableEq, Repr

namespace Level

/-- What help is about on a level. -/
def topic : Level → Topic
  | top => .program
  | plan => .command .plan
  | up => .command .up

/-- The flag of a name, without the two hyphens. -/
def flag? : Level → String → Option Flag
  | _, "config" => some (.value .config)
  | _, "kubeconfig" => some (.value .kubeconfig)
  | level, "help" => some (.tell level.topic)
  | top, "version" => some (.tell .version)
  | plan, "json" => some .json
  | up, "initial-delay" => some (.value .initialDelay)
  | up, "max-delay" => some (.value .maxDelay)
  | up, "max-retries" => some (.value .maxRetries)
  | up, "shutdown-grace" => some (.value .shutdownGrace)
  | up, "status-interval" => some (.value .statusInterval)
  | _, _ => none

/-- The flag of a letter. -/
def letter? : Level → Char → Option Flag
  | _, 'f' => some (.value .config)
  | level, 'h' => some (.tell level.topic)
  | top, 'V' => some (.tell .version)
  | _, _ => none

end Level

end PortTunnel.CommandLine
