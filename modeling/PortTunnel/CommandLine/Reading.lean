import PortTunnel.CommandLine.Flag
import PortTunnel.CommandLine.Invocation
import PortTunnel.Span.Reading

/-!
# Reading the command line

Words are taken one after the other.  A flag that takes a value has it in the
same word or in the next one, and its value is looked at when the next flag or
the environment comes, or when the words end.  Behind two hyphens every word
stands for itself.  What stands before the command and what stands behind it are
read apart; of values for the same file, the one behind the command counts most
and the one from the surroundings least.
-/

namespace PortTunnel.CommandLine

/-- Why a command line is not followed. -/
inductive UsageError where
  /-- It asks to be told something. -/
  | asked (topic : Topic)
  /-- Nothing at all is given. -/
  | nothingGiven
  | noCommand
  | noEnvironment
  | unknownArgument
  | unknownCommand
  /-- A flag has no value, or an empty one where something has to be named. -/
  | noValue
  /-- A value is not of the form that its flag takes. -/
  | badValue
  | givenTwice
  /-- A flag that takes no value has one. -/
  | uselessValue
  deriving DecidableEq, Repr

/-- What was given on one level. -/
structure Given where
  config : Option String := none
  kubeconfig : Option String := none
  json : Bool := false
  overrides : Overrides := {}
  statusInterval : Option Span := none
  environment : Option String := none

/-- Whether nothing was given. -/
def Given.isBlank (given : Given) : Bool :=
  given.config.isNone && given.kubeconfig.isNone

/-- A number of 32 bits: digits, perhaps behind a plus. -/
def word? (text : String) : Option UInt32 :=
  let digits :=
    match text.toList with
    | '+' :: rest => rest
    | characters => characters
  if digits.isEmpty || !digits.all Char.isDigit then none
  else
    let number := digits.foldl (fun number digit => number * 10 + Span.digitValue digit) 0
    if number < Number.twoTo 32 then some (UInt32.ofNat number) else none

/-- Set what has not been set before. -/
def setOnce {α : Type} (present : Option α) (read : Except UsageError α) :
    Except UsageError (Option α) :=
  if present.isSome then .error .givenTwice else read.map some

/-- The path that a value names. -/
def pathOf (value : String) : Except UsageError String :=
  if value.isEmpty then .error .noValue else .ok value

/-- The span that a value stands for. -/
def spanOf (value : String) : Except UsageError Span :=
  (Span.ofText? value).elim (.error .badValue) .ok

/-- Take in a value. -/
def Given.put (given : Given) (slot : Slot) (value : String) : Except UsageError Given :=
  let overrides := given.overrides
  match slot with
  | .config => do
      return { given with config := ← setOnce given.config (pathOf value) }
  | .kubeconfig => do
      return { given with kubeconfig := ← setOnce given.kubeconfig (pathOf value) }
  | .initialDelay => do
      let delay ← setOnce overrides.initialDelay (spanOf value)
      return { given with overrides := { overrides with initialDelay := delay } }
  | .maxDelay => do
      let delay ← setOnce overrides.maxDelay (spanOf value)
      return { given with overrides := { overrides with maxDelay := delay } }
  | .maxRetries => do
      let number := (word? value).elim (.error .badValue) .ok
      let retries ← setOnce overrides.maxRetries number
      return { given with overrides := { overrides with maxRetries := retries } }
  | .shutdownGrace => do
      let grace ← setOnce overrides.shutdownGrace (spanOf value)
      return { given with overrides := { overrides with shutdownGrace := grace } }
  | .statusInterval => do
      return { given with statusInterval := ← setOnce given.statusInterval (spanOf value) }

/-- How far the words of a level have been read. -/
structure Progress where
  given : Given := {}
  /-- The flag whose value is still to be looked at, and the value once it has come. -/
  pending : Option (Slot × Option String) := none
  /-- Whether all words stand for themselves. -/
  literal : Bool := false

namespace Progress

/-- Whether the next word is the value of a flag. -/
def wantsValue (progress : Progress) : Bool :=
  match progress.pending with
  | some (_, none) => !progress.literal
  | _ => false

/-- Look at the value that is pending. -/
def settle (progress : Progress) : Except UsageError Progress :=
  match progress.pending with
  | none => .ok progress
  | some (_, none) => .error .noValue
  | some (slot, some value) => do
      return { progress with given := ← progress.given.put slot value, pending := none }

/-- Take in a flag, with the value in the same word if it has one. -/
def take (progress : Progress) : Flag → Option String → Except UsageError Progress
  | .value slot, none => do
      return { ← progress.settle with pending := some (slot, none) }
  | .value slot, some value => do
      let progress ← progress.settle
      return { progress with given := ← progress.given.put slot value }
  | .tell topic, none => do
      let _ ← progress.settle
      .error (.asked topic)
  | .json, none => do
      let progress ← progress.settle
      if progress.given.json then .error .givenTwice
      else return { progress with given := { progress.given with json := true } }
  | .tell _, some _ | .json, some _ => .error .uselessValue

/-- Take in the letters behind a single hyphen.  What follows the letter of a
flag that takes a value is the value, perhaps behind an equals sign. -/
def takeLetters (level : Level) : Progress → List Char → Except UsageError Progress
  | progress, [] => .ok progress
  | progress, letter :: rest =>
      match level.letter? letter, rest with
      | none, _ => .error .unknownArgument
      | some (.value slot), [] => progress.take (.value slot) none
      | some (.value slot), '=' :: value =>
          progress.take (.value slot) (some (String.ofList value))
      | some (.value slot), value => progress.take (.value slot) (some (String.ofList value))
      | some flag, rest => do
          let progress ← progress.take flag none
          takeLetters level progress rest

/-- Take in what follows two hyphens: a name, perhaps with a value. -/
def takeName (level : Level) (progress : Progress) (characters : List Char) :
    Except UsageError Progress :=
  let (name, rest) := characters.span (· != '=')
  match level.flag? (String.ofList name), rest with
  | none, _ => .error .unknownArgument
  | some flag, [] => progress.take flag none
  | some flag, _ :: value => progress.take flag (some (String.ofList value))

/-- Take in a word that is no flag. -/
def takePlain (level : Level) (progress : Progress) (word : String) :
    Except UsageError Progress :=
  if progress.wantsValue then
    .ok { progress with pending := progress.pending.map fun (slot, _) => (slot, some word) }
  else
    match level with
    | .top =>
        if progress.literal && (CommandWord.ofText? word).isSome then .error .unknownArgument
        else .error .unknownCommand
    | .plan | .up =>
        if progress.given.environment.isSome then .error .unknownArgument
        else do
          let progress ← progress.settle
          return { progress with given := { progress.given with environment := some word } }

/-- Take in a word. -/
def takeWord (level : Level) (progress : Progress) (word : String) :
    Except UsageError Progress :=
  if progress.literal then takePlain level progress word
  else
    match word.toList with
    | ['-', '-'] => .ok { progress with literal := true }
    | '-' :: '-' :: rest => takeName level progress rest
    | ['-'] => takePlain level progress word
    | '-' :: letters => takeLetters level progress letters
    | _ => takePlain level progress word

/-- What was given on a level, once its words have ended.  `surrounding` is the
path of the configuration from the surroundings. -/
def finish (progress : Progress) (surrounding : Option String) : Except UsageError Given := do
  let progress ← progress.settle
  if progress.given.config.isNone && surrounding == some "" then .error .noValue
  else return progress.given

end Progress

/-- What is said behind a command. -/
def readCommand (level : Level) (surrounding : Option String) (words : List String) :
    Except UsageError Given := do
  let progress ← words.foldlM (Progress.takeWord level) {}
  progress.finish surrounding

/-- What is said behind the word for help: at most the name of one command. -/
def readHelp : List String → UsageError
  | [] => .asked .program
  | [word] =>
      match CommandWord.ofText? word with
      | some word => .asked (.command word)
      | none => .unknownCommand
  | _ => .unknownCommand

/-- The command of a level, for what was given there. -/
def commandOf (level : Level) (given : Given) : Except UsageError Command :=
  match given.environment with
  | none => .error .noEnvironment
  | some environment =>
      match level with
      | .up => .ok (.up environment given.overrides given.statusInterval)
      | .top | .plan => .ok (.plan environment given.json)

/-- Put together what was given before the command and behind it. -/
def assemble (level : Level) (surrounding : Option String) (words : List String)
    (progress : Progress) : Except UsageError Invocation := do
  let inner ← readCommand level surrounding words
  let command ← commandOf level inner
  let outer ← progress.finish surrounding
  return {
    config := (inner.config.or outer.config).or surrounding
    kubeconfig := inner.kubeconfig.or outer.kubeconfig
    command := command }

/-- Read the words up to the command, and then those behind it. -/
def readWords (surrounding : Option String) : Progress → List String →
    Except UsageError Invocation
  | progress, [] => do
      let given ← progress.finish surrounding
      .error (if given.isBlank && surrounding.isNone then .nothingGiven else .noCommand)
  | progress, word :: rest =>
      let command? :=
        if progress.literal || progress.wantsValue then none else CommandWord.ofText? word
      match command? with
      | some .help => .error (readHelp rest)
      | some .plan => assemble .plan surrounding rest progress
      | some .up => assemble .up surrounding rest progress
      | none => do
          let progress ← progress.takeWord .top word
          readWords surrounding progress rest

/-- Read a command line without the name of the program.  `surrounding` is the
path of the configuration from the surroundings. -/
def read (surrounding : Option String) (words : List String) : Except UsageError Invocation :=
  readWords surrounding {} words

end PortTunnel.CommandLine
