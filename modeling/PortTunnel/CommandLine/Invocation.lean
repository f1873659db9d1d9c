import PortTunnel.Config.Basic
import PortTunnel.Span

/-!
# Invocations

What the program is asked to do: to show the forwards of an environment, or to
run them.  A run may be given settings that take the place of those in the
configuration.
-/

namespace PortTunnel.CommandLine

/-- Settings given for one run. -/
structure Overrides where
  initialDelay : Option Span := none
  maxDelay : Option Span := none
  maxRetries : Option UInt32 := none
  shutdownGrace : Option Span := none
  deriving DecidableEq

instance : Inhabited Overrides := ⟨{}⟩

/-- The whole milliseconds of a span, as far as they fit into a word. -/
def wholeMillis (span : Span) : UInt64 :=
  UInt64.ofNat (min span.millis (Number.twoTo 64 - 1))

/-- Settings with what is overridden. -/
def Overrides.over (overrides : Overrides) (settings : Config.Settings) : Config.Settings where
  initialDelayMs := (overrides.initialDelay.map wholeMillis).getD settings.initialDelayMs
  maxDelayMs := (overrides.maxDelay.map wholeMillis).getD settings.maxDelayMs
  maxRetries := overrides.maxRetries.or settings.maxRetries
  shutdownGraceMs := (overrides.shutdownGrace.map wholeMillis).getD settings.shutdownGraceMs

@[simp]
theorem Overrides.blank_over (settings : Config.Settings) :
    Overrides.over {} settings = settings := by
  cases settings
  rfl

/-- What is asked of the forwards of an environment. -/
inductive Command where
  /-- Show them, as JSON if wanted. -/
  | plan (environment : String) (asJson : Bool)
  /-- Run them, and show how they fare at an interval if one is given. -/
  | up (environment : String) (overrides : Overrides) (statusInterval : Option Span)
  deriving DecidableEq

/-- What the program is asked to do. -/
structure Invocation where
  /-- The path of the configuration, if it is named. -/
  config : Option String
  /-- The path of the file that describes clusters, if it is named. -/
  kubeconfig : Option String
  command : Command
  deriving DecidableEq

end PortTunnel.CommandLine
