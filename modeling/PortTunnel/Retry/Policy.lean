import PortTunnel.Config.Basic
import PortTunnel.Number.Power
import PortTunnel.Retry.Draw
import PortTunnel.Span

/-!
# Retries

Delays between attempts are drawn at random below a ceiling.  The ceiling
doubles from attempt to attempt until it meets a cap.
-/

namespace PortTunnel.Retry

/-- When and how often a failed attempt is repeated. -/
structure Policy where
  /-- The ceiling of the first delay. -/
  initialDelay : Span := .ofSeconds 1
  /-- The cap of all ceilings. -/
  maxDelay : Span := .ofSeconds 30
  /-- The number of failures in a row that are put up with, if bounded. -/
  maxRetries : Option UInt32 := none
  deriving DecidableEq

namespace Policy

instance : Inhabited Policy := ⟨{}⟩

/-- How often the first ceiling is taken for an attempt: a power of two, or the
greatest number of 32 bits where the power has more. -/
def factor (attempt : UInt32) : Nat :=
  if attempt.toNat < 32 then Number.twoTo attempt.toNat else Number.twoTo 32 - 1

/-- The greatest delay before a retry; retries count from zero. -/
def ceiling (policy : Policy) (attempt : UInt32) : Span :=
  (policy.initialDelay.times (factor attempt)).least policy.maxDelay

/-- The whole milliseconds of a ceiling, as far as they fit into a word. -/
def ceilingMillis (policy : Policy) (attempt : UInt32) : UInt64 :=
  UInt64.ofNat (min (policy.ceiling attempt).millis (Number.twoTo 64 - 1))

/-- The delay before a retry for random words, and how many of them were drawn. -/
def delay (policy : Policy) (attempt : UInt32) (words : List UInt64) : Span × Nat :=
  let (outcome, count) := draw (policy.ceilingMillis attempt) words
  (.ofMillis outcome, count)

/-- Whether a number of failures in a row is too much. -/
def isExhausted (policy : Policy) (failures : UInt32) : Bool :=
  match policy.maxRetries with
  | some most => most < failures
  | none => false

end Policy

end PortTunnel.Retry

namespace PortTunnel.Config.Settings

/-- The retries that settings ask for. -/
def retry (settings : Settings) : Retry.Policy where
  initialDelay := .ofMillis settings.initialDelayMs
  maxDelay := .ofMillis settings.maxDelayMs
  maxRetries := settings.maxRetries

/-- The time that settings leave forwards to close. -/
def grace (settings : Settings) : Span :=
  .ofMillis settings.shutdownGraceMs

end PortTunnel.Config.Settings
