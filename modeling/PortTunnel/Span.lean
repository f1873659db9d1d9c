import PortTunnel.Number.Power

/-!
# Spans of time

Delays and grace periods are spans of whole nanoseconds.  A span is at most
`2 ^ 64` seconds less one nanosecond; products that would exceed this stop
there.
-/

namespace PortTunnel

/-- The number of nanoseconds in the longest span. -/
def longestNanos : Nat := Number.twoTo 64 * 1000000000 - 1

theorem longestNanos_eq : longestNanos = 18446744073709551615999999999 :=
  rfl

/-- A span of time. -/
structure Span where
  nanos : Nat
  nanos_le : nanos ≤ longestNanos := by decide

namespace Span

@[ext]
theorem ext {first second : Span} (same : first.nanos = second.nanos) : first = second := by
  cases first
  cases second
  simp_all

instance : DecidableEq Span := fun first second =>
  if same : first.nanos = second.nanos then isTrue (ext same)
  else isFalse fun equal => same (congrArg nanos equal)

/-- A number of nanoseconds as a span, stopping at the longest one. -/
def ofNanos (nanos : Nat) : Span :=
  ⟨min nanos longestNanos, Nat.min_le_right _ _⟩

@[simp]
theorem nanos_ofNanos (nanos : Nat) : (ofNanos nanos).nanos = min nanos longestNanos :=
  rfl

/-- The empty span. -/
def zero : Span := ofNanos 0

instance : Inhabited Span := ⟨zero⟩

/-- Whole milliseconds as a span. -/
def ofMillis (millis : UInt64) : Span :=
  ofNanos (millis.toNat * 1000000)

/-- The span of a number of milliseconds is never cut. -/
@[simp]
theorem nanos_ofMillis (millis : UInt64) : (ofMillis millis).nanos = millis.toNat * 1000000 := by
  have bound := millis.toNat_lt
  simp only [ofMillis, nanos_ofNanos, longestNanos_eq]
  omega

/-- Whole seconds as a span. -/
def ofSeconds (seconds : Nat) : Span :=
  ofNanos (seconds * 1000000000)

/-- The whole milliseconds in a span. -/
def millis (span : Span) : Nat :=
  span.nanos / 1000000

/-- A span a number of times over, stopping at the longest span. -/
def times (span : Span) (factor : Nat) : Span :=
  ofNanos (span.nanos * factor)

/-- The shorter of two spans. -/
def least (first second : Span) : Span :=
  if first.nanos ≤ second.nanos then first else second

/-- Whether a span is empty. -/
def isZero (span : Span) : Bool :=
  span.nanos == 0

/-- The digits of `number` below a point, `places` of them, without zeros at the end. -/
def fraction (number places : Nat) : String :=
  let digits := Nat.toDigits 10 (Number.tenTo places + number)
  String.ofList (((digits.drop 1).reverse.dropWhile (· == '0')).reverse)

/-- A number with `places` decimal places and a unit. -/
def decimal (whole part places : Nat) (unit : String) : String :=
  let digits := fraction part places
  whole.repr ++ (if digits.isEmpty then "" else "." ++ digits) ++ unit

/-- A span in the largest unit that it fills, as in `1.5s`, `60ms` or `0ns`. -/
def text (span : Span) : String :=
  let nanos := span.nanos
  if 1000000000 ≤ nanos then decimal (nanos / 1000000000) (nanos % 1000000000) 9 "s"
  else if 1000000 ≤ nanos then decimal (nanos / 1000000) (nanos % 1000000) 6 "ms"
  else if 1000 ≤ nanos then decimal (nanos / 1000) (nanos % 1000) 3 "µs"
  else decimal nanos 0 0 "ns"

end Span

end PortTunnel
