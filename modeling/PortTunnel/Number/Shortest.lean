import PortTunnel.Number.Power

/-!
# The shortest decimal that reads back

A binary floating point number stands for every decimal in an interval around
it.  Messages that cite such a number use the decimal with the fewest digits in
that interval, and of two such decimals the nearer one.

The number is taken apart into a significand and a power of two, the interval
is computed in exact natural arithmetic, and the grids of one, two, three, …
digits are tried in turn.  Seventeen digits always suffice.
-/

namespace PortTunnel.Number

/-- A positive binary floating point number `significand * 2 ^ exponent`, with
the distance to its lower neighbour halved when `narrowBelow` holds. -/
structure Binary where
  significand : Nat
  exponent : Int
  narrowBelow : Bool
  deriving Repr, DecidableEq

/-- A positive decimal `digits * 10 ^ exponent`. -/
structure Decimal where
  digits : Nat
  exponent : Int
  deriving Repr, DecidableEq

namespace Binary

/-- The finite, non-zero number whose encoding in 64 bits is `bits`, without its sign. -/
def ofBits (bits : Nat) : Binary :=
  let fraction : Nat := bits % twoTo 52
  let scale : Nat := (bits / twoTo 52) % twoTo 11
  if scale == 0 then
    ⟨fraction, -1074, false⟩
  else
    ⟨fraction + twoTo 52, (scale : Int) - 1075, fraction == 0 && 1 < scale⟩

/-- Four times the number and its unit, as natural numbers over one denominator. -/
structure Quarters where
  value : Nat
  below : Nat
  above : Nat
  one : Nat

/-- The number and the ends of the interval that rounds to it. -/
def quarters (number : Binary) : Quarters :=
  let up := twoTo number.exponent.toNat
  let down := twoTo (-number.exponent).toNat
  { value := 4 * number.significand * up
    below := (4 * number.significand - if number.narrowBelow then 1 else 2) * up
    above := (4 * number.significand + 2) * up
    one := 4 * down }

/-- Compare `candidate * 10 ^ scale` with `numerator / denominator` after
clearing both fractions. -/
def scaled (candidate : Nat) (scale : Int) (numerator denominator : Nat) : Nat × Nat :=
  (candidate * tenTo scale.toNat * denominator, numerator * tenTo (-scale).toNat)

/-- Whether `candidate * 10 ^ scale` lies in the interval; its ends belong to it
when the significand is even. -/
def covers (number : Binary) (candidate : Nat) (scale : Int) : Bool :=
  let parts := number.quarters
  let (fromBelow, lower) := scaled candidate scale parts.below parts.one
  let (fromAbove, upper) := scaled candidate scale parts.above parts.one
  if number.significand % 2 == 0 then
    lower ≤ fromBelow && fromAbove ≤ upper
  else
    lower < fromBelow && fromAbove < upper

/-- The whole multiples of `10 ^ scale` in the number, rounded down. -/
def wholes (number : Binary) (scale : Int) : Nat :=
  let parts := number.quarters
  (parts.value * tenTo (-scale).toNat) / (parts.one * tenTo scale.toNat)

/-- Of the two neighbours of the number on the grid of `10 ^ scale`, the one in
the interval that is nearer. -/
def onGrid? (number : Binary) (scale : Int) : Option Decimal :=
  let lower := number.wholes scale
  let parts := number.quarters
  let (low, value) := scaled lower scale parts.value parts.one
  let (high, _) := scaled (lower + 1) scale parts.value parts.one
  let lowerFits := 0 < lower && number.covers lower scale
  let upperFits := number.covers (lower + 1) scale
  if lowerFits && (!upperFits || value - low ≤ high - value) then
    some ⟨lower, scale⟩
  else if upperFits then
    some ⟨lower + 1, scale⟩
  else
    none

/-- The exponent of the leading decimal digit, found by counting the digits of
the whole part, or of the number scaled up when it is below one. -/
def magnitude (number : Binary) : Int :=
  let shift : Nat := 330
  ((Nat.toDigits 10 (number.wholes (-(shift : Int)))).length : Int) - 1 - shift

/-- Try the grids with `count`, `count + 1`, … digits. -/
def search (number : Binary) (leading : Int) : Nat → Nat → Decimal
  | 0, _ => ⟨number.wholes (leading - 16), leading - 16⟩
  | tries + 1, count =>
      match number.onGrid? (leading - (count : Int) + 1) with
      | some found => found
      | none => search number leading tries (count + 1)

/-- The shortest decimal in the interval. -/
def shortest (number : Binary) : Decimal :=
  number.search number.magnitude 17 1

end Binary

/-- Drop the zeros at the end of the digits. -/
def Decimal.trimmed (decimal : Decimal) : Nat → Decimal
  | 0 => decimal
  | fuel + 1 =>
      if decimal.digits % 10 == 0 && decimal.digits != 0 then
        Decimal.trimmed ⟨decimal.digits / 10, decimal.exponent + 1⟩ fuel
      else
        decimal

end PortTunnel.Number
