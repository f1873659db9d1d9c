import PortTunnel.Number.Shortest

/-!
# Reals in documents and in messages

Documents write reals as a sign, a natural number of digits and a power of ten.
The program never computes with them: a real is only ever named in a message
that refuses it.  What has to be exact is therefore its text, which is the
shortest decimal of the binary number that the digits round to, laid out by the
rules of the document's format.
-/

namespace PortTunnel.Number

/-- A decimal as a document writes it: `digits * 10 ^ exponent` with a sign. -/
structure Numeral where
  negative : Bool
  digits : Nat
  exponent : Int
  deriving Repr, DecidableEq

namespace Numeral

/-- The magnitude of the nearest binary number. -/
def nearest (numeral : Numeral) : Float :=
  let size := ((Nat.toDigits 10 numeral.digits).length : Int) + numeral.exponent
  if numeral.digits == 0 || size < -400 then 0.0
  else if 400 < size then 1.0 / 0.0
  else if numeral.exponent < 0 then
    Float.ofScientific numeral.digits true (-numeral.exponent).toNat
  else
    Float.ofScientific numeral.digits false numeral.exponent.toNat

/-- A power of ten as a binary number. -/
def power (exponent : Nat) : Float :=
  Float.ofScientific 1 false exponent

/-- The magnitude that a reader finds when it first rounds the digits and then
scales them, in steps of at most `10 ^ 308`.  The text is out of range when the
result would be infinite. -/
def scaled? : Nat → Float → Int → Option Float
  | 0, _, _ => none
  | fuel + 1, value, exponent =>
      if exponent.natAbs ≤ 308 then
        if 0 ≤ exponent then
          let product := value * power exponent.natAbs
          if product.isInf then none else some product
        else
          some (value / power exponent.natAbs)
      else if value == 0.0 then some value
      else if 0 ≤ exponent then none
      else scaled? fuel (value / power 308) (exponent + 308)

/-- The magnitude of a numeral whose digits are rounded before they are scaled. -/
def roundedThenScaled? (numeral : Numeral) : Option Float :=
  scaled? 8 (Float.ofScientific numeral.digits false 0) (max numeral.exponent (-2400))

end Numeral

/-- How the text of a real is laid out. -/
structure Layout where
  /-- The text of a whole number ends in `.0`. -/
  wholePoint : Bool
  /-- Decimal points further to the right than this many digits use an exponent. -/
  mostWhole : Option Nat
  /-- Decimal points further to the left than this many zeros use an exponent. -/
  mostZeros : Option Nat

namespace Layout

/-- Every digit is written, and no exponent. -/
def positional : Layout := ⟨true, none, none⟩

/-- An exponent is written from `10 ^ 16` on and below `10 ^ -5`. -/
def scientific : Layout := ⟨true, some 16, some 4⟩

/-- The digits of a decimal as characters. -/
def digitText (decimal : Decimal) : String :=
  String.ofList (Nat.toDigits 10 decimal.digits)

/-- The text of a positive decimal whose digits do not end in zero. -/
def decimalText (layout : Layout) (decimal : Decimal) : String :=
  let digits := digitText decimal
  let point : Int := digits.length + decimal.exponent
  let zeros (count : Nat) : String := String.ofList (List.replicate count '0')
  let positionalText :=
    if 0 ≤ decimal.exponent then
      digits ++ zeros decimal.exponent.toNat ++ (if layout.wholePoint then ".0" else "")
    else if 0 < point then
      String.ofList (digits.toList.take point.toNat) ++ "." ++
        String.ofList (digits.toList.drop point.toNat)
    else
      "0." ++ zeros (-point).toNat ++ digits
  let exponentText :=
    let rest := digits.toList.drop 1
    String.ofList (digits.toList.take 1) ++
      (if rest.isEmpty then "" else "." ++ String.ofList rest) ++ "e" ++ toString (point - 1)
  let tooLarge := match layout.mostWhole with
    | some most => decide ((most : Int) < point)
    | none => false
  let tooSmall := match layout.mostZeros with
    | some most => decide (point ≤ -((most : Int) + 1))
    | none => false
  if tooLarge || tooSmall then exponentText else positionalText

/-- The text of a magnitude, without its sign. -/
def magnitudeText (layout : Layout) (value : Float) : String :=
  if value == 0.0 then (if layout.wholePoint then "0.0" else "0")
  else
    let decimal := (Binary.ofBits value.toBits.toNat).shortest
    layout.decimalText (decimal.trimmed 400)

/-- The text of a real with the given sign and magnitude. -/
def text (layout : Layout) (negative : Bool) (value : Float) : String :=
  if value.isNaN then "NaN"
  else
    (if negative then "-" else "") ++ (if value.isInf then "inf" else layout.magnitudeText value)

end Layout

end PortTunnel.Number
