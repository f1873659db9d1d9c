/-!
# Base64

Three bytes are written as four characters.  A last group of one or two bytes is
padded, and the bits for which it has no bytes are zero.
-/

namespace PortTunnel.Text.Base64

/-- The six bits that a character stands for. -/
def bits? (character : Char) : Option Nat :=
  let code := character.toNat
  if 'A' ≤ character ∧ character ≤ 'Z' then some (code - 65)
  else if 'a' ≤ character ∧ character ≤ 'z' then some (code - 97 + 26)
  else if character.isDigit then some (code - 48 + 52)
  else if character = '+' then some 62
  else if character = '/' then some 63
  else none

/-- The bytes that a group of four characters stands for. -/
def group? (first second third fourth : Char) : Option (List UInt8) := do
  let first ← bits? first
  let second ← bits? second
  let third ← bits? third
  let fourth ← bits? fourth
  let number := ((first * 64 + second) * 64 + third) * 64 + fourth
  return [UInt8.ofNat (number / 65536), UInt8.ofNat (number / 256 % 256),
    UInt8.ofNat (number % 256)]

/-- The bytes that a last group stands for, without its padding. -/
def lastGroup? (first second : Char) (third : Option Char) : Option (List UInt8) := do
  let bytes ← group? first second (third.getD 'A') 'A'
  let count := if third.isSome then 2 else 1
  if (bytes.drop count).all (· == 0) then some (bytes.take count) else none

/-- The bytes that characters stand for. -/
def decode? : List Char → Option (List UInt8)
  | [] => some []
  | [first, second, '=', '='] => lastGroup? first second none
  | [first, second, third, '='] => lastGroup? first second (some third)
  | first :: second :: third :: fourth :: rest => do
      let bytes ← group? first second third fourth
      return bytes ++ (← decode? rest)
  | _ => none

example : decode? "QUJD".toList = some [65, 66, 67] := by decide +kernel

example : decode? "QUI=".toList = some [65, 66] := by decide +kernel

example : decode? "QUJ=".toList = none := by decide +kernel

end PortTunnel.Text.Base64
