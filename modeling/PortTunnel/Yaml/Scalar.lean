import PortTunnel.Number.Power
import PortTunnel.Schema.Problem
import PortTunnel.Yaml.Document

/-!
# What plain scalars mean

A plain scalar may be an empty value, a truth value, a whole number, a real or a
text; a quoted one is a text.  A tag may demand one of these meanings.  Whole
numbers may be written in four bases, but not with leading zeros.
-/

namespace PortTunnel.Yaml.Scalar

open PortTunnel.Schema

/-! ## Whole numbers -/

/-- The digit that a character stands for in a base. -/
def digit? (base : Nat) (character : Char) : Option Nat := do
  let value ←
    if character.isDigit then some (character.toNat - 48)
    else if 'a' ≤ character && character ≤ 'z' then some (character.toNat - 87)
    else if 'A' ≤ character && character ≤ 'Z' then some (character.toNat - 55)
    else none
  if value < base then some value else none

/-- The natural number that digits stand for; there must be at least one. -/
def natural? (base : Nat) (digits : List Char) : Option Nat :=
  if digits.isEmpty then none
  else digits.foldlM (fun number character => do
    return number * base + (← digit? base character)) 0

/-- A natural number up to `greatest`. -/
def bounded? (base greatest : Nat) (digits : List Char) : Option Nat := do
  let number ← natural? base digits
  if number ≤ greatest then some number else none

/-- The marks of the bases other than ten. -/
def baseOf? : List Char → Option (Nat × List Char)
  | '0' :: 'x' :: rest => some (16, rest)
  | '0' :: 'o' :: rest => some (8, rest)
  | '0' :: 'b' :: rest => some (2, rest)
  | _ => none

/-- Whether a text starts with a sign. -/
def startsSigned (characters : List Char) : Bool :=
  characters.head? == some '+' || characters.head? == some '-'

/-- Drop one sign of the given kind. -/
def dropSign (sign : Char) (characters : List Char) : List Char :=
  if characters.head? == some sign then characters.drop 1 else characters

/-- Digits behind a leading zero are a text and no number. -/
def isPadded (characters : List Char) : Bool :=
  let digits := if startsSigned characters then characters.drop 1 else characters
  1 < digits.length && digits.head? == some '0' && digits.all Char.isDigit

/-- A number without a negative sign, up to `greatest`. -/
def unsigned? (greatest : Nat) (characters : List Char) : Option Nat :=
  let positive := dropSign '+' characters
  match baseOf? positive with
  | some (base, rest) => if startsSigned rest then none else bounded? base greatest rest
  | none =>
      if startsSigned positive || isPadded characters then none
      else bounded? 10 greatest positive

/-- A number with a negative sign, at least `-lowest`. -/
def negative? (lowest : Nat) (characters : List Char) : Option Int :=
  match characters with
  | '-' :: rest =>
      match baseOf? rest with
      | some (base, digits) => (bounded? base lowest digits).map fun number => -(number : Int)
      | none =>
          if isPadded characters then none
          else (bounded? 10 lowest rest).map fun number => -(number : Int)
  | _ => none

/-- A number of either sign between `-2 ^ 63` and `2 ^ 63 - 1`. -/
def signed? (characters : List Char) : Option Int :=
  match unsigned? (Number.twoTo 63 - 1) characters with
  | some number => some number
  | none => negative? (Number.twoTo 63) characters

/-! ## Reals -/

/-- Split digits from the front of a text. -/
def digits (characters : List Char) : List Char × List Char :=
  characters.span Char.isDigit

/-- The exponent behind a mantissa; the whole text must be used up. -/
def exponent? : List Char → Option Int
  | [] => some 0
  | mark :: rest =>
      if mark == 'e' || mark == 'E' then
        let down := rest.head? == some '-'
        let unsigned := if startsSigned rest then rest.drop 1 else rest
        (natural? 10 unsigned).map fun number => if down then -(number : Int) else number
      else none

/-- A decimal with at least one digit, perhaps a point, perhaps an exponent. -/
def decimal? (characters : List Char) : Option Number.Numeral := do
  let negative := characters.head? == some '-'
  let unsigned := if startsSigned characters then characters.drop 1 else characters
  let (whole, rest) := digits unsigned
  let (fraction, rest) := match rest with
    | '.' :: rest => digits rest
    | _ => ([], rest)
  let number ← natural? 10 (whole ++ fraction)
  let exponent ← exponent? rest
  return ⟨negative, number, exponent - fraction.length⟩

/-- A real: infinite, not a number, or a decimal within the range of binary numbers. -/
def real? (content : String) : Option Floating :=
  let characters := content.toList
  let positive := dropSign '+' characters
  let unsigned := String.ofList positive
  if characters.head? == some '+' && startsSigned positive then none
  else if unsigned == ".inf" || unsigned == ".Inf" || unsigned == ".INF" then
    some (.infinite false)
  else if content == "-.inf" || content == "-.Inf" || content == "-.INF" then
    some (.infinite true)
  else if content == ".nan" || content == ".NaN" || content == ".NAN" then some .notANumber
  else do
    let numeral ← decimal? positive
    if numeral.nearest.isInf then none else some (.finite numeral)

/-! ## Meanings -/

/-- Whether a plain scalar stands for the absence of a value. -/
def isNull (content : String) : Bool :=
  content == "null" || content == "Null" || content == "NULL" || content == "~"

/-- The truth value that a plain scalar stands for. -/
def bool? (content : String) : Option Bool :=
  if content == "true" || content == "True" || content == "TRUE" then some true
  else if content == "false" || content == "False" || content == "FALSE" then some false
  else none

/-- The whole number that a plain scalar stands for. -/
def integer? (content : String) : Option Found :=
  let characters := content.toList
  match unsigned? (Number.twoTo 64 - 1) characters with
  | some number => some (.integer number)
  | none =>
      match negative? (Number.twoTo 63) characters with
      | some number => some (.integer number)
      | none =>
          match unsigned? (Number.twoTo 128 - 1) characters with
          | some number => some (.wideInteger number)
          | none => (negative? (Number.twoTo 127) characters).map .wideInteger

/-- What a plain scalar without a tag is. -/
def plainMeaning (content : String) : Found :=
  if content.isEmpty || isNull content then .nothing
  else
    match bool? content with
    | some truth => .bool truth
    | none =>
        match integer? content with
        | some found => found
        | none =>
            if isPadded content.toList then .text content
            else
              match real? content with
              | some value => .real value
              | none => .text content

/-- The tags that demand a meaning. -/
def boolTag : String := "tag:yaml.org,2002:bool"

/-- The tag of whole numbers. -/
def integerTag : String := "tag:yaml.org,2002:int"

/-- The tag of reals. -/
def realTag : String := "tag:yaml.org,2002:float"

/-- The tag of the absence of a value. -/
def nullTag : String := "tag:yaml.org,2002:null"

/-- A meaning that a tag demands, or the problem that the text does not have it. -/
def demanded (found : Option Found) (content expected : String) : Except Problem Found :=
  match found with
  | some found => .ok found
  | none => .error (.wrongValue (.text content) expected)

/-- What a scalar is. -/
def meaning (tag : Tag) (content : String) (style : Style) : Except Problem Found :=
  let untagged : Found := if style == .plain then plainMeaning content else .text content
  match tag with
  | none => .ok untagged
  | some tag =>
      if tag == boolTag then demanded ((bool? content).map .bool) content "a boolean"
      else if tag == integerTag then demanded (integer? content) content "an integer"
      else if tag == realTag then demanded ((real? content).map .real) content "a float"
      else if tag == nullTag then
        demanded (if isNull content then some .nothing else none) content "null"
      else if tag.startsWith "!" then .ok untagged
      else .ok (.text content)

/-- The problem that a scalar is not of the expected type. -/
def mismatch (tag : Tag) (content : String) (style : Style) (expected : String) : Problem :=
  match meaning tag content style with
  | .ok found => .wrongType found expected
  | .error problem => problem

/-- Whether the text of a scalar may be a whole number. -/
def mayBeInteger (tag : Tag) (style : Style) : Bool :=
  style == .plain || (style == .literal && tag == some integerTag)

end PortTunnel.Yaml.Scalar
