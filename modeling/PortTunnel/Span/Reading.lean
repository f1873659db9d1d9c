import PortTunnel.Span
import PortTunnel.Text.Blank

/-!
# Spans as people write them

A span is written as a row of amounts, each with a unit, as in `1h 30m` or
`1.5s`; their sum is meant.  Blanks may stand between amounts, and do not count
within numbers.  Amounts that do not fit into words are refused rather than
rounded.
-/

namespace PortTunnel

/-- Units of time. -/
inductive TimeUnit where
  | nanosecond
  | microsecond
  | millisecond
  | second
  | minute
  | hour
  | day
  | week
  | month
  | year
  deriving DecidableEq, Repr

namespace TimeUnit

/-- The unit of a name. -/
def ofName? : String → Option TimeUnit
  | "nanos" | "nsec" | "ns" => some nanosecond
  | "usec" | "us" | "µs" => some microsecond
  | "millis" | "msec" | "ms" => some millisecond
  | "seconds" | "second" | "secs" | "sec" | "s" => some second
  | "minutes" | "minute" | "min" | "mins" | "m" => some minute
  | "hours" | "hour" | "hr" | "hrs" | "h" => some hour
  | "days" | "day" | "d" => some day
  | "weeks" | "week" | "wk" | "wks" | "w" => some week
  | "months" | "month" | "M" => some month
  | "years" | "year" | "yr" | "yrs" | "y" => some year
  | _ => none

/-- The nanoseconds in a unit.  A month is a twelfth of a year to the hundredth
of a day, and a year has a quarter of a day more than 365. -/
def nanos : TimeUnit → Nat
  | nanosecond => 1
  | microsecond => 1000
  | millisecond => 1000000
  | second => 1000000000
  | minute => 60 * 1000000000
  | hour => 3600 * 1000000000
  | day => 86400 * 1000000000
  | week => 604800 * 1000000000
  | month => 2630016 * 1000000000
  | year => 31557600 * 1000000000

/-- In what whole amounts of a unit are counted: nanoseconds for units below a
second, and seconds for the others. -/
def wholeGrain : TimeUnit → Nat
  | nanosecond | microsecond | millisecond => 1
  | _ => 1000000000

/-- In what parts of a unit are counted, if it has parts: nanoseconds up to a
minute, and seconds from an hour on. -/
def partGrain? : TimeUnit → Option Nat
  | nanosecond => none
  | microsecond | millisecond | second | minute => some 1
  | _ => some 1000000000

end TimeUnit

namespace Span

/-- A number, if it fits into a word. -/
def fitting? (number : Nat) : Option Nat :=
  if number < Number.twoTo 64 then some number else none

/-- An amount: a whole number and a decimal fraction. -/
structure Amount where
  whole : Nat := 0
  numerator : Nat := 0
  /-- The number of decimal places. -/
  places : Nat := 0
  deriving DecidableEq, Repr

/-- A sum of nanoseconds with `count` grains more.  The part of the sum below a
second and the grains below a second share one word. -/
def plus? (sum count grain : Nat) : Option Nat := do
  let nanos := if grain = 1 then count else 0
  let _ ← fitting? (sum % 1000000000 + nanos)
  let total := sum + count * grain
  if total ≤ longestNanos then some total else none

/-- A sum of nanoseconds with an amount of a unit more. -/
def Amount.addTo? (amount : Amount) (unit : TimeUnit) (sum : Nat) : Option Nat := do
  let wholeCount ← fitting? (amount.whole * (unit.nanos / unit.wholeGrain))
  let sum ← plus? sum wholeCount unit.wholeGrain
  if amount.places = 0 then some sum
  else
    let grain ← unit.partGrain?
    let denominator ← fitting? (Number.tenTo amount.places)
    let scaled ← fitting? (amount.numerator * (unit.nanos / grain))
    plus? sum (scaled / denominator) grain

/-- What is being read. -/
inductive Place where
  /-- Nothing yet. -/
  | opening
  /-- The gap between two amounts. -/
  | gap
  | whole (amount : Amount)
  | fraction (amount : Amount)
  /-- A unit, whose last letter comes first. -/
  | unit (amount : Amount) (letters : List Char)

/-- Whether a character can be part of a unit. -/
def isUnitLetter (character : Char) : Bool :=
  character.isAlpha || character == 'µ'

/-- The value of a digit. -/
def digitValue (digit : Char) : Nat :=
  digit.toNat - '0'.toNat

/-- Close an amount with the letters of its unit. -/
def close? (amount : Amount) (letters : List Char) (sum : Nat) : Option Nat := do
  let unit ← TimeUnit.ofName? (String.ofList letters.reverse)
  amount.addTo? unit sum

/-- Read a character, given the sum of the amounts before. -/
def readCharacter? (character : Char) : Place × Nat → Option (Place × Nat)
  | (.opening, sum) =>
      if character.isDigit then some (.whole { whole := digitValue character }, sum)
      else if Text.isBlank character then some (.opening, sum)
      else none
  | (.gap, sum) =>
      if character.isDigit then some (.whole { whole := digitValue character }, sum)
      else if Text.isBlank character then some (.gap, sum)
      else none
  | (.whole amount, sum) =>
      if character.isDigit then
        some (.whole { amount with whole := amount.whole * 10 + digitValue character }, sum)
      else if Text.isBlank character then some (.whole amount, sum)
      else if isUnitLetter character then some (.unit amount [character], sum)
      else if character == '.' then some (.fraction amount, sum)
      else none
  | (.fraction amount, sum) =>
      if character.isDigit then
        some
          (.fraction
            { amount with
              numerator := amount.numerator * 10 + digitValue character
              places := amount.places + 1 }, sum)
      else if Text.isBlank character then some (.fraction amount, sum)
      else if isUnitLetter character && amount.places != 0 then
        some (.unit amount [character], sum)
      else none
  | (.unit amount letters, sum) =>
      if isUnitLetter character then some (.unit amount (character :: letters), sum)
      else if character.isDigit then do
        let sum ← close? amount letters sum
        some (.whole { whole := digitValue character }, sum)
      else if Text.isBlank character then do
        let sum ← close? amount letters sum
        some (.gap, sum)
      else none

/-- The sum once everything is read. -/
def finish? : Place × Nat → Option Nat
  | (.gap, sum) => some sum
  | (.unit amount letters, sum) => close? amount letters sum
  | (.opening, _) | (.whole _, _) | (.fraction _, _) => none

/-- The span that a text stands for.  A lone zero needs no unit. -/
def ofText? (text : String) : Option Span :=
  if text == "0" then some zero
  else do
    let reached ← text.toList.foldlM (fun reached character => readCharacter? character reached)
      (.opening, 0)
    let sum ← finish? reached
    some (ofNanos sum)

end Span

end PortTunnel
