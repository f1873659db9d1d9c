import PortTunnel.Json.Draft
import PortTunnel.Number.Power

/-!
# Reading JSON text

The reader turns a text into a draft.  Each step answers with a draft and with
what is left of the text, or with nothing left to read when the text broke.

All functions are total: they take a bound on the number of steps, which the
length of the text always meets, because every step consumes a character.
-/

namespace PortTunnel.Json

/-- The greatest natural number of 64 bits. -/
def greatestWord : Nat := Number.twoTo 64 - 1

/-- A draft and what follows it; nothing follows a break. -/
abbrev Step := Draft × Option (List Char)

namespace Draft

/-- The answer at a place where the text breaks. -/
def halt (breakage : Breakage) : Step :=
  (.broken breakage, none)

/-- White space between the parts of a document. -/
def isSpace (character : Char) : Bool :=
  character == ' ' || character == '\n' || character == '\t' || character == '\r'

/-- Skip white space. -/
def skipSpace (characters : List Char) : List Char :=
  characters.dropWhile isSpace

/-- Read the rest of a word such as `null`. -/
def readWord (word : List Char) (meaning : Draft) (characters : List Char) : Step :=
  match word, characters with
  | [], rest => (meaning, some rest)
  | _ :: _, [] => halt (.plain .truncated)
  | expected :: word, found :: rest =>
      if expected == found then readWord word meaning rest else halt (.plain .malformed)

/-! ## Numbers -/

/-- A decimal digit. -/
def digit? (character : Char) : Option Nat :=
  if '0' ≤ character && character ≤ '9' then some (character.toNat - '0'.toNat) else none

/-- The fault of a place where a digit is missing: to a reader the text may end
too early, and to one who skips it is malformed in any case. -/
def digitMissing (rest : List Char) : Breakage :=
  match rest with
  | [] => ⟨.truncated, .malformed⟩
  | _ :: _ => .plain .malformed

/-- Digits as long as their number fits in 64 bits: the number, how many digits
were taken, and the rest. -/
def readWhole : Nat → Nat → List Char → Nat × Nat × List Char
  | number, count, [] => (number, count, [])
  | number, count, character :: rest =>
      match digit? character with
      | some digit =>
          if number * 10 + digit ≤ greatestWord then
            readWhole (number * 10 + digit) (count + 1) rest
          else (number, count, character :: rest)
      | none => (number, count, character :: rest)

/-- Pass over digits: how many, and the rest. -/
def passDigits : Nat → List Char → Nat × List Char
  | count, [] => (count, [])
  | count, character :: rest =>
      if (digit? character).isSome then passDigits (count + 1) rest
      else (count, character :: rest)

/-- The number that a run of digits stands for. -/
def digitsNumber : Nat → List Char → Nat
  | number, [] => number
  | number, character :: rest =>
      match digit? character with
      | some digit => digitsNumber (number * 10 + digit) rest
      | none => number

/-- Read the exponent of a real whose digits are `digits * 10 ^ scale`. -/
def readExponent (negative : Bool) (digits : Nat) (scale : Int) (characters : List Char) : Step :=
  let (down, characters) :=
    match characters with
    | '+' :: rest => (false, rest)
    | '-' :: rest => (true, rest)
    | other => (false, other)
  let (count, rest) := passDigits 0 characters
  if count == 0 then halt (digitMissing rest)
  else
    let exponent : Int := digitsNumber 0 characters
    (.real ⟨negative, digits, if down then scale - exponent else scale + exponent⟩, some rest)

/-- Finish a real after its digits. -/
def finishReal (negative : Bool) (digits : Nat) (scale : Int) (characters : List Char) : Step :=
  match characters with
  | 'e' :: rest | 'E' :: rest => readExponent negative digits scale rest
  | other => (.real ⟨negative, digits, scale⟩, some other)

/-- Read the digits behind the point.  Those that no longer fit in 64 bits are
passed over. -/
def readFraction (negative : Bool) (digits : Nat) (scale : Int) (characters : List Char) : Step :=
  let (fraction, taken, rest) := readWhole digits 0 characters
  let (dropped, rest) := passDigits 0 rest
  if taken + dropped == 0 then halt (digitMissing rest)
  else finishReal negative fraction (scale - (taken : Int)) rest

/-- Finish a number whose whole part is `digits`, with `dropped` digits behind
it that no longer fit in 64 bits. -/
def finishNumber (negative : Bool) (digits dropped : Nat) (characters : List Char) : Step :=
  match characters with
  | '.' :: rest => readFraction negative digits dropped rest
  | 'e' :: rest | 'E' :: rest => readExponent negative digits dropped rest
  | other =>
      if dropped != 0 then (.real ⟨negative, digits, dropped⟩, some other)
      else if !negative then (.integer digits, some other)
      else if digits == 0 || Number.twoTo 63 < digits then (.real ⟨true, digits, 0⟩, some other)
      else (.integer (-(digits : Int)), some other)

/-- Read a number after its sign. -/
def readMagnitude (negative : Bool) (characters : List Char) : Step :=
  match characters with
  | '0' :: rest =>
      match rest with
      | next :: _ =>
          if (digit? next).isSome then halt (.plain .malformed)
          else finishNumber negative 0 0 rest
      | [] => finishNumber negative 0 0 rest
  | other =>
      let (digits, taken, rest) := readWhole 0 0 other
      if taken == 0 then halt (digitMissing rest)
      else
        let (dropped, rest) := passDigits 0 rest
        finishNumber negative digits dropped rest

/-! ## Strings -/

/-- What a string yields: its content, or the knowledge that it holds a lone
surrogate, and what follows its closing quote; or the break in it. -/
inductive Quoted where
  | closed (content : Option String) (rest : List Char)
  | open (breakage : Breakage)

/-- The value of a hexadecimal digit. -/
def hexDigit? (character : Char) : Option Nat :=
  let code := character.toNat
  if 48 ≤ code && code ≤ 57 then some (code - 48)
  else if 97 ≤ code && code ≤ 102 then some (code - 87)
  else if 65 ≤ code && code ≤ 70 then some (code - 55)
  else none

/-- The number of bytes that a text takes up. -/
def byteLength (characters : List Char) : Nat :=
  characters.foldl (fun length character => length + character.utf8Size) 0

/-- Read the four digits of an escape.  A text that has no four bytes left is
truncated, whatever they are. -/
def readUnit (characters : List Char) : Except Fault (Nat × List Char) :=
  match characters with
  | first :: second :: third :: fourth :: rest =>
      match hexDigit? first, hexDigit? second, hexDigit? third, hexDigit? fourth with
      | some a, some b, some c, some d => .ok (a * 4096 + b * 256 + c * 16 + d, rest)
      | _, _, _, _ => .error .malformed
  | few => .error (if byteLength few < 4 then .truncated else .malformed)

/-- The character of a one-letter escape. -/
def escape? (letter : Char) : Option Char :=
  match letter with
  | '"' => some '"'
  | '\\' => some '\\'
  | '/' => some '/'
  | 'b' => some (Char.ofNat 8)
  | 'f' => some (Char.ofNat 12)
  | 'n' => some '\n'
  | 'r' => some '\r'
  | 't' => some '\t'
  | _ => none

/-- The fault in a string, given whether all its surrogates were paired so far. -/
def breakage (paired : Bool) (fault : Fault) : Breakage :=
  ⟨if paired then fault else .malformed, fault⟩

/-- The character that a high and a low surrogate stand for. -/
def combine (high low : Nat) : Char :=
  Char.ofNat (0x10000 + (high - 0xd800) * 1024 + (low - 0xdc00))

/-- Read a string after its opening quote.  `content` holds the characters so
far, the last one first, and `paired` tells whether no surrogate was alone. -/
def readQuoted (fuel : Nat) (paired : Bool) (content characters : List Char) : Quoted :=
  match fuel with
  | 0 => .open (breakage paired .truncated)
  | fuel + 1 =>
      match characters with
      | [] => .open (breakage paired .truncated)
      | '"' :: rest =>
          .closed (if paired then some (String.ofList content.reverse) else none) rest
      | '\\' :: 'u' :: rest =>
          match readUnit rest with
          | .error fault => .open (breakage paired fault)
          | .ok (unit, rest) =>
              if 0xd800 ≤ unit && unit ≤ 0xdbff then
                match rest with
                | '\\' :: 'u' :: more =>
                    match readUnit more with
                    | .error fault => .open (breakage paired fault)
                    | .ok (low, more) =>
                        if 0xdc00 ≤ low && low ≤ 0xdfff then
                          readQuoted fuel paired (combine unit low :: content) more
                        else readQuoted fuel false content rest
                | ['\\'] | [] => .open (breakage paired .truncated)
                | other => readQuoted fuel false content other
              else if 0xdc00 ≤ unit && unit ≤ 0xdfff then
                readQuoted fuel false content rest
              else
                readQuoted fuel paired (Char.ofNat unit :: content) rest
      | ['\\'] => .open (breakage paired .truncated)
      | '\\' :: letter :: rest =>
          match escape? letter with
          | some character => readQuoted fuel paired (character :: content) rest
          | none => .open (breakage paired .malformed)
      | character :: rest =>
          if character.toNat < 0x20 then .open (breakage paired .malformed)
          else readQuoted fuel paired (character :: content) rest

/-- Read a string after its opening quote. -/
def readString (characters : List Char) : Quoted :=
  readQuoted (characters.length + 1) true [] characters

/-! ## Values -/

/-- The break at a place where something else should stand. -/
def unexpected (characters : List Char) : Breakage :=
  .plain (if characters.isEmpty then .truncated else .malformed)

mutual

/-- Read a value. -/
def readValue : Nat → List Char → Step
  | 0, _ => halt (.plain .truncated)
  | fuel + 1, characters =>
      match skipSpace characters with
      | 'n' :: rest => readWord ['u', 'l', 'l'] .null rest
      | 't' :: rest => readWord ['r', 'u', 'e'] (.bool true) rest
      | 'f' :: rest => readWord ['a', 'l', 's', 'e'] (.bool false) rest
      | '"' :: rest =>
          match readString rest with
          | .closed (some content) rest => (.text content, some rest)
          | .closed none rest => (.unpaired, some rest)
          | .open breakage => halt breakage
      | '[' :: rest =>
          match skipSpace rest with
          | [] => (.array [] (some (.plain .truncated)), none)
          | ']' :: rest => (.array [] none, some rest)
          | other =>
              let (items, ending, rest) := readItems fuel other
              (.array items ending, rest)
      | '\x7b' :: rest =>
          match skipSpace rest with
          | '\x7d' :: rest => (.object [] none, some rest)
          | '"' :: rest =>
              let (members, ending, rest) := readMembers fuel rest
              (.object members ending, rest)
          | other => (.object [] (some (unexpected other)), none)
      | '-' :: rest => readMagnitude true rest
      | character :: rest =>
          if (digit? character).isSome then readMagnitude false (character :: rest)
          else halt (.plain .malformed)
      | [] => halt (.plain .truncated)

/-- Read items up to the closing bracket, one of them first. -/
def readItems : Nat → List Char →
    List Draft × Option Breakage × Option (List Char)
  | 0, _ => ([], some (.plain .truncated), none)
  | fuel + 1, characters =>
      match readValue fuel characters with
      | (item, none) => ([item], none, none)
      | (item, some rest) =>
          match skipSpace rest with
          | ']' :: rest => ([item], none, some rest)
          | ',' :: rest =>
              match skipSpace rest with
              | ']' :: _ => ([item, .broken (.plain .malformed)], none, none)
              | other =>
                  let (items, ending, rest) := readItems fuel other
                  (item :: items, ending, rest)
          | other => ([item], some (unexpected other), none)

/-- Read members up to the closing brace, from behind the quote of a name on. -/
def readMembers : Nat → List Char →
    List (Option String × Draft) × Option Breakage × Option (List Char)
  | 0, _ => ([], some (.plain .truncated), none)
  | fuel + 1, characters =>
      match readString characters with
      | .open breakage => ([], some breakage, none)
      | .closed name rest =>
          match skipSpace rest with
          | ':' :: rest =>
              match readValue fuel rest with
              | (value, none) => ([(name, value)], none, none)
              | (value, some rest) =>
                  match skipSpace rest with
                  | '\x7d' :: rest => ([(name, value)], none, some rest)
                  | ',' :: rest =>
                      match skipSpace rest with
                      | '"' :: rest =>
                          let (members, ending, rest) := readMembers fuel rest
                          ((name, value) :: members, ending, rest)
                      | other => ([(name, value)], some (unexpected other), none)
                  | other => ([(name, value)], some (unexpected other), none)
          | other => ([(name, .broken (unexpected other))], none, none)

end

/-- The draft of a whole document, and whether something follows it. -/
def ofText (document : String) : Draft × Bool :=
  let characters := document.toList
  match readValue (2 * characters.length + 2) characters with
  | (draft, none) => (draft, false)
  | (draft, some rest) => (draft, !(skipSpace rest).isEmpty)

end Draft

/-- The value that a text stands for, when it is JSON throughout. -/
def Value.ofText? (document : String) : Option Value :=
  match Draft.ofText document with
  | (draft, false) => draft.value?
  | (_, true) => none

end PortTunnel.Json
