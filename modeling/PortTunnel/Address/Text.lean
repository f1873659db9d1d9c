import PortTunnel.Address.Basic

/-!
# Addresses as text

Version four is written as four decimal octets.  Version six is written as
hexadecimal groups, the longest run of at least two zero groups (the first of
equals) abbreviated to `::`; an address of version four that is embedded behind
`::ffff` keeps its dotted form.

Reading accepts more than writing produces: any abbreviation, upper case,
leading zeros in groups (not in octets), and dotted octets in place of the last
two groups.
-/

namespace PortTunnel

namespace Octets

/-- An address of version four in dotted decimal form. -/
def text (octets : Octets) : String :=
  octets.first.toNat.repr ++ "." ++ octets.second.toNat.repr ++ "." ++
    octets.third.toNat.repr ++ "." ++ octets.fourth.toNat.repr

end Octets

namespace Address

/-- The value of a digit in bases up to sixteen. -/
def digitValue? (base : Nat) (character : Char) : Option Nat :=
  let code := character.toNat
  let value :=
    if 48 ≤ code && code ≤ 57 then code - 48
    else if 97 ≤ code && code ≤ 102 then code - 87
    else if 65 ≤ code && code ≤ 70 then code - 55
    else base
  if value < base then some value else none

/-- Read digits for as long as there are any: their value, their number and the rest. -/
def readDigits (base : Nat) : Nat → Nat → List Char → Nat × Nat × List Char
  | value, count, [] => (value, count, [])
  | value, count, character :: rest =>
      match digitValue? base character with
      | some digit => readDigits base (value * base + digit) (count + 1) rest
      | none => (value, count, character :: rest)

/-- Read a decimal octet: at most three digits, below 256, no leading zero. -/
def readOctet? (characters : List Char) : Option (UInt8 × List Char) :=
  let (value, count, rest) := readDigits 10 0 0 characters
  if count == 0 || 3 < count || 255 < value then none
  else if 1 < count && characters.head? == some '0' then none
  else some (UInt8.ofNat value, rest)

/-- Read one given character. -/
def readMark? (mark : Char) : List Char → Option (List Char)
  | character :: rest => if character == mark then some rest else none
  | [] => none

/-- Read four octets with points between them. -/
def readOctets? (characters : List Char) : Option (Octets × List Char) := do
  let (first, rest) ← readOctet? characters
  let rest ← readMark? '.' rest
  let (second, rest) ← readOctet? rest
  let rest ← readMark? '.' rest
  let (third, rest) ← readOctet? rest
  let rest ← readMark? '.' rest
  let (fourth, rest) ← readOctet? rest
  return (⟨first, second, third, fourth⟩, rest)

/-- Read a group of one to four hexadecimal digits. -/
def readGroup? (characters : List Char) : Option (UInt16 × List Char) :=
  let (value, count, rest) := readDigits 16 0 0 characters
  if count == 0 || 4 < count then none else some (UInt16.ofNat value, rest)

/-- The colon before every group but the first. -/
def readColon? (isFirst : Bool) (characters : List Char) : Option (List Char) :=
  if isFirst then some characters else readMark? ':' characters

/-- The two groups that four octets take the place of. -/
def groupsOfOctets (octets : Octets) : List UInt16 :=
  [octets.first.toUInt16 * 256 + octets.second.toUInt16,
    octets.third.toUInt16 * 256 + octets.fourth.toUInt16]

/-- Read up to `room` groups with colons between them.  Dotted octets may stand
for two groups, and then they end the run; the flag tells whether they did. -/
def readGroups (isFirst : Bool) : Nat → List Char → List UInt16 × Bool × List Char
  | 0, characters => ([], false, characters)
  | room + 1, characters =>
      let dotted := if room == 0 then none else (readColon? isFirst characters).bind readOctets?
      match dotted with
      | some (octets, rest) => (groupsOfOctets octets, true, rest)
      | none =>
          match (readColon? isFirst characters).bind readGroup? with
          | some (group, rest) =>
              let (groups, endsDotted, rest) := readGroups false room rest
              (group :: groups, endsDotted, rest)
          | none => ([], false, characters)

/-- Read an address of version six that takes up the whole text. -/
def ofGroupText? (characters : List Char) : Option Groups :=
  let (head, endsDotted, rest) := readGroups true 8 characters
  if head.length == 8 then
    if rest.isEmpty then some (Groups.ofList head) else none
  else if endsDotted then none
  else
    match rest with
    | ':' :: ':' :: rest =>
        let (tail, _, rest) := readGroups true (7 - head.length) rest
        if rest.isEmpty then
          some (Groups.ofList
            (head ++ List.replicate (8 - head.length - tail.length) 0 ++ tail))
        else none
    | _ => none

/-- Read an address of version four that takes up the whole text. -/
def ofOctetText? (characters : List Char) : Option Octets :=
  match readOctets? characters with
  | some (octets, []) => some octets
  | _ => none

/-- Read an address of either version. -/
def ofText? (text : String) : Option Address :=
  match ofOctetText? text.toList with
  | some octets => some (.v4 octets)
  | none => (ofGroupText? text.toList).map .v6

end Address

namespace Groups

/-- One group in lower-case hexadecimal digits. -/
def groupText (group : UInt16) : String :=
  String.ofList (Nat.toDigits 16 group.toNat)

/-- Groups with colons between them. -/
def groupsText (groups : List UInt16) : String :=
  String.intercalate ":" (groups.map groupText)

/-- The number of zero groups at the front. -/
def leadingZeros (groups : List UInt16) : Nat :=
  (groups.takeWhile (· == 0)).length

/-- Start and length of the longest run of zero groups, the first of equals. -/
def longestZeros (start : Nat) : List UInt16 → Nat × Nat
  | [] => (start, 0)
  | group :: rest =>
      let here := leadingZeros (group :: rest)
      let later := longestZeros (start + 1) rest
      if later.2 ≤ here then (start, here) else later

/-- The octets behind `::ffff`, if the address embeds one of version four. -/
def embedded? (groups : Groups) : Option Octets :=
  match groups.toList with
  | [0, 0, 0, 0, 0, 0xffff, high, low] =>
      some ⟨(high / 256).toUInt8, high.toUInt8, (low / 256).toUInt8, low.toUInt8⟩
  | _ => none

/-- An address of version six in its shortest customary form. -/
def text (groups : Groups) : String :=
  match groups.embedded? with
  | some octets => "::ffff:" ++ octets.text
  | none =>
      let (start, length) := longestZeros 0 groups.toList
      if 1 < length then
        groupsText (groups.toList.take start) ++ "::" ++
          groupsText (groups.toList.drop (start + length))
      else groupsText groups.toList

end Groups

namespace Address

/-- An address of either version as text. -/
def text : Address → String
  | .v4 octets => octets.text
  | .v6 groups => groups.text

end Address

namespace Endpoint

/-- An address with its port; version six stands in brackets. -/
def text (endpoint : Endpoint) : String :=
  match endpoint.address with
  | .v4 octets => octets.text ++ ":" ++ endpoint.port.toNat.repr
  | .v6 groups => "[" ++ groups.text ++ "]:" ++ endpoint.port.toNat.repr

end Endpoint

end PortTunnel
