import PortTunnel.Yaml.Token.Basic

/-!
# Directives, anchors and tags
-/

namespace PortTunnel.Yaml.Token

/-! ## Anchors -/

/-- Whether a character may follow the name of an anchor. -/
def endsName (character : Char) : Bool :=
  isBlankOrEnd character || ['?', ':', ',', ']', '}', '%', '@', '`'].contains character

/-- Scan the name of an anchor or an alias, from its mark on. -/
def scanName (cursor : Cursor) : Except Fault (String × Cursor) :=
  let (name, behind) := (cursor.skip 1).takeWhile isName
  if name.isEmpty || !endsName behind.next then .error .property
  else .ok (String.ofList name, behind)

/-! ## Tags -/

/-- The characters that may stand in a tag; some only between `<` and `>`. -/
def isTagCharacter (verbatim : Bool) (character : Char) : Bool :=
  isName character ||
    [';', '/', '?', ':', '@', '&', '=', '+', '$', '.', '%', '!', '~', '*', '\'', '(', ')'].contains
      character ||
    (verbatim && [',', '[', ']'].contains character)

/-- The number of bytes that a character takes up, by its first byte. -/
def sequenceLength (byte : Nat) : Nat :=
  if byte < 0x80 then 1
  else if 0xc0 ≤ byte && byte < 0xe0 then 2
  else if 0xe0 ≤ byte && byte < 0xf0 then 3
  else if 0xf0 ≤ byte && byte < 0xf8 then 4
  else 0

/-- Read one byte written as `%` and two digits. -/
def escapedByte? : List Char → Option (Nat × List Char)
  | '%' :: high :: low :: rest => do
      return ((← hexDigit? high) * 16 + (← hexDigit? low), rest)
  | _ => none

/-- Read the bytes of a character behind its first one. -/
def continuationBytes? : Nat → List Char → Option (List Nat × List Char)
  | 0, rest => some ([], rest)
  | count + 1, characters => do
      let (byte, rest) ← escapedByte? characters
      if byte / 64 == 2 then
        let (bytes, rest) ← continuationBytes? count rest
        return (byte :: bytes, rest)
      else none

/-- Scan the characters of a tag.  Escaped bytes stand for themselves. -/
def scanTagText (verbatim : Bool) : Nat → Cursor → Except Fault (List Char × Cursor)
  | 0, cursor => .ok ([], cursor)
  | fuel + 1, cursor =>
      if cursor.next == '%' then
        match escapedByte? cursor.rest with
        | none => .error .property
        | some (byte, rest) =>
            let length := sequenceLength byte
            if length == 0 then .error .property
            else
              match continuationBytes? (length - 1) rest with
              | none => .error .property
              | some (bytes, _) => do
                  let (text, behind) ← scanTagText verbatim fuel (cursor.skip (3 * length))
                  return ((byte :: bytes).map Char.ofNat ++ text, behind)
      else if isTagCharacter verbatim cursor.next then do
        let (text, behind) ← scanTagText verbatim fuel (cursor.skip 1)
        return (cursor.next :: text, behind)
      else .ok ([], cursor)

/-- Scan the characters of a tag behind what was scanned of it already. -/
def scanTagRest (verbatim : Bool) (head : List Char) (cursor : Cursor) :
    Except Fault (List Char × Cursor) := do
  let (text, behind) ← scanTagText verbatim (cursor.rest.length + 1) cursor
  if head.isEmpty && text.isEmpty then .error .property
  else return (head.drop 1 ++ text, behind)

/-- Scan a handle such as `!`, `!!` or `!name!`, or what looks like the start of one. -/
def scanHandle (directive : Bool) (cursor : Cursor) : Except Fault (List Char × Cursor) :=
  if cursor.next != '!' then .error .property
  else
    let (name, behind) := (cursor.skip 1).takeWhile isName
    if behind.next == '!' then .ok ('!' :: name ++ ['!'], behind.skip 1)
    else if directive && !name.isEmpty then .error .property
    else .ok ('!' :: name, behind)

/-- Whether a scanned handle is closed by a second mark. -/
def isClosedHandle (handle : List Char) : Bool :=
  1 < handle.length && handle.getLast? == some '!'

/-- Scan the handle and the suffix of a tag. -/
def scanTagParts (cursor : Cursor) : Except Fault ((String × String) × Cursor) :=
  if cursor.peek 1 == '<' then do
    let (suffix, behind) ← scanTagRest true [] (cursor.skip 2)
    if behind.next == '>' then return (("", String.ofList suffix), behind.skip 1)
    else .error .property
  else do
    let (handle, behind) ← scanHandle false cursor
    if isClosedHandle handle then
      let (suffix, behind) ← scanTagRest false [] behind
      return ((String.ofList handle, String.ofList suffix), behind)
    else
      let (suffix, behind) ← scanTagRest false handle behind
      if suffix.isEmpty then return (("", "!"), behind)
      else return (("!", String.ofList suffix), behind)

/-- Scan a tag; `inFlow` tells whether it stands between brackets. -/
def scanTag (inFlow : Bool) (cursor : Cursor) : Except Fault (Token × Cursor) := do
  let ((handle, suffix), behind) ← scanTagParts cursor
  if isBlankOrEnd behind.next || (inFlow && behind.next == ',') then
    return (.tag handle suffix, behind)
  else .error .property

/-! ## Directives -/

/-- Scan a number of at most nine digits. -/
def scanNumber (cursor : Cursor) : Except Fault (Nat × Cursor) :=
  let (digits, behind) := cursor.takeWhile Char.isDigit
  if digits.isEmpty || 9 < digits.length then .error .property
  else .ok (digits.foldl (fun number digit => number * 10 + (digit.toNat - 48)) 0, behind)

/-- Scan the two numbers of a version. -/
def scanVersion (cursor : Cursor) : Except Fault (Token × Cursor) := do
  let (major, behind) ← scanNumber (cursor.skipWhile isBlank)
  if behind.next != '.' then .error .property
  else
    let (minor, behind) ← scanNumber (behind.skip 1)
    return (.version major minor, behind)

/-- Scan the handle that a directive sets and the stem it stands for. -/
def scanTagDirective (cursor : Cursor) : Except Fault (Token × Cursor) := do
  let (handle, behind) ← scanHandle true (cursor.skipWhile isBlank)
  if !isBlank behind.next then .error .property
  else
    let (stem, behind) ← scanTagRest true [] (behind.skipWhile isBlank)
    if isBlankOrEnd behind.next then
      return (.tagDirective (String.ofList handle) (String.ofList stem), behind)
    else .error .property

/-- Pass over blanks and a comment to the end of the line. -/
def finishLine (cursor : Cursor) : Except Fault Cursor :=
  let cursor := cursor.skipWhile isBlank
  let cursor := if cursor.next == '#' then cursor.skipWhile (!isBreakOrEnd ·) else cursor
  if isBreakOrEnd cursor.next then .ok cursor.skipBreak else .error .property

/-- Scan a directive with its line. -/
def scanDirective (cursor : Cursor) : Except Fault (Token × Cursor) := do
  let (name, behind) := (cursor.skip 1).takeWhile isName
  if name.isEmpty || !isBlankOrEnd behind.next then .error .property
  else
    let (token, behind) ←
      if name == ['Y', 'A', 'M', 'L'] then scanVersion behind
      else if name == ['T', 'A', 'G'] then scanTagDirective behind
      else .error .property
    return (token, ← finishLine behind)

end PortTunnel.Yaml.Token
