/-!
# A place in a YAML text

A cursor is what is left of a text, with the line and the column it starts at.
Indentation is counted in columns, and a key on one line may not be longer than
a given number of characters, so both are kept.  Past the end of a text a cursor
reads the null character, which no text may hold.
-/

namespace PortTunnel.Yaml

/-- Why a text is not YAML. -/
inductive Fault where
  /-- A control character, which no text may hold. -/
  | control
  /-- A tab where only blanks may indent. -/
  | tab
  /-- A quoted text without its closing quote. -/
  | unclosed
  /-- An escape that means nothing. -/
  | escape
  /-- A character that starts no token, or a token where it cannot stand. -/
  | misplaced
  /-- A directive, an anchor or a tag that is not well formed. -/
  | property
  /-- A key that was not followed by its colon. -/
  | keyWithoutValue
  /-- Tokens that form no node. -/
  | arrangement
  /-- An alias of an anchor that was not set. -/
  | unknownAnchor
  /-- A document that ends where a value should stand. -/
  | ended
  /-- More than one document. -/
  | severalDocuments
  /-- Aliases that repeat too much. -/
  | repetition
  deriving DecidableEq, Repr, Inhabited

/-- The end of a text, as a character. -/
def endMark : Char := Char.ofNat 0

/-- A line break. -/
def isBreak (character : Char) : Bool :=
  character == '\n' || character == '\r' || character.toNat == 0x85 ||
    character.toNat == 0x2028 || character.toNat == 0x2029

/-- A blank or a tab. -/
def isBlank (character : Char) : Bool :=
  character == ' ' || character == '\t'

/-- A line break or the end. -/
def isBreakOrEnd (character : Char) : Bool :=
  isBreak character || character == endMark

/-- A blank, a line break or the end. -/
def isBlankOrEnd (character : Char) : Bool :=
  isBlank character || isBreakOrEnd character

/-- The characters of names: ASCII letters and digits, `_` and `-`. -/
def isName (character : Char) : Bool :=
  character.isAlphanum || character == '_' || character == '-'

/-- The characters that a text may hold. -/
def isAllowed (character : Char) : Bool :=
  let code := character.toNat
  code == 0x09 || code == 0x0a || code == 0x0d || (0x20 ≤ code && code ≤ 0x7e) ||
    code == 0x85 || (0xa0 ≤ code && code ≤ 0xfffd) || 0x10000 ≤ code

/-- The value of a hexadecimal digit. -/
def hexDigit? (character : Char) : Option Nat :=
  let code := character.toNat
  if 48 ≤ code && code ≤ 57 then some (code - 48)
  else if 97 ≤ code && code ≤ 102 then some (code - 87)
  else if 65 ≤ code && code ≤ 70 then some (code - 55)
  else none

/-- A place in a text. -/
structure Cursor where
  rest : List Char
  index : Nat
  line : Nat
  column : Nat
  deriving Inhabited

namespace Cursor

/-- The character `ahead` characters further on. -/
def peek (cursor : Cursor) (ahead : Nat) : Char :=
  (cursor.rest.drop ahead).headD endMark

/-- The next character. -/
def next (cursor : Cursor) : Char :=
  cursor.rest.headD endMark

/-- Whether the text has ended. -/
def atEnd (cursor : Cursor) : Bool :=
  cursor.next == endMark

/-- Pass over characters of one line. -/
def skip (cursor : Cursor) (count : Nat) : Cursor :=
  { rest := cursor.rest.drop count
    index := cursor.index + count
    line := cursor.line
    column := cursor.column + count }

/-- Take characters of one line as long as they satisfy a test. -/
def takeWhile (cursor : Cursor) (test : Char → Bool) : List Char × Cursor :=
  let taken := cursor.rest.takeWhile test
  (taken, cursor.skip taken.length)

/-- Pass over characters of one line as long as they satisfy a test. -/
def skipWhile (cursor : Cursor) (test : Char → Bool) : Cursor :=
  (cursor.takeWhile test).2

/-- The start of the next line. -/
def newLine (cursor : Cursor) (rest : List Char) (length : Nat) : Cursor :=
  { rest := rest, index := cursor.index + length, line := cursor.line + 1, column := 0 }

/-- Take a line break: a carriage return and a line feed count as one, and all
but the two Unicode separators become a line feed. -/
def takeBreak (cursor : Cursor) : List Char × Cursor :=
  match cursor.rest with
  | '\r' :: '\n' :: rest => (['\n'], cursor.newLine rest 2)
  | character :: rest =>
      if character.toNat == 0x2028 || character.toNat == 0x2029 then
        ([character], cursor.newLine rest 1)
      else if isBreak character then (['\n'], cursor.newLine rest 1)
      else ([], cursor)
  | [] => ([], cursor)

/-- Pass over a line break. -/
def skipBreak (cursor : Cursor) : Cursor :=
  cursor.takeBreak.2

/-- Whether a line starts with one of the marks `---` and `...`. -/
def atDocumentMark (cursor : Cursor) : Bool :=
  cursor.column == 0 && isBlankOrEnd (cursor.peek 3) &&
    (cursor.rest.take 3 == ['-', '-', '-'] || cursor.rest.take 3 == ['.', '.', '.'])

end Cursor

end PortTunnel.Yaml
