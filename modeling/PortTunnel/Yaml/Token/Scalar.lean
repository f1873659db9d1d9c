import PortTunnel.Yaml.Token.Basic

/-!
# Scalars

A scalar is plain, quoted or a block.  In the first two kinds a line break
within the scalar folds to a blank, and further breaks are kept; in a block the
indicator in its first line decides.

The bound on the steps of each function is the length of the text.
-/

namespace PortTunnel.Yaml.Token

/-! ## Gaps between the words of a scalar -/

/-- White space within a scalar: blanks within a line, or the first line break
and those after it. -/
structure Gap where
  blanks : List Char
  broken : Bool
  firstBreak : List Char
  moreBreaks : List Char
  deriving Inhabited

namespace Gap

/-- No white space yet; `broken` when a line break was escaped. -/
def start (broken : Bool) : Gap := ⟨[], broken, [], []⟩

/-- What a gap contributes to the scalar. -/
def folded (gap : Gap) : List Char :=
  if gap.broken then
    if gap.firstBreak.head? == some '\n' then
      if gap.moreBreaks.isEmpty then [' '] else gap.moreBreaks
    else gap.firstBreak ++ gap.moreBreaks
  else gap.blanks

/-- Pass over white space.  Behind a line break no tab may stand to the left of
column `least`. -/
def scan (least : Nat) : Nat → Gap → Cursor → Except Fault (Gap × Cursor)
  | 0, gap, cursor => .ok (gap, cursor)
  | fuel + 1, gap, cursor =>
      if isBlank cursor.next then
        if gap.broken && cursor.column < least && cursor.next == '\t' then .error .tab
        else if gap.broken then scan least fuel gap (cursor.skip 1)
        else scan least fuel { gap with blanks := gap.blanks ++ [cursor.next] } (cursor.skip 1)
      else if isBreak cursor.next then
        let (taken, behind) := cursor.takeBreak
        if gap.broken then
          scan least fuel { gap with moreBreaks := gap.moreBreaks ++ taken } behind
        else
          scan least fuel { gap with blanks := [], broken := true, firstBreak := taken } behind
      else .ok (gap, cursor)

end Gap

/-! ## Plain scalars -/

/-- The marks that delimit collections between brackets. -/
def isFlowMark (character : Char) : Bool :=
  [',', '[', ']', '{', '}'].contains character

/-- Scan the characters of a plain scalar up to white space or its end. -/
def plainRun (inFlow : Bool) : Nat → Cursor → Except Fault (List Char × Cursor)
  | 0, cursor => .ok ([], cursor)
  | fuel + 1, cursor =>
      let character := cursor.next
      if isBlankOrEnd character then .ok ([], cursor)
      else if inFlow && character == ':' &&
          (isFlowMark (cursor.peek 1) || cursor.peek 1 == '?') then .error .misplaced
      else if (character == ':' && isBlankOrEnd (cursor.peek 1)) ||
          (inFlow && isFlowMark character) then .ok ([], cursor)
      else do
        let (run, behind) ← plainRun inFlow fuel (cursor.skip 1)
        return (character :: run, behind)

/-- Scan a plain scalar from word to word.  The flag of the answer tells whether
a line break was passed at its end. -/
def plainWords (inFlow : Bool) (indent : Nat) :
    Nat → Gap → List Char → Cursor → Except Fault (List Char × Bool × Cursor)
  | 0, gap, content, cursor => .ok (content, gap.broken, cursor)
  | fuel + 1, gap, content, cursor =>
      if cursor.atDocumentMark || cursor.next == '#' then .ok (content, gap.broken, cursor)
      else do
        let (run, cursor) ← plainRun inFlow (cursor.rest.length + 1) cursor
        let (content, gap) :=
          if run.isEmpty then (content, gap) else (content ++ gap.folded ++ run, Gap.start false)
        if !(isBlank cursor.next || isBreak cursor.next) then
          return (content, gap.broken, cursor)
        else
          let (gap, cursor) ← gap.scan indent (cursor.rest.length + 1) cursor
          if !inFlow && cursor.column < indent then return (content, gap.broken, cursor)
          else plainWords inFlow indent fuel gap content cursor

/-- Scan a plain scalar that may continue on lines indented by `indent`. -/
def scanPlain (inFlow : Bool) (indent : Nat) (cursor : Cursor) :
    Except Fault (Token × Bool × Cursor) := do
  let (content, broken, behind) ←
    plainWords inFlow indent (cursor.rest.length + 1) (Gap.start false) [] cursor
  return (.scalar (String.ofList content) .plain, broken, behind)

/-! ## Quoted scalars -/

/-- The character of an escape of one letter. -/
def escape? (letter : Char) : Option Char :=
  match letter with
  | '0' => some (Char.ofNat 0)
  | 'a' => some (Char.ofNat 7)
  | 'b' => some (Char.ofNat 8)
  | 't' | '\t' => some '\t'
  | 'n' => some '\n'
  | 'v' => some (Char.ofNat 11)
  | 'f' => some (Char.ofNat 12)
  | 'r' => some '\r'
  | 'e' => some (Char.ofNat 27)
  | ' ' => some ' '
  | '"' => some '"'
  | '/' => some '/'
  | '\\' => some '\\'
  | 'N' => some (Char.ofNat 0x85)
  | '_' => some (Char.ofNat 0xa0)
  | 'L' => some (Char.ofNat 0x2028)
  | 'P' => some (Char.ofNat 0x2029)
  | _ => none

/-- The number of digits of an escape by number. -/
def escapeDigits? (letter : Char) : Option Nat :=
  match letter with
  | 'x' => some 2
  | 'u' => some 4
  | 'U' => some 8
  | _ => none

/-- The number that hexadecimal digits stand for, if all are such digits. -/
def hexNumber? : Nat → Nat → List Char → Option Nat
  | 0, number, _ => some number
  | count + 1, number, character :: rest => do
      hexNumber? count (number * 16 + (← hexDigit? character)) rest
  | _ + 1, _, [] => none

/-- Scan an escape: its character and the number of characters it takes up. -/
def scanEscape (cursor : Cursor) : Except Fault (Char × Nat) :=
  let letter := cursor.peek 1
  match escape? letter with
  | some character => .ok (character, 2)
  | none =>
      match escapeDigits? letter with
      | none => .error .escape
      | some digits =>
          match hexNumber? digits 0 (cursor.rest.drop 2) with
          | none => .error .escape
          | some number =>
              if (0xd800 ≤ number && number ≤ 0xdfff) || 0x10ffff < number then .error .escape
              else .ok (Char.ofNat number, 2 + digits)

/-- Scan the characters of a quoted scalar up to white space or a quote.  The
flag tells whether an escaped line break ended the run. -/
def quotedRun (single : Bool) : Nat → Cursor → Except Fault (List Char × Bool × Cursor)
  | 0, cursor => .ok ([], false, cursor)
  | fuel + 1, cursor =>
      let character := cursor.next
      if isBlankOrEnd character then .ok ([], false, cursor)
      else if single && character == '\'' && cursor.peek 1 == '\'' then do
        let (run, broken, behind) ← quotedRun single fuel (cursor.skip 2)
        return ('\'' :: run, broken, behind)
      else if character == (if single then '\'' else '"') then .ok ([], false, cursor)
      else if !single && character == '\\' then
        if isBreak (cursor.peek 1) then .ok ([], true, (cursor.skip 1).skipBreak)
        else do
          let (escaped, length) ← scanEscape cursor
          let (run, broken, behind) ← quotedRun single fuel (cursor.skip length)
          return (escaped :: run, broken, behind)
      else do
        let (run, broken, behind) ← quotedRun single fuel (cursor.skip 1)
        return (character :: run, broken, behind)

/-- Scan a quoted scalar from word to word, up to its closing quote. -/
def quotedWords (single : Bool) :
    Nat → List Char → Cursor → Except Fault (List Char × Cursor)
  | 0, _, _ => .error .unclosed
  | fuel + 1, content, cursor =>
      if cursor.atDocumentMark then .error .misplaced
      else if cursor.atEnd then .error .unclosed
      else do
        let (run, broken, cursor) ← quotedRun single (cursor.rest.length + 1) cursor
        let content := content ++ run
        if cursor.next == (if single then '\'' else '"') then return (content, cursor.skip 1)
        else
          let (gap, cursor) ← (Gap.start broken).scan 0 (cursor.rest.length + 1) cursor
          quotedWords single fuel (content ++ gap.folded) cursor

/-- Scan a quoted scalar, from its opening quote on. -/
def scanQuoted (single : Bool) (cursor : Cursor) : Except Fault (Token × Cursor) := do
  let (content, behind) ← quotedWords single (cursor.rest.length + 2) [] (cursor.skip 1)
  return (.scalar (String.ofList content) (if single then .singleQuoted else .doubleQuoted), behind)

/-! ## Block scalars -/

/-- What becomes of the line breaks at the end of a block. -/
inductive Chomping where
  | strip
  | clip
  | keep
  deriving DecidableEq, Inhabited

/-- The chomping that a mark asks for. -/
def chomping? (character : Char) : Option Chomping :=
  if character == '+' then some .keep
  else if character == '-' then some .strip
  else none

/-- The indentation that a digit asks for; zero is refused. -/
def increment? (character : Char) : Except Fault (Option Nat) :=
  if character.isDigit then
    if character == '0' then .error .misplaced else .ok (some (character.toNat - 48))
  else .ok none

/-- Scan the marks behind the indicator of a block, in either order. -/
def scanHeader (cursor : Cursor) : Except Fault (Chomping × Option Nat × Cursor) := do
  match chomping? cursor.next with
  | some chomping =>
      let cursor := cursor.skip 1
      match ← increment? cursor.next with
      | some increment => return (chomping, some increment, cursor.skip 1)
      | none => return (chomping, none, cursor)
  | none =>
      match ← increment? cursor.next with
      | some increment =>
          let cursor := cursor.skip 1
          match chomping? cursor.next with
          | some chomping => return (chomping, some increment, cursor.skip 1)
          | none => return (.clip, some increment, cursor)
      | none => return (.clip, none, cursor)

/-- Pass over indentation and empty lines: the breaks, the greatest column that
was met, and the place behind.  While the indentation is unknown every blank
counts as indentation. -/
def blockBreaks (indent : Option Nat) :
    Nat → Nat → List Char → Cursor → Except Fault (List Char × Nat × Cursor)
  | 0, greatest, breaks, cursor => .ok (breaks, greatest, cursor)
  | fuel + 1, greatest, breaks, cursor =>
      let blanks := cursor.rest.takeWhile (· == ' ')
      let count := match indent with
        | none => blanks.length
        | some least => min blanks.length (least - cursor.column)
      let cursor := cursor.skip count
      let greatest := max greatest cursor.column
      let short := match indent with
        | none => true
        | some least => decide (cursor.column < least)
      if short && cursor.next == '\t' then .error .tab
      else if isBreak cursor.next then
        let (taken, behind) := cursor.takeBreak
        blockBreaks indent fuel greatest (breaks ++ taken) behind
      else .ok (breaks, greatest, cursor)

/-- The lines of a block so far. -/
structure BlockText where
  content : List Char
  leadingBreak : List Char
  trailingBreaks : List Char
  leadingBlank : Bool

/-- Scan the lines of a block that are indented to `indent`. -/
def blockLines (literal : Bool) (indent : Nat) :
    Nat → BlockText → Cursor → Except Fault (BlockText × Cursor)
  | 0, block, cursor => .ok (block, cursor)
  | fuel + 1, block, cursor =>
      if cursor.column != indent || cursor.atEnd then .ok (block, cursor)
      else do
        let startsBlank := isBlank cursor.next
        let joint :=
          if !literal && block.leadingBreak.head? == some '\n' && !block.leadingBlank &&
              !startsBlank then
            if block.trailingBreaks.isEmpty then [' '] else []
          else block.leadingBreak
        let (line, behind) := cursor.takeWhile (!isBreakOrEnd ·)
        let (lineBreak, behind) := behind.takeBreak
        let (breaks, _, behind) ← blockBreaks (some indent) (behind.rest.length + 1) 0 [] behind
        blockLines literal indent fuel
          { content := block.content ++ joint ++ block.trailingBreaks ++ line
            leadingBreak := lineBreak
            trailingBreaks := breaks
            leadingBlank := startsBlank } behind

/-- Scan a block, from its indicator on.  `parent` is the indentation around it,
or nothing at the outermost level. -/
def scanBlock (literal : Bool) (parent : Option Nat) (cursor : Cursor) :
    Except Fault (Token × Cursor) := do
  let (chomping, increment, cursor) ← scanHeader (cursor.skip 1)
  let cursor := cursor.skipWhile isBlank
  let cursor := if cursor.next == '#' then cursor.skipWhile (!isBreakOrEnd ·) else cursor
  if !isBreakOrEnd cursor.next then .error .misplaced
  else
    let cursor := cursor.skipBreak
    let declared := increment.map (parent.getD 0 + ·)
    let (breaks, greatest, cursor) ←
      blockBreaks declared (cursor.rest.length + 1) 0 [] cursor
    let indent := declared.getD (max (max greatest ((parent.map (· + 1)).getD 0)) 1)
    let (block, cursor) ←
      blockLines literal indent (cursor.rest.length + 1) ⟨[], [], breaks, false⟩ cursor
    let content :=
      match chomping with
      | .strip => block.content
      | .clip => block.content ++ block.leadingBreak
      | .keep => block.content ++ block.leadingBreak ++ block.trailingBreaks
    return (.scalar (String.ofList content) (if literal then .literal else .folded), cursor)

end PortTunnel.Yaml.Token
