import PortTunnel.Yaml.Token.Property
import PortTunnel.Yaml.Token.Scalar

/-!
# The queue of tokens

A key is only known to be one when its colon follows, and then a token has to be
put in front of it, possibly together with the start of a block.  Tokens are
therefore queued: they are handed out once no pending key can still claim their
place.  A pending key must stay on one line and within 1024 characters.

The text is scanned only as far as the next token demands.  A break in it is
thus met after the tokens before it have been handed out.
-/

namespace PortTunnel.Yaml

/-- A place where a key may have started. -/
structure PendingKey where
  /-- The number of the token that the key would start with. -/
  token : Nat
  index : Nat
  line : Nat
  column : Nat
  /-- Nothing but a key may start here. -/
  required : Bool
  deriving Repr, Inhabited

/-- The state of scanning: the place in the text, the indentation of the blocks
around it (none at the outermost level), the pending key of each level of
brackets, innermost first, and the tokens not yet handed out. -/
structure Queue where
  cursor : Cursor
  started : Bool
  finished : Bool
  indent : Option Nat
  outerIndents : List (Option Nat)
  keyAllowed : Bool
  keys : List (Option PendingKey)
  tokens : List Token
  handedOut : Nat
  deriving Inhabited

namespace Queue

/-- The queue at the start of a text. -/
def ofText (characters : List Char) : Queue :=
  { cursor := ⟨characters, 0, 0, 0⟩
    started := false
    finished := false
    indent := none
    outerIndents := []
    keyAllowed := false
    keys := []
    tokens := []
    handedOut := 0 }

/-- Whether the place stands between brackets. -/
def inFlow (queue : Queue) : Bool :=
  1 < queue.keys.length

/-- Add a token at the end. -/
def push (queue : Queue) (token : Token) : Queue :=
  { queue with tokens := queue.tokens ++ [token] }

/-- Add a token in front of the one with the given number. -/
def insertAt (queue : Queue) (number : Nat) (token : Token) : Queue :=
  let position := number - queue.handedOut
  { queue with tokens := queue.tokens.take position ++ token :: queue.tokens.drop position }

/-- Add a token that ends before the given place. -/
def pushAt (queue : Queue) (token : Token) (behind : Cursor) : Queue :=
  { queue with tokens := queue.tokens ++ [token], cursor := behind }

/-- Whether a column lies to the right of the current indentation. -/
def isDeeper (column : Nat) : Option Nat → Bool
  | none => true
  | some indent => indent < column

/-! ## Pending keys -/

/-- Whether a pending key can no longer become one at the given place. -/
def PendingKey.isStale (key : PendingKey) (cursor : Cursor) : Bool :=
  key.line < cursor.line || key.index + 1024 < cursor.index

/-- Drop the keys of a list that are stale; a required one must not be. -/
def dropStale (cursor : Cursor) : List (Option PendingKey) →
    Except Fault (List (Option PendingKey))
  | [] => .ok []
  | none :: rest => do return none :: (← dropStale cursor rest)
  | some key :: rest =>
      if PendingKey.isStale key cursor then
        if key.required then .error .keyWithoutValue
        else do return none :: (← dropStale cursor rest)
      else do return some key :: (← dropStale cursor rest)

/-- Drop the pending keys that are stale.  The outermost level is looked at first. -/
def expireKeys (queue : Queue) : Except Fault Queue := do
  let keys ← dropStale queue.cursor queue.keys.reverse
  return { queue with keys := keys.reverse }

/-- Give up the pending key of the innermost level. -/
def removeKey (queue : Queue) : Except Fault Queue :=
  match queue.keys with
  | some key :: rest =>
      if key.required then .error .keyWithoutValue
      else .ok { queue with keys := none :: rest }
  | _ => .ok queue

/-- Note that a key may start here. -/
def saveKey (queue : Queue) : Except Fault Queue :=
  if queue.keyAllowed then do
    let required := !queue.inFlow && queue.indent == some queue.cursor.column
    let key : PendingKey :=
      { token := queue.handedOut + queue.tokens.length
        index := queue.cursor.index
        line := queue.cursor.line
        column := queue.cursor.column
        required := required }
    let queue ← queue.removeKey
    return { queue with keys := some key :: queue.keys.drop 1 }
  else .ok queue

/-! ## Indentation -/

/-- Open a block at a column to the right of the current indentation.  Its start
goes to the end of the queue, or in front of the token with a given number. -/
def openBlock (queue : Queue) (column : Nat) (start : Token) (number : Option Nat) : Queue :=
  if queue.inFlow || !isDeeper column queue.indent then queue
  else
    let queue :=
      { queue with outerIndents := queue.indent :: queue.outerIndents, indent := some column }
    match number with
    | none => queue.push start
    | some number => queue.insertAt number start

/-- Close blocks, given the indentation within and those around. -/
def closing (column : Option Nat) : Option Nat → List (Option Nat) →
    Nat × Option Nat × List (Option Nat)
  | none, outer => (0, none, outer)
  | some indent, outer =>
      if (match column with
          | none => true
          | some column => column < indent) then
        match outer with
        | [] => (1, none, [])
        | next :: rest =>
            let (count, indent, outer) := closing column next rest
            (count + 1, indent, outer)
      else (0, some indent, outer)

/-- Close the blocks that are indented further than a column, or all of them. -/
def closeBlocks (queue : Queue) (column : Option Nat) : Queue :=
  if queue.inFlow then queue
  else
    let (count, indent, outer) := closing column queue.indent queue.outerIndents
    { queue with
      indent := indent
      outerIndents := outer
      tokens := queue.tokens ++ List.replicate count .blockEnd }

/-! ## One token -/

/-- Pass over blanks, comments and line breaks.  Tabs count as blanks where no
key may start. -/
def skipToToken : Nat → Queue → Queue
  | 0, queue => queue
  | fuel + 1, queue =>
      let cursor := queue.cursor
      let cursor :=
        if cursor.index == 0 && cursor.next.toNat == 0xfeff then cursor.skip 1 else cursor
      let tabs := queue.inFlow || !queue.keyAllowed
      let cursor := cursor.skipWhile fun character =>
        character == ' ' || (tabs && character == '\t')
      let cursor := if cursor.next == '#' then cursor.skipWhile (!isBreakOrEnd ·) else cursor
      if isBreak cursor.next then
        skipToToken fuel
          { queue with
            cursor := cursor.skipBreak
            keyAllowed := queue.keyAllowed || !queue.inFlow }
      else { queue with cursor := cursor }

/-- The start of the stream. -/
def fetchStart (queue : Queue) : Queue :=
  { queue with started := true, keyAllowed := true, keys := [none], tokens := [.streamStart] }

/-- The end of the stream. -/
def fetchEnd (queue : Queue) : Except Fault Queue := do
  let cursor := queue.cursor
  let cursor :=
    if cursor.column == 0 then cursor
    else { cursor with column := 0, line := cursor.line + 1 }
  let queue := { queue with cursor := cursor }.closeBlocks none
  let queue ← queue.removeKey
  return { queue with keyAllowed := false, finished := true }.push .streamEnd

/-- A directive. -/
def fetchDirective (queue : Queue) : Except Fault Queue := do
  let queue ← (queue.closeBlocks none).removeKey
  let (token, behind) ← Token.scanDirective queue.cursor
  return { queue with keyAllowed := false }.pushAt token behind

/-- The start or the end of a document. -/
def fetchDocumentMark (queue : Queue) (token : Token) : Except Fault Queue := do
  let queue ← (queue.closeBlocks none).removeKey
  return { queue with keyAllowed := false }.pushAt token (queue.cursor.skip 3)

/-- An opening bracket. -/
def fetchFlowStart (queue : Queue) (token : Token) : Except Fault Queue := do
  let queue ← queue.saveKey
  return { queue with keys := none :: queue.keys, keyAllowed := true }.pushAt token
    (queue.cursor.skip 1)

/-- A closing bracket. -/
def fetchFlowEnd (queue : Queue) (token : Token) : Except Fault Queue := do
  let queue ← queue.removeKey
  let keys := if queue.inFlow then queue.keys.drop 1 else queue.keys
  return { queue with keys := keys, keyAllowed := false }.pushAt token (queue.cursor.skip 1)

/-- A comma between brackets. -/
def fetchFlowEntry (queue : Queue) : Except Fault Queue := do
  let queue ← queue.removeKey
  return { queue with keyAllowed := true }.pushAt .flowEntry (queue.cursor.skip 1)

/-- The dash of an item. -/
def fetchBlockEntry (queue : Queue) : Except Fault Queue := do
  if !queue.inFlow && !queue.keyAllowed then .error .misplaced
  else
    let queue := queue.openBlock queue.cursor.column .blockSequenceStart none
    let queue ← queue.removeKey
    return { queue with keyAllowed := true }.pushAt .blockEntry (queue.cursor.skip 1)

/-- The mark of a key. -/
def fetchKey (queue : Queue) : Except Fault Queue := do
  if !queue.inFlow && !queue.keyAllowed then .error .misplaced
  else
    let queue := queue.openBlock queue.cursor.column .blockMappingStart none
    let queue ← queue.removeKey
    return { queue with keyAllowed := !queue.inFlow }.pushAt .key (queue.cursor.skip 1)

/-- The colon behind a key.  A pending key now becomes one. -/
def fetchValue (queue : Queue) : Except Fault Queue :=
  match queue.keys with
  | some key :: rest =>
      let queue := { queue with keys := none :: rest }.insertAt key.token .key
      let queue := queue.openBlock key.column .blockMappingStart (some key.token)
      .ok ({ queue with keyAllowed := false }.pushAt .value (queue.cursor.skip 1))
  | _ =>
      if !queue.inFlow && !queue.keyAllowed then .error .misplaced
      else
        let queue := queue.openBlock queue.cursor.column .blockMappingStart none
        .ok ({ queue with keyAllowed := !queue.inFlow }.pushAt .value (queue.cursor.skip 1))

/-- An anchor or an alias. -/
def fetchName (queue : Queue) (token : String → Token) : Except Fault Queue := do
  let queue ← queue.saveKey
  let (name, behind) ← Token.scanName queue.cursor
  return { queue with keyAllowed := false }.pushAt (token name) behind

/-- A tag. -/
def fetchTag (queue : Queue) : Except Fault Queue := do
  let queue ← queue.saveKey
  let (token, behind) ← Token.scanTag queue.inFlow queue.cursor
  return { queue with keyAllowed := false }.pushAt token behind

/-- A block scalar. -/
def fetchBlockScalar (queue : Queue) (literal : Bool) : Except Fault Queue := do
  let queue ← queue.removeKey
  let (token, behind) ← Token.scanBlock literal queue.indent queue.cursor
  return { queue with keyAllowed := true }.pushAt token behind

/-- A quoted scalar. -/
def fetchQuoted (queue : Queue) (single : Bool) : Except Fault Queue := do
  let queue ← queue.saveKey
  let (token, behind) ← Token.scanQuoted single queue.cursor
  return { queue with keyAllowed := false }.pushAt token behind

/-- A plain scalar.  A key may start behind it when it ended with its line. -/
def fetchPlain (queue : Queue) : Except Fault Queue := do
  let queue ← queue.saveKey
  let least := (queue.indent.map (· + 1)).getD 0
  let (token, broken, behind) ← Token.scanPlain queue.inFlow least queue.cursor
  return { queue with keyAllowed := broken }.pushAt token behind

/-- The marks that a plain scalar may not start with, or only before something
other than white space. -/
def isIndicator (character : Char) : Bool :=
  ['-', '?', ':', ',', '[', ']', '{', '}', '#', '&', '*', '!', '|', '>', '\'', '"', '%', '@',
    '`'].contains character

/-- Whether a plain scalar starts here. -/
def startsPlain (queue : Queue) : Bool :=
  let first := queue.cursor.next
  let second := queue.cursor.peek 1
  !(isBlankOrEnd first || isIndicator first) ||
    (first == '-' && !isBlank second) ||
    (!queue.inFlow && (first == '?' || first == ':') && !isBlankOrEnd second)

/-- Scan the next token. -/
def fetch (queue : Queue) : Except Fault Queue := do
  if !queue.started then return queue.fetchStart
  let queue := queue.skipToToken (queue.cursor.rest.length + 1)
  let queue ← queue.expireKeys
  let cursor := queue.cursor
  let queue := queue.closeBlocks (some cursor.column)
  let first := cursor.next
  let second := cursor.peek 1
  if cursor.atEnd then queue.fetchEnd
  else if cursor.column == 0 && first == '%' then queue.fetchDirective
  else if cursor.atDocumentMark then
    queue.fetchDocumentMark (if first == '-' then .documentStart else .documentEnd)
  else if first == '[' then queue.fetchFlowStart .flowSequenceStart
  else if first == '{' then queue.fetchFlowStart .flowMappingStart
  else if first == ']' then queue.fetchFlowEnd .flowSequenceEnd
  else if first == '}' then queue.fetchFlowEnd .flowMappingEnd
  else if first == ',' then queue.fetchFlowEntry
  else if first == '-' && isBlankOrEnd second then queue.fetchBlockEntry
  else if first == '?' && (queue.inFlow || isBlankOrEnd second) then queue.fetchKey
  else if first == ':' && (queue.inFlow || isBlankOrEnd second) then queue.fetchValue
  else if first == '*' then queue.fetchName .alias
  else if first == '&' then queue.fetchName .anchor
  else if first == '!' then queue.fetchTag
  else if first == '|' && !queue.inFlow then queue.fetchBlockScalar true
  else if first == '>' && !queue.inFlow then queue.fetchBlockScalar false
  else if first == '\'' then queue.fetchQuoted true
  else if first == '"' then queue.fetchQuoted false
  else if queue.startsPlain then queue.fetchPlain
  else .error .misplaced

/-! ## Handing out -/

/-- Whether a pending key may still claim the place of the first token. -/
def headIsPending (queue : Queue) : Bool :=
  queue.keys.any fun
    | some key => key.token == queue.handedOut
    | none => false

/-- Scan until the first token is settled. -/
def fill : Nat → Queue → Except Fault Queue
  | 0, queue => .ok queue
  | fuel + 1, queue => do
      if queue.tokens.isEmpty then fill fuel (← queue.fetch)
      else
        let queue ← queue.expireKeys
        if queue.headIsPending then fill fuel (← queue.fetch)
        else return queue

/-- The next token, and the queue that still holds it. -/
def peek (queue : Queue) : Except Fault (Token × Queue) := do
  let queue ← fill (queue.cursor.rest.length + 4) queue
  return (queue.tokens.headD .streamEnd, queue)

/-- The queue behind its first token. -/
def drop (queue : Queue) : Queue :=
  { queue with tokens := queue.tokens.drop 1, handedOut := queue.handedOut + 1 }

end Queue

end PortTunnel.Yaml
