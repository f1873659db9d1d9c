import PortTunnel.Yaml.Token.Queue

/-!
# Events: the nodes of a document in order

Tokens are grouped into nodes, and the nodes of a document are told off as
events: scalars, aliases, and the starts and ends of sequences and mappings.  A
node that is left out is an empty plain scalar.

What stands open while nodes are told off is a stack of states, one for each
collection that is not finished.
-/

namespace PortTunnel.Yaml

/-- The tag of a scalar, if it has one that matters. -/
abbrev Tag := Option String

/-- One step through a stream of documents. -/
inductive Happening where
  | streamStart
  | streamEnd
  | documentStart
  | documentEnd
  | alias (name : String)
  | scalar (anchor : Option String) (tag : Tag) (content : String) (style : Style)
  | sequenceStart (anchor : Option String)
  | sequenceEnd
  | mappingStart (anchor : Option String)
  | mappingEnd
  deriving DecidableEq, Repr, Inhabited

/-- What is expected next. -/
inductive Expectation where
  | streamStart
  | implicitDocument
  | document
  | documentContent
  | documentEnd
  | blockNode
  | blockSequence (isFirst : Bool)
  | indentlessSequence
  | blockKey (isFirst : Bool)
  | blockValue
  | flowSequence (isFirst : Bool)
  | pairKey
  | pairValue
  | pairEnd
  | flowKey (isFirst : Bool)
  | flowValue
  | flowEmptyValue
  | finished
  deriving DecidableEq, Repr, Inhabited

/-- The state of telling off events. -/
structure Teller where
  queue : Queue
  expected : Expectation
  outer : List Expectation
  /-- The stems that the handles of tags stand for in this document. -/
  stems : List (String × String)
  deriving Inhabited

namespace Teller

/-- The teller at the start of a text. -/
def ofText (characters : List Char) : Teller :=
  { queue := Queue.ofText characters, expected := .streamStart, outer := [], stems := [] }

/-- One event, or the fault in the way of it. -/
abbrev Told := Except Fault (Happening × Teller)

/-- Look at the next token. -/
def peek (teller : Teller) : Except Fault (Token × Teller) := do
  let (token, queue) ← teller.queue.peek
  return (token, { teller with queue := queue })

/-- Pass over the next token. -/
def drop (teller : Teller) : Teller :=
  { teller with queue := teller.queue.drop }

/-- Pass over the next token and look at the one behind it. -/
def dropPeek (teller : Teller) : Except Fault (Token × Teller) :=
  teller.drop.peek

/-- Expect something else next. -/
def expect (teller : Teller) (expected : Expectation) : Teller :=
  { teller with expected := expected }

/-- Return to what is expected behind the node that was just told off. -/
def resume (teller : Teller) : Teller :=
  { teller with expected := teller.outer.headD .finished, outer := teller.outer.drop 1 }

/-- Note what is expected behind the node that is told off next. -/
def after (teller : Teller) (expected : Expectation) : Teller :=
  { teller with outer := expected :: teller.outer }

/-- The event of a node that is left out. -/
def emptyScalar : Happening := .scalar none none "" .plain

/-- Tell off an empty node and expect something else. -/
def omitted (teller : Teller) (expected : Expectation) : Told :=
  .ok (emptyScalar, teller.expect expected)

/-! ## Nodes -/

/-- The anchor and the tag in front of a node, in either order. -/
def properties (teller : Teller) :
    Except Fault (Option String × Option (String × String) × Teller) := do
  let (token, teller) ← teller.peek
  match token with
  | .anchor name =>
      let (token, teller) ← teller.dropPeek
      match token with
      | .tag handle suffix => return (some name, some (handle, suffix), teller.drop)
      | _ => return (some name, none, teller)
  | .tag handle suffix =>
      let (token, teller) ← teller.dropPeek
      match token with
      | .anchor name => return (some name, some (handle, suffix), teller.drop)
      | _ => return (none, some (handle, suffix), teller)
  | _ => return (none, none, teller)

/-- The tag that a handle and a suffix stand for. -/
def resolveTag (teller : Teller) : Option (String × String) → Except Fault (Option String)
  | none => .ok none
  | some (handle, suffix) =>
      if handle.isEmpty then .ok (some suffix)
      else
        match teller.stems.find? (·.1 == handle) with
        | some (_, stem) => .ok (some (stem ++ suffix))
        | none => .error .property

/-- The tag of a scalar: the lone mark `!` says nothing about it. -/
def scalarTag : Option String → Tag
  | some "!" => none
  | tag => tag

/-- Tell off a node.  Blocks may start here unless brackets stand around, and
in a mapping a sequence may start without indentation. -/
def node (teller : Teller) (inBlock indentless : Bool) : Told := do
  let (token, teller) ← teller.peek
  match token with
  | .alias name => return (.alias name, teller.drop.resume)
  | _ =>
      let (anchor, parts, teller) ← teller.properties
      let tag ← teller.resolveTag parts
      let (token, teller) ← teller.peek
      match token with
      | .blockEntry =>
          if indentless then return (.sequenceStart anchor, teller.expect .indentlessSequence)
          else if anchor.isSome || tag.isSome then
            return (.scalar anchor (scalarTag tag) "" .plain, teller.resume)
          else .error .arrangement
      | .scalar content style =>
          return (.scalar anchor (scalarTag tag) content style, teller.drop.resume)
      | .flowSequenceStart =>
          return (.sequenceStart anchor, teller.expect (.flowSequence true))
      | .flowMappingStart => return (.mappingStart anchor, teller.expect (.flowKey true))
      | .blockSequenceStart =>
          if inBlock then return (.sequenceStart anchor, teller.expect (.blockSequence true))
          else if anchor.isSome || tag.isSome then
            return (.scalar anchor (scalarTag tag) "" .plain, teller.resume)
          else .error .arrangement
      | .blockMappingStart =>
          if inBlock then return (.mappingStart anchor, teller.expect (.blockKey true))
          else if anchor.isSome || tag.isSome then
            return (.scalar anchor (scalarTag tag) "" .plain, teller.resume)
          else .error .arrangement
      | _ =>
          if anchor.isSome || tag.isSome then
            return (.scalar anchor (scalarTag tag) "" .plain, teller.resume)
          else .error .arrangement

/-! ## Documents -/

/-- The handles that every document knows. -/
def commonStems : List (String × String) :=
  [("!", "!"), ("!!", "tag:yaml.org,2002:")]

/-- Read directives: a version at most once, and handles, each at most once. -/
def directives : Nat → Bool → Teller → Except Fault Teller
  | 0, _, teller => .ok teller
  | fuel + 1, versioned, teller => do
      let (token, teller) ← teller.peek
      match token with
      | .version major minor =>
          if versioned || major != 1 || (minor != 1 && minor != 2) then .error .property
          else directives fuel true teller.drop
      | .tagDirective handle stem =>
          if teller.stems.any (·.1 == handle) then .error .property
          else
            directives fuel versioned
              { teller.drop with stems := teller.stems ++ [(handle, stem)] }
      | _ =>
          let missing := commonStems.filter fun common =>
            !teller.stems.any (·.1 == common.1)
          return { teller with stems := teller.stems ++ missing }

/-- Pass over marks that end documents. -/
def dropDocumentEnds : Nat → Teller → Except Fault Teller
  | 0, teller => .ok teller
  | fuel + 1, teller => do
      let (token, teller) ← teller.peek
      match token with
      | .documentEnd => dropDocumentEnds fuel teller.drop
      | _ => return teller

/-- A bound on the number of tokens that are still to come. -/
def bound (teller : Teller) : Nat :=
  4 * (teller.queue.cursor.rest.length + teller.queue.tokens.length) + 16

/-- Start a document that needs its mark, or end the stream. -/
def explicitDocument (teller : Teller) : Told := do
  let (token, teller) ← teller.peek
  match token with
  | .streamEnd => return (.streamEnd, (teller.expect .finished).drop)
  | _ =>
      let teller ← directives teller.bound false teller
      let (token, teller) ← teller.peek
      match token with
      | .documentStart =>
          return (.documentStart, ((teller.after .documentEnd).expect .documentContent).drop)
      | _ => .error .arrangement

/-- Start a document, with or without its mark. -/
def document (teller : Teller) (implicit : Bool) : Told := do
  let teller ← if implicit then .ok teller else dropDocumentEnds teller.bound teller
  let (token, teller) ← teller.peek
  match token with
  | .version .. | .tagDirective .. | .documentStart | .streamEnd => explicitDocument teller
  | _ =>
      if implicit then
        let teller ← directives teller.bound false teller
        return (.documentStart, (teller.after .documentEnd).expect .blockNode)
      else explicitDocument teller

/-- The content of a document behind its mark. -/
def content (teller : Teller) : Told := do
  let (token, teller) ← teller.peek
  match token with
  | .version .. | .tagDirective .. | .documentStart | .documentEnd | .streamEnd =>
      return (emptyScalar, teller.resume)
  | _ => teller.node true false

/-- End a document. -/
def endDocument (teller : Teller) : Told := do
  let (token, teller) ← teller.peek
  let teller := match token with
    | .documentEnd => teller.drop
    | _ => teller
  return (.documentEnd, { teller with stems := [], expected := .document })

/-! ## Collections in blocks -/

/-- An item of a block sequence, or its end. -/
def blockItem (teller : Teller) : Told := do
  let (token, teller) ← teller.peek
  match token with
  | .blockEntry =>
      let (token, teller) ← teller.dropPeek
      match token with
      | .blockEntry | .blockEnd => teller.omitted (.blockSequence false)
      | _ => (teller.after (.blockSequence false)).node true false
  | .blockEnd => return (.sequenceEnd, teller.resume.drop)
  | _ => .error .arrangement

/-- An item of a sequence without indentation, or its end. -/
def indentlessItem (teller : Teller) : Told := do
  let (token, teller) ← teller.peek
  match token with
  | .blockEntry =>
      let (token, teller) ← teller.dropPeek
      match token with
      | .blockEntry | .key | .value | .blockEnd => teller.omitted .indentlessSequence
      | _ => (teller.after .indentlessSequence).node true false
  | _ => return (.sequenceEnd, teller.resume)

/-- A key of a block mapping, or its end. -/
def blockKey (teller : Teller) : Told := do
  let (token, teller) ← teller.peek
  match token with
  | .key =>
      let (token, teller) ← teller.dropPeek
      match token with
      | .key | .value | .blockEnd => teller.omitted .blockValue
      | _ => (teller.after .blockValue).node true true
  | .blockEnd => return (.mappingEnd, teller.resume.drop)
  | _ => .error .arrangement

/-- A value of a block mapping. -/
def blockValue (teller : Teller) : Told := do
  let (token, teller) ← teller.peek
  match token with
  | .value =>
      let (token, teller) ← teller.dropPeek
      match token with
      | .key | .value | .blockEnd => teller.omitted (.blockKey false)
      | _ => (teller.after (.blockKey false)).node true true
  | _ => teller.omitted (.blockKey false)

/-! ## Collections between brackets -/

/-- Pass over the comma in front of every entry but the first. -/
def comma (teller : Teller) (isFirst : Bool) : Except Fault (Token × Teller) := do
  let (token, teller) ← teller.peek
  if isFirst then return (token, teller)
  else
    match token with
    | .flowEntry => teller.dropPeek
    | _ => .error .arrangement

/-- End a sequence between brackets. -/
def endFlowSequence (teller : Teller) : Happening × Teller :=
  (.sequenceEnd, teller.resume.drop)

/-- An item of a sequence between brackets, or its end. -/
def flowItem (teller : Teller) (isFirst : Bool) : Told := do
  let (token, teller) ← teller.peek
  match token with
  | .flowSequenceEnd => return teller.endFlowSequence
  | _ =>
      let (token, teller) ← teller.comma isFirst
      match token with
      | .key => return (.mappingStart none, (teller.expect .pairKey).drop)
      | .flowSequenceEnd => return teller.endFlowSequence
      | _ => (teller.after (.flowSequence false)).node false false

/-- The key of a pair that stands as an item. -/
def pairKey (teller : Teller) : Told := do
  let (token, teller) ← teller.peek
  match token with
  | .value | .flowEntry | .flowSequenceEnd => teller.drop.omitted .pairValue
  | _ => (teller.after .pairValue).node false false

/-- The value of a pair that stands as an item. -/
def pairValue (teller : Teller) : Told := do
  let (token, teller) ← teller.peek
  match token with
  | .value =>
      let (token, teller) ← teller.dropPeek
      match token with
      | .flowEntry | .flowSequenceEnd => teller.omitted .pairEnd
      | _ => (teller.after .pairEnd).node false false
  | _ => teller.omitted .pairEnd

/-- End a mapping between brackets. -/
def endFlowMapping (teller : Teller) : Happening × Teller :=
  (.mappingEnd, teller.resume.drop)

/-- A key of a mapping between brackets, or its end. -/
def flowKey (teller : Teller) (isFirst : Bool) : Told := do
  let (token, teller) ← teller.peek
  match token with
  | .flowMappingEnd => return teller.endFlowMapping
  | _ =>
      let (token, teller) ← teller.comma isFirst
      match token with
      | .key =>
          let (token, teller) ← teller.dropPeek
          match token with
          | .value | .flowEntry | .flowMappingEnd => teller.omitted .flowValue
          | _ => (teller.after .flowValue).node false false
      | .flowMappingEnd => return teller.endFlowMapping
      | _ => (teller.after .flowEmptyValue).node false false

/-- A value of a mapping between brackets. -/
def flowValue (teller : Teller) : Told := do
  let (token, teller) ← teller.peek
  match token with
  | .value =>
      let (token, teller) ← teller.dropPeek
      match token with
      | .flowEntry | .flowMappingEnd => teller.omitted (.flowKey false)
      | _ => (teller.after (.flowKey false)).node false false
  | _ => teller.omitted (.flowKey false)

/-! ## The next event -/

/-- Tell off the next event. -/
def tell (teller : Teller) : Told :=
  match teller.expected with
  | .streamStart => do
      let (_, teller) ← teller.peek
      return (.streamStart, (teller.expect .implicitDocument).drop)
  | .implicitDocument => teller.document true
  | .document => teller.document false
  | .documentContent => teller.content
  | .documentEnd => teller.endDocument
  | .blockNode => teller.node true false
  | .blockSequence isFirst => (if isFirst then teller.drop else teller).blockItem
  | .indentlessSequence => teller.indentlessItem
  | .blockKey isFirst => (if isFirst then teller.drop else teller).blockKey
  | .blockValue => teller.blockValue
  | .flowSequence isFirst => (if isFirst then teller.drop else teller).flowItem isFirst
  | .pairKey => teller.pairKey
  | .pairValue => teller.pairValue
  | .pairEnd => do
      let (_, teller) ← teller.peek
      return (.mappingEnd, teller.expect (.flowSequence false))
  | .flowKey isFirst => (if isFirst then teller.drop else teller).flowKey isFirst
  | .flowValue => teller.flowValue
  | .flowEmptyValue => do
      let (_, teller) ← teller.peek
      teller.omitted (.flowKey false)
  | .finished => .ok (.streamEnd, teller)

end Teller

end PortTunnel.Yaml
