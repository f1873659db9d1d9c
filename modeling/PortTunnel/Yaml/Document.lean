import PortTunnel.Yaml.Event

/-!
# Documents

A document is what its events come to: the list of its nodes in order, up to the
fault that ends it early, if there is one.  Anchors are numbered, and an alias
refers to the number; where each number points to is settled by the last node
that was given it.
-/

namespace PortTunnel.Yaml

/-- One step through the nodes of a document. -/
inductive Event where
  | alias (anchor : Nat)
  | scalar (tag : Tag) (content : String) (style : Style)
  | sequenceStart
  | sequenceEnd
  | mappingStart
  | mappingEnd
  /-- The document that an empty text holds. -/
  | void
  deriving DecidableEq, Repr, Inhabited

/-- The nodes of a document up to its fault, and the positions of its anchors. -/
structure Document where
  events : Array Event
  fault : Option Fault
  anchors : List (Nat × Nat)
  deriving Inhabited

namespace Document

/-- A document that is still being read, with the numbers of the anchors' names. -/
structure Partial where
  events : Array Event
  names : List (String × Nat)
  anchors : List (Nat × Nat)

/-- Number the anchor of the next node: a name keeps its place in the list of
names, and its number is the count of names at that moment. -/
def Partial.setAnchor (document : Partial) : Option String → Partial
  | none => document
  | some name =>
      let number := document.names.length
      { document with
        names := (name, number) :: document.names.filter (·.1 != name)
        anchors := (number, document.events.size) :: document.anchors }

/-- Add an event. -/
def Partial.push (document : Partial) (event : Event) : Partial :=
  { document with events := document.events.push event }

/-- The document as far as it was read. -/
def Partial.close (document : Partial) (fault : Option Fault) : Document :=
  { events := document.events, fault := fault, anchors := document.anchors }

/-- Read a document.  The answer holds the teller behind it unless the stream
ended or broke. -/
def read (isFirst : Bool) : Nat → Partial → Teller → Option Document × Option Teller
  | 0, document, _ => (some (document.close none), none)
  | fuel + 1, document, teller =>
      match teller.tell with
      | .error fault => (some (document.close (some fault)), none)
      | .ok (happening, teller) =>
          match happening with
          | .streamStart | .documentStart => read isFirst fuel document teller
          | .streamEnd =>
              if isFirst then
                let document :=
                  if document.events.isEmpty then document.push .void else document
                (some (document.close none), none)
              else (none, none)
          | .documentEnd => (some (document.close none), some teller)
          | .alias name =>
              match document.names.find? (·.1 == name) with
              | some (_, number) => read isFirst fuel (document.push (.alias number)) teller
              | none => (some (document.close (some .unknownAnchor)), none)
          | .scalar anchor tag content style =>
              read isFirst fuel
                ((document.setAnchor anchor).push (.scalar tag content style)) teller
          | .sequenceStart anchor =>
              read isFirst fuel ((document.setAnchor anchor).push .sequenceStart) teller
          | .sequenceEnd => read isFirst fuel (document.push .sequenceEnd) teller
          | .mappingStart anchor =>
              read isFirst fuel ((document.setAnchor anchor).push .mappingStart) teller
          | .mappingEnd => read isFirst fuel (document.push .mappingEnd) teller

/-- A document of which nothing has been read. -/
def Partial.empty : Partial := ⟨#[], [], []⟩

/-- The characters of a text without the mark of its encoding. -/
def unmarked (text : String) : List Char :=
  match text.toList with
  | [] => []
  | first :: rest => if first.toNat == 0xfeff then rest else first :: rest

/-- A bound on the number of steps through a text. -/
def stepLimit (characters : List Char) : Nat :=
  16 * characters.length + 64

/-- The first document of a text, and whether another one follows it. -/
def ofText (text : String) : Document × Bool :=
  let characters := unmarked text
  if characters.all isAllowed then
    let fuel := stepLimit characters
    match read true fuel .empty (Teller.ofText characters) with
    | (some document, some teller) =>
        match read false fuel .empty teller with
        | (some _, _) => (document, true)
        | (none, _) => (document, false)
    | (some document, none) => (document, false)
    | (none, _) => (⟨#[], some .ended, []⟩, false)
  else (⟨#[], some .control, []⟩, false)

/-- Read documents until the stream ends or breaks. -/
def readAll (limit : Nat) : Nat → Bool → Teller → List Document
  | 0, _, _ => []
  | fuel + 1, isFirst, teller =>
      match read isFirst limit .empty teller with
      | (some document, some teller) => document :: readAll limit fuel false teller
      | (some document, none) => [document]
      | (none, _) => []

/-- All documents of a text, up to the one that is broken, if one is. -/
def allOfText (text : String) : List Document :=
  let characters := unmarked text
  if characters.all isAllowed then
    let limit := stepLimit characters
    readAll limit limit true (Teller.ofText characters)
  else [⟨#[], some .control, []⟩]

/-- The event at a position, or the fault that stands in its place. -/
def event (document : Document) (position : Nat) : Except Fault Event :=
  match document.events[position]? with
  | some event => .ok event
  | none => .error (document.fault.getD .ended)

/-- The position of an anchor. -/
def anchorPosition (document : Document) (anchor : Nat) : Nat :=
  ((document.anchors.find? (·.1 == anchor)).map (·.2)).getD 0

end Document

end PortTunnel.Yaml
