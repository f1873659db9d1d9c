import PortTunnel.Json.Draft
import PortTunnel.NameMap
import PortTunnel.Schema.Path
import PortTunnel.Yaml.Scalar

/-!
# Readers

A reader says what values of a type look like in a document.  It holds one
function for each document format, so that a type is described once and read
from both.

Both functions read in document order and stop at the first thing that is wrong,
be it a problem with a value or a fault of the text.
-/

namespace PortTunnel.Schema

/-! ## Reading JSON -/

/-- Where a JSON value comes from: from a text that is being read, or from a
value that is complete. -/
inductive JsonSource where
  | document
  | value
  deriving DecidableEq, Repr

/-- Why a JSON value was refused. -/
inductive JsonRefusal where
  | fault (fault : Json.Fault)
  | problem (problem : Problem)
  deriving DecidableEq, Repr

/-- The type of JSON values, for messages; or the fault met on reading one. -/
def jsonFound : Json.Draft → Except Json.Fault Found
  | .null => .ok .nothing
  | .bool truth => .ok (.bool truth)
  | .integer number => .ok (.integer number)
  | .real numeral =>
      if numeral.roundedThenScaled?.isNone then .error .malformed
      else .ok (.real (.finite numeral))
  | .text content => .ok (.text content)
  | .unpaired => .error .malformed
  | .array _ _ => .ok .sequence
  | .object _ _ => .ok .map
  | .broken breakage => .error breakage.reading

/-- The refusal of a JSON value that is not of the expected type. -/
def jsonMismatch (draft : Json.Draft) (expected : String) : JsonRefusal :=
  match jsonFound draft with
  | .ok found => .problem (.wrongType found expected)
  | .error fault => .fault fault

/-! ## Reading YAML -/

/-- Why a YAML value was refused.  The path is set by the innermost value that
can tell its place. -/
inductive YamlRefusal where
  | fault (fault : Yaml.Fault)
  | problem (problem : Problem) (path : Option Path)
  deriving DecidableEq, Repr

/-- Set the path of a refusal that has none. -/
def YamlRefusal.at (path : Path) : YamlRefusal → YamlRefusal
  | .problem cause none => .problem cause (some path)
  | refusal => refusal

/-- A position in the events of a document, and the number of aliases that were
followed on the way. -/
structure Position where
  event : Nat
  jumps : Nat
  deriving DecidableEq, Repr, Inhabited

/-- A function that reads a value from the events at a position. -/
abbrev YamlReading (α : Type) :=
  Yaml.Document → Path → Position → Except YamlRefusal (α × Position)

/-- The position behind the next event. -/
def Position.next (position : Position) : Position :=
  { position with event := position.event + 1 }

/-- The problem that an event is not of the expected type. -/
def yamlMismatch (event : Yaml.Event) (expected : String) : YamlRefusal :=
  match event with
  | .scalar tag content style =>
      .problem (Yaml.Scalar.mismatch tag content style expected) none
  | .sequenceStart => .problem (.wrongType .sequence expected) none
  | .mappingStart => .problem (.wrongType .map expected) none
  | .alias _ | .sequenceEnd | .mappingEnd | .void => .fault .ended

/-- Read the value at a position, or the one that an alias there refers to.
Aliases may be followed at most a hundred times for each event. -/
def followingAlias {α : Type} (reading : YamlReading α) : YamlReading α :=
  fun document path position =>
    match document.event position.event with
    | .error fault => .error (.fault fault)
    | .ok (.alias anchor) =>
        if document.events.size * 100 < position.jumps + 1 then .error (.fault .repetition)
        else
          match reading document path ⟨document.anchorPosition anchor, position.jumps + 1⟩ with
          | .ok (value, behind) => .ok (value, ⟨position.event + 1, behind.jumps⟩)
          | .error refusal => .error (refusal.at path)
    | .ok _ =>
        match reading document path position with
        | .ok result => .ok result
        | .error refusal => .error (refusal.at path)

/-- Read a scalar. -/
def yamlScalar {α : Type} (expected : String)
    (read : Yaml.Tag → String → Yaml.Style → Except Problem α) : YamlReading α :=
  followingAlias fun document _ position =>
    match document.event position.event with
    | .error fault => .error (.fault fault)
    | .ok (.scalar tag content style) =>
        match read tag content style with
        | .ok value => .ok (value, position.next)
        | .error problem => .error (.problem problem none)
    | .ok event => .error (yamlMismatch event expected)

/-- Pass over a value, whatever it is; aliases are not followed.  `depth` is the
number of collections that stand open. -/
def yamlSkip : Nat → Nat → Yaml.Document → Position → Except YamlRefusal Position
  | 0, _, _, position => .ok position
  | fuel + 1, depth, document, position =>
      match document.event position.event with
      | .error fault => .error (.fault fault)
      | .ok (.alias _) | .ok (.scalar ..) | .ok .void =>
          if depth == 0 then .ok position.next
          else yamlSkip fuel depth document position.next
      | .ok .sequenceStart | .ok .mappingStart =>
          yamlSkip fuel (depth + 1) document position.next
      | .ok .sequenceEnd | .ok .mappingEnd =>
          if depth ≤ 1 then .ok position.next
          else yamlSkip fuel (depth - 1) document position.next

/-- A bound on the number of events from a position on. -/
def fuelFor (document : Yaml.Document) : Nat :=
  document.events.size + 1

/-- Whether an event stands for a collection without entries. -/
def isEmptyCollection : Yaml.Event → Bool
  | .void => true
  | .scalar _ content style => content.isEmpty && style == .plain
  | _ => false

/-! ## Readers -/

/-- What the values of a type look like in documents. -/
structure Reader (α : Type) where
  json : JsonSource → Json.Draft → Except JsonRefusal α
  yaml : YamlReading α

namespace Reader

variable {α β : Type}

/-- A text, described by `expected` in messages. -/
def text (expected : String) : Reader String where
  json _
    | .text content => .ok content
    | draft => .error (jsonMismatch draft expected)
  yaml := yamlScalar expected fun _ content _ => .ok content

/-- A text that has to have a certain form. -/
def formed (expected : String) (problem : Problem) (form? : String → Option α) : Reader α where
  json _
    | .text content =>
        match form? content with
        | some value => .ok value
        | none => .error (.problem problem)
    | draft => .error (jsonMismatch draft expected)
  yaml := yamlScalar expected fun _ content _ =>
    match form? content with
    | some value => .ok value
    | none => .error problem

/-- A natural number below `2 ^ bits`. -/
def unsigned (bits : Nat) (expected : String) : Reader Nat where
  json _
    | .integer number =>
        if 0 ≤ number && number < Number.twoTo bits then .ok number.toNat
        else .error (.problem (.wrongValue (.integer number) expected))
    | draft => .error (jsonMismatch draft expected)
  yaml := yamlScalar expected fun tag content style =>
    let number? :=
      if Yaml.Scalar.mayBeInteger tag style then
        Yaml.Scalar.unsigned? (Number.twoTo 64 - 1) content.toList
      else none
    match number? with
    | some number =>
        if number < Number.twoTo bits then .ok number
        else .error (.wrongValue (.integer number) expected)
    | none => .error (Yaml.Scalar.mismatch tag content style expected)

/-- A whole number of 64 bits. -/
def signed (expected : String) : Reader Int where
  json _
    | .integer number =>
        if -(Number.twoTo 63 : Int) ≤ number && number < Number.twoTo 63 then .ok number
        else .error (.problem (.wrongValue (.integer number) expected))
    | draft => .error (jsonMismatch draft expected)
  yaml := yamlScalar expected fun tag content style =>
    let number? :=
      if Yaml.Scalar.mayBeInteger tag style then Yaml.Scalar.signed? content.toList else none
    match number? with
    | some number => .ok number
    | none => .error (Yaml.Scalar.mismatch tag content style expected)

/-- Change the values of a reader. -/
def map (change : α → β) (reader : Reader α) : Reader β where
  json source draft := (reader.json source draft).map change
  yaml document path position :=
    (reader.yaml document path position).map fun result => (change result.1, result.2)

/-- What a scalar says about the presence of a value. -/
def presence (tag : Yaml.Tag) (content : String) (style : Yaml.Style) : Except Problem Bool :=
  if style != .plain then .ok true
  else
    match tag with
    | some tag =>
        if tag == Yaml.Scalar.nullTag then
          if Yaml.Scalar.isNull content then .ok false
          else .error (.wrongValue (.text content) "null")
        else .ok true
    | none => .ok (!content.isEmpty && !Yaml.Scalar.isNull content)

/-- A value that may be absent, read from YAML events that are no alias. -/
def yamlPresent (reading : YamlReading α) : YamlReading (Option α) :=
  fun document path position =>
    let present := do
      let (value, behind) ← reading document path position
      return (some value, behind)
    match document.event position.event with
    | .error fault => .error (.fault fault)
    | .ok (.scalar tag content style) =>
        match presence tag content style with
        | .error problem => .error (.problem problem none)
        | .ok true => present
        | .ok false => .ok (none, position.next)
    | .ok .void => .ok (none, position.next)
    | .ok _ => present

/-- A value that may be absent. -/
def optional (reader : Reader α) : Reader (Option α) where
  json source
    | .null => .ok none
    | draft => (reader.json source draft).map some
  yaml document path position :=
    match document.event position.event with
    | .error fault => .error (.fault fault)
    | .ok (.alias anchor) =>
        if document.events.size * 100 < position.jumps + 1 then .error (.fault .repetition)
        else
          match yamlPresent reader.yaml document path
              ⟨document.anchorPosition anchor, position.jumps + 1⟩ with
          | .ok (value, behind) => .ok (value, ⟨position.event + 1, behind.jumps⟩)
          | .error refusal => .error refusal
    | .ok _ => yamlPresent reader.yaml document path position

/-! ## Sequences -/

/-- Read items, and the break behind them. -/
def jsonItems (read : Json.Draft → Except JsonRefusal α) (ending : Option Json.Breakage) :
    List Json.Draft → Except JsonRefusal (List α)
  | [] =>
      match ending with
      | none => .ok []
      | some breakage => .error (.fault breakage.reading)
  | draft :: rest => do
      let item ← read draft
      let items ← jsonItems read ending rest
      return item :: items

/-- Read items up to the end of a sequence. -/
def yamlItems (reading : YamlReading α) :
    Nat → Nat → Yaml.Document → Path → Position → Except YamlRefusal (List α × Position)
  | 0, _, _, _, position => .ok ([], position)
  | fuel + 1, index, document, path, position =>
      match document.event position.event with
      | .error fault => .error (.fault fault)
      | .ok .sequenceEnd => .ok ([], position.next)
      | .ok _ => do
          let (item, behind) ← reading document (.index index :: path) position
          let (items, behind) ← yamlItems reading fuel (index + 1) document path behind
          return (item :: items, behind)

/-- A sequence of values. -/
def list (reader : Reader α) : Reader (List α) where
  json source
    | .array items ending => jsonItems (reader.json source) ending items
    | draft => .error (jsonMismatch draft "a sequence")
  yaml := followingAlias fun document path position =>
    match document.event position.event with
    | .error fault => .error (.fault fault)
    | .ok .sequenceStart =>
        yamlItems reader.yaml (fuelFor document) 0 document path position.next
    | .ok event =>
        if isEmptyCollection event then .ok ([], position.next)
        else .error (yamlMismatch event "a sequence")

/-! ## Maps -/

/-- Read members into a map, and the break behind them. -/
def jsonMembers (read : Json.Draft → Except JsonRefusal α) (ending : Option Json.Breakage) :
    NameMap α → List (Option String × Json.Draft) → Except JsonRefusal (NameMap α)
  | map, [] =>
      match ending with
      | none => .ok map
      | some breakage => .error (.fault breakage.reading)
  | _, (none, _) :: _ => .error (.fault .malformed)
  | map, (some name, draft) :: rest => do
      let value ← read draft
      jsonMembers read ending (map.insert name value) rest

/-- The step from a mapping to the value behind the key at a position. -/
def keyStep : Yaml.Event → PathStep
  | .scalar _ content _ => .key content
  | _ => .unknown

/-- Read entries up to the end of a mapping. -/
def yamlMembers (reading : YamlReading α) :
    Nat → NameMap α → Yaml.Document → Path → Position →
      Except YamlRefusal (NameMap α × Position)
  | 0, map, _, _, position => .ok (map, position)
  | fuel + 1, map, document, path, position =>
      match document.event position.event with
      | .error fault => .error (.fault fault)
      | .ok .mappingEnd => .ok (map, position.next)
      | .ok event => do
          let (name, behind) ← (text "a string").yaml document path position
          let (value, behind) ← reading document (keyStep event :: path) behind
          yamlMembers reading fuel (map.insert name value) document path behind

/-- A map from names. -/
def keyed (reader : Reader α) : Reader (NameMap α) where
  json source
    | .object members ending => jsonMembers (reader.json source) ending .empty members
    | draft => .error (jsonMismatch draft "a map")
  yaml := followingAlias fun document path position =>
    match document.event position.event with
    | .error fault => .error (.fault fault)
    | .ok .mappingStart =>
        yamlMembers reader.yaml (fuelFor document) .empty document path position.next
    | .ok event =>
        if isEmptyCollection event then .ok (.empty, position.next)
        else .error (yamlMismatch event "a map")

end Reader

/-- Any text. -/
def string : Reader String :=
  Reader.text "a string"

end PortTunnel.Schema
