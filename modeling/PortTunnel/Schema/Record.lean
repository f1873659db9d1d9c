import PortTunnel.Schema.Reader

/-!
# Records

A record has named fields.  In a document it is a mapping from the names; in
JSON it may also be an array of the values in the order of the fields.  Fields
that are not required keep the value that the blank record has for them.  A
field may not be given twice, and a strict record refuses names that it does not
know, while a lenient one passes over them.
-/

namespace PortTunnel.Schema

/-- A field of records `α`: its name, and how its value is read and put into a
record. -/
structure RecordField (α : Type) where
  name : String
  required : Bool
  json : JsonSource → Json.Draft → Except JsonRefusal (α → α)
  yaml : YamlReading (α → α)

/-- A field whose values are described by a reader. -/
def RecordField.of {α β : Type} (name : String) (required : Bool) (reader : Reader β)
    (put : β → α → α) : RecordField α where
  name := name
  required := required
  json source draft := (reader.json source draft).map put
  yaml document path position :=
    (reader.yaml document path position).map fun result => (put result.1, result.2)

/-- A field that may be missing, or `null`, and is then left as it is. -/
def member {α β : Type} (name : String) (reader : Reader β) (put : β → α → α) : RecordField α :=
  .of name false reader.optional fun value record =>
    match value with
    | some value => put value record
    | none => record

/-- The description of a type of records. -/
structure Record (α : Type) where
  /-- What messages call the record. -/
  title : String
  /-- The record in which no field has been set. -/
  blank : α
  fields : List (RecordField α)
  strict : Bool

namespace Record

variable {α : Type}

/-- The names of the fields. -/
def names (record : Record α) : List String :=
  record.fields.map (·.name)

/-- The field with a given name. -/
def field? (record : Record α) (name : String) : Option (RecordField α) :=
  record.fields.find? (·.name == name)

/-- The required fields that are not among those given. -/
def missing? (record : Record α) (given : List String) : Option String :=
  (record.fields.find? fun field => field.required && !given.contains field.name).map (·.name)

/-- The record, once all its fields have been read. -/
def complete (record : Record α) (value : α) (given : List String) : Except Problem α :=
  match record.missing? given with
  | some name => .error (.missingField name)
  | none => .ok value

/-- The field that a name calls for, none where the name is to be passed over. -/
def choose (record : Record α) (given : List String) (name : String) :
    Except Problem (Option (RecordField α)) :=
  match record.field? name with
  | some field =>
      if given.contains name then .error (.duplicateField name) else .ok (some field)
  | none => if record.strict then .error (.unknownField name record.names) else .ok none

/-! ## JSON -/

/-- Read the members of an object, given the names read so far. -/
def jsonMembers (record : Record α) (source : JsonSource) (ending : Option Json.Breakage) :
    α → List String → List (Option String × Json.Draft) → Except JsonRefusal α
  | value, given, [] =>
      match ending with
      | some breakage => .error (.fault breakage.reading)
      | none =>
          match record.complete value given with
          | .ok value => .ok value
          | .error problem => .error (.problem problem)
  | _, _, (none, _) :: _ => .error (.fault .malformed)
  | value, given, (some name, draft) :: rest =>
      match record.choose given name with
      | .error problem => .error (.problem problem)
      | .ok none =>
          match draft.skipped with
          | some fault => .error (.fault fault)
          | none => jsonMembers record source ending value given rest
      | .ok (some field) =>
          match field.json source draft with
          | .error refusal => .error refusal
          | .ok put => jsonMembers record source ending (put value) (name :: given) rest

/-- The number of fields, in words. -/
def elementCount (record : Record α) : String :=
  let count := record.fields.length
  record.title ++ " with " ++ count.repr ++ (if count == 1 then " element" else " elements")

/-- The number of fields that an array has to have at least, given the index of
its end: up to the first required field that it lacks. -/
def lacking? : Nat → List (RecordField α) → Option Nat
  | _, [] => none
  | index, field :: rest => if field.required then some index else lacking? (index + 1) rest

/-- Read the items of an array as fields in order. -/
def jsonItems (record : Record α) (source : JsonSource) (ending : Option Json.Breakage)
    (length : Nat) : α → Nat → List (RecordField α) → List Json.Draft → Except JsonRefusal α
  | value, index, fields, [] =>
      match ending, fields with
      | some breakage, _ => .error (.fault breakage.reading)
      | none, fields =>
          match lacking? index fields with
          | some index => .error (.problem (.wrongLength index record.elementCount))
          | none => .ok value
  | _, _, [], _ :: _ =>
      match source with
      | .document => .error (.fault .malformed)
      | .value => .error (.problem (.wrongLength length "fewer elements in array"))
  | value, index, field :: fields, draft :: rest =>
      match field.json source draft with
      | .error refusal => .error refusal
      | .ok put => jsonItems record source ending length (put value) (index + 1) fields rest

/-! ## YAML -/

/-- Read the entries of a mapping, given the names read so far. -/
def yamlMembers (record : Record α) :
    Nat → α → List String → Yaml.Document → Path → Position →
      Except YamlRefusal (α × Position)
  | 0, _, _, _, _, _ => .error (.fault .ended)
  | fuel + 1, value, given, document, path, position =>
      match document.event position.event with
      | .error fault => .error (.fault fault)
      | .ok .mappingEnd =>
          match record.complete value given with
          | .ok value => .ok (value, position.next)
          | .error problem => .error (.problem problem none)
      | .ok event =>
          match (Reader.text "field identifier").yaml document path position with
          | .error refusal => .error refusal
          | .ok (name, behind) =>
              match record.choose given name with
              | .error problem => .error (.problem problem (some path))
              | .ok none =>
                  match yamlSkip (fuelFor document) 0 document behind with
                  | .error refusal => .error refusal
                  | .ok behind => yamlMembers record fuel value given document path behind
              | .ok (some field) =>
                  match field.yaml document (Reader.keyStep event :: path) behind with
                  | .error refusal => .error refusal
                  | .ok (put, behind) =>
                      yamlMembers record fuel (put value) (name :: given) document path behind

/-- The reader of a record. -/
def reader (record : Record α) : Reader α where
  json source
    | .object members ending => jsonMembers record source ending record.blank [] members
    | .array items ending =>
        jsonItems record source ending items.length record.blank 0 record.fields items
    | draft => .error (jsonMismatch draft record.title)
  yaml := followingAlias fun document path position =>
    match document.event position.event with
    | .error fault => .error (.fault fault)
    | .ok .mappingStart =>
        yamlMembers record (fuelFor document) record.blank [] document path position.next
    | .ok event =>
        if isEmptyCollection event then
          match record.complete record.blank [] with
          | .ok value => .ok (value, position.next)
          | .error problem => .error (.problem problem none)
        else .error (yamlMismatch event record.title)

end Record

end PortTunnel.Schema
