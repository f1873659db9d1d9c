import PortTunnel.Schema.Reader

/-!
# Whatever a document holds

Some documents are read in two rounds: first as plain data, and then again from
the data.  As data every scalar has the type that its text has, a mapping has
each key once, and what JSON has no value for is `null`.
-/

namespace PortTunnel.Schema

/-- How deeply collections may be nested. -/
def depthLimit : Nat := 128

/-- A scalar as data. -/
def dataOf : Found → Json.Value
  | .nothing => .null
  | .bool truth => .bool truth
  | .integer number | .wideInteger number => .integer number
  | .real (.finite numeral) => .real numeral
  | .real (.infinite _) | .real .notANumber => .null
  | .text content => .text content
  | .sequence => .array []
  | .map => .object []

/-- Read entries up to the end of a mapping. -/
def dataMembers (reading : YamlReading Json.Value) :
    Nat → List (String × Json.Value) → Yaml.Document → Path → Position →
      Except YamlRefusal (List (String × Json.Value) × Position)
  | 0, members, _, _, position => .ok (members, position)
  | fuel + 1, members, document, path, position =>
      match document.event position.event with
      | .error fault => .error (.fault fault)
      | .ok .mappingEnd => .ok (members, position.next)
      | .ok _ => do
          let (name, behind) ← string.yaml document path position
          if members.any (·.1 == name) then .error (.problem (.duplicateField name) (some path))
          else
            let (value, behind) ← reading document (.key name :: path) behind
            dataMembers reading fuel (members ++ [(name, value)]) document path behind

/-- Read a value as data. -/
def yamlData : Nat → YamlReading Json.Value
  | 0 => fun _ _ _ => .error (.fault .repetition)
  | depth + 1 => followingAlias fun document path position =>
      match document.event position.event with
      | .error fault => .error (.fault fault)
      | .ok (.scalar tag content style) =>
          match Yaml.Scalar.meaning tag content style with
          | .ok found => .ok (dataOf found, position.next)
          | .error problem => .error (.problem problem none)
      | .ok .sequenceStart => do
          let (items, behind) ←
            Reader.yamlItems (yamlData depth) (fuelFor document) 0 document path position.next
          return (.array items, behind)
      | .ok .mappingStart => do
          let (members, behind) ←
            dataMembers (yamlData depth) (fuelFor document) [] document path position.next
          return (.object members, behind)
      | .ok .void => .ok (.null, position.next)
      | .ok (.alias _) | .ok .sequenceEnd | .ok .mappingEnd => .error (.fault .ended)

/-- Whatever a document holds, as data. -/
def Reader.anything : Reader Json.Value where
  json _ draft :=
    match draft.value? with
    | some value => .ok value
    | none => .error (.fault (draft.skipped.getD .malformed))
  yaml := yamlData depthLimit

end PortTunnel.Schema
