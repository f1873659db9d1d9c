import PortTunnel.Proofs.Config.Loading
import PortTunnel.Proofs.Json.Whole
import PortTunnel.Proofs.Schema.Entries
import PortTunnel.Proofs.Schema.Record

/-!
# What a file tells of its version

The root of a file is a map, and one of its keys may be the version.  In both formats the
entries of the map are known from the text, whatever the file is read for.
-/

namespace PortTunnel.Config

open Json (Draft)
open Schema
open Yaml (Document Node)

/-! ## The entries of a file -/

/-- A key and its value, as far as the version of a file goes: the key if it is a text,
and the value if it is a number of 32 bits. -/
abbrev Entry := Option String × Option UInt32

/-- The values of the keys that are called `version`. -/
def versions : List Entry → List (Option UInt32)
  | [] => []
  | (key, value) :: rest => if key = some "version" then value :: versions rest else versions rest

/-- The natural number as one of 32 bits, if it fits. -/
def word32OfNat? (number : Nat) : Option UInt32 :=
  if number < Number.twoTo 32 then some (.ofNat number) else none

/-- The number of 32 bits that a JSON value is. -/
def jsonWord32? : Draft → Option UInt32
  | .integer number => if 0 ≤ number then word32OfNat? number.toNat else none
  | _ => none

/-- The number of 32 bits that a node of a YAML document is or refers to. -/
def yamlWord32? (document : Document) (node : Node) : Option UInt32 :=
  (document.natural? node).bind word32OfNat?

/-- The entries of a JSON object. -/
def jsonEntries (members : List (Option String × Draft)) : List Entry :=
  members.map fun member => (member.1, jsonWord32? member.2)

/-- The entries of a YAML mapping. -/
def yamlEntries (document : Document) (entries : List (Node × Node)) : List Entry :=
  entries.map fun entry => (document.text? entry.1, yamlWord32? document entry.2)

/-- The text is one valid document whose root is a map with the given entries. -/
inductive HoldsMap : Format → String → List Entry → Prop where
  | yaml {text : String} {document : Document} {entries : List (Node × Node)}
      (read : Document.ofText text = (document, false)) (valid : document.fault = none)
      (root : document.Shows 0 (Node.mapping entries).events) :
      HoldsMap .yaml text (yamlEntries document entries)
  | json {text : String} {members : List (Option String × Draft)}
      (read : Draft.ofText text = (.object members none, false))
      (valid : Draft.Whole (.object members none)) :
      HoldsMap .json text (jsonEntries members)

theorem holdsMap_of_shows {text : String} {entries : List (Node × Node)}
    (single : (Document.ofText text).2 = false) (valid : (Document.ofText text).1.fault = none)
    (root : (Document.ofText text).1.Shows 0 (Node.mapping entries).events) :
    HoldsMap .yaml text (yamlEntries (Document.ofText text).1 entries) :=
  .yaml (Prod.ext rfl single) valid root

/-- The text is one valid document with the given entries.  A document without content has
none, and in a JSON array the values of the fields stand in their order. -/
inductive Holds : Format → String → List Entry → Prop where
  | map {format : Format} {text : String} {entries : List Entry}
      (holds : HoldsMap format text entries) : Holds format text entries
  | nothing {text : String} {document : Document} {event : Yaml.Event}
      (read : Document.ofText text = (document, false)) (valid : document.fault = none)
      (root : document.event 0 = .ok event) (empty : isEmptyCollection event = true) :
      Holds .yaml text []
  | array {text : String} {items : List Draft}
      (read : Draft.ofText text = (.array items none, false))
      (valid : Draft.Whole (.array items none)) :
      Holds .json text (jsonEntries ((record.names.map some).zip items))

/-- A text has only the entries that it has. -/
theorem Holds.unique {format : Format} {text : String} {entries others : List Entry}
    (holds : Holds format text entries) (holds' : Holds format text others) : entries = others := by
  cases holds with
  | map first =>
      cases first with
      | yaml read valid root =>
          cases holds' with
          | map second =>
              cases second with
              | yaml read' valid' root' =>
                  obtain ⟨rfl, -⟩ := Prod.mk.inj (read.symm.trans read')
                  obtain rfl := Node.mapping.inj (root.unique root')
                  rfl
          | nothing read' valid' root' empty =>
              obtain ⟨rfl, -⟩ := Prod.mk.inj (read.symm.trans read')
              obtain rfl := Except.ok.inj (root.event.symm.trans root')
              cases empty
      | json read valid =>
          cases holds' with
          | map second =>
              cases second with
              | json read' valid' =>
                  obtain ⟨same, -⟩ := Prod.mk.inj (read.symm.trans read')
                  obtain ⟨rfl, -⟩ := Draft.object.inj same
                  rfl
          | array read' valid' =>
              obtain ⟨same, -⟩ := Prod.mk.inj (read.symm.trans read')
              cases same
  | nothing read valid root empty =>
      cases holds' with
      | map second =>
          cases second with
          | yaml read' valid' root' =>
              obtain ⟨rfl, -⟩ := Prod.mk.inj (read.symm.trans read')
              obtain rfl := Except.ok.inj (root'.event.symm.trans root)
              cases empty
      | nothing => rfl
  | array read valid =>
      cases holds' with
      | map second =>
          cases second with
          | json read' valid' =>
              obtain ⟨same, -⟩ := Prod.mk.inj (read.symm.trans read')
              cases same
      | array read' valid' =>
          obtain ⟨same, -⟩ := Prod.mk.inj (read.symm.trans read')
          obtain ⟨rfl, -⟩ := Draft.array.inj same
          rfl

/-! ## Settling a version -/

theorem versions_version (value : Option UInt32) (rest : List Entry) :
    versions ((some "version", value) :: rest) = value :: versions rest := by
  simp [versions]

theorem versions_other {key : Option String} (other : key ≠ some "version")
    (value : Option UInt32) (rest : List Entry) :
    versions ((key, value) :: rest) = versions rest := by
  simp [versions, other]

/-- The entries are those of a file that settles a version: it is told once, unless it was given
before, or not at all. -/
def Settles (given : List String) (before : UInt32) (entries : List Entry) (version : UInt32) :
    Prop :=
  versions entries = [] ∧ version = before ∨
    versions entries = [some version] ∧ "version" ∉ given

variable {given : List String} {before version : UInt32} {rest : List Entry}

theorem settles_nil_iff : Settles given before [] version ↔ version = before := by
  simp [Settles, versions]

theorem settles_version_iff {value : Option UInt32} :
    Settles given before ((some "version", value) :: rest) version ↔
      value = some version ∧ "version" ∉ given ∧ versions rest = [] := by
  simp [Settles, versions_version, and_comm, and_left_comm]

theorem settles_other_iff {key : String} (other : key ≠ "version") {value : Option UInt32} :
    Settles given before ((some key, value) :: rest) version ↔
      Settles given before rest version := by
  have different : some key ≠ some "version" := by simpa using other
  simp [Settles, versions_other different]

theorem settles_given_other_iff {key : String} (other : key ≠ "version") :
    Settles (key :: given) before rest version ↔ Settles given before rest version := by
  simp [Settles, Ne.symm other]

theorem settles_given_iff :
    Settles ("version" :: given) before rest version ↔ versions rest = [] ∧ version = before := by
  simp [Settles]

/-- A file that settles its version does so with one more entry: the one for the version, or one
that leaves it alone. -/
theorem Settles.cons {name : String} {value : Option UInt32} {after : UInt32}
    (settled : Settles (name :: given) after rest version) (fresh : name ∉ given)
    (told : name = "version" → value = some after) (kept : name ≠ "version" → after = before) :
    Settles given before ((some name, value) :: rest) version := by
  by_cases isVersion : name = "version"
  · subst isVersion
    obtain ⟨once, rfl⟩ := settles_given_iff.1 settled
    exact settles_version_iff.2 ⟨told rfl, fresh, once⟩
  · rw [kept isVersion] at settled
    exact (settles_other_iff isVersion).2 ((settles_given_other_iff isVersion).1 settled)

/-! ## Reading the version -/

/-- The field for the version, in both readings. -/
theorem field?_version :
    record.field? "version" = some (.of "version" false word32 fun value config =>
        { config with version := value }) ∧
      versionRecord.field? "version" = some (.of "version" false word32 fun value _ => value) := by
  simp [record, versionRecord, Record.field?, RecordField.of]

theorem field?_versionRecord {name : String} (other : name ≠ "version") :
    versionRecord.field? name = none := by
  simp [versionRecord, Record.field?, RecordField.of, Ne.symm other]

theorem strict_versionRecord : versionRecord.strict = false :=
  rfl

theorem missing?_versionRecord : versionRecord.missing? given = none := by
  simp [versionRecord, Record.missing?, RecordField.of]

theorem json_word32_eq_ok_iff {source : JsonSource} {draft : Draft} {number : UInt32} :
    word32.json source draft = .ok number ↔ jsonWord32? draft = some number := by
  cases draft with
  | integer whole =>
      by_cases natural : 0 ≤ whole
      · obtain ⟨amount, rfl⟩ := Int.eq_ofNat_of_zero_le natural
        by_cases fits : amount < Number.twoTo 32 <;>
          simp [word32, Reader.map, Reader.unsigned, map_eq_ok_iff, jsonWord32?, word32OfNat?, fits]
      · simp [word32, Reader.map, Reader.unsigned, map_eq_ok_iff, jsonWord32?, natural]
  | _ => simp [word32, Reader.map, Reader.unsigned, map_eq_ok_iff, jsonWord32?]

theorem yaml_word32_eq_ok_iff {document : Document} {path : Path} {position behind : Position}
    {node : Node} {number : UInt32} (shown : document.Shows position.event node.events) :
    word32.yaml document path position = .ok (number, behind) ↔
      yamlWord32? document node = some number ∧ behind = position.past node ∧
        ∀ anchor, node = .alias anchor → position.jumps < document.events.size * 100 := by
  rw [word32, Reader.yaml_map_eq_ok_iff]
  simp only [Reader.yaml_unsigned_eq_ok_iff shown, yamlWord32?, Option.bind_eq_some_iff,
    word32OfNat?, Option.ite_none_right_eq_some, Option.some.injEq]
  constructor
  · rintro ⟨amount, ⟨⟨found, fits⟩, landed, few⟩, same⟩
    exact ⟨⟨amount, found, fits, same⟩, landed, few⟩
  · rintro ⟨⟨amount, found, fits, same⟩, landed, few⟩
    exact ⟨amount, ⟨⟨found, fits⟩, landed, few⟩, same⟩

theorem whole_of_jsonWord32? {draft : Draft} {number : UInt32}
    (found : jsonWord32? draft = some number) : draft.Whole := by
  cases draft with
  | integer whole => exact .integer whole
  | _ => cases found

/-- Fields other than the version leave it alone. -/
theorem version_of_other_field {name : String} {field : RecordField Config}
    (found : record.field? name = some field) (other : name ≠ "version") (config : Config) :
    (∀ {source draft change}, field.json source draft = .ok change →
        (change config).version = config.version) ∧
      ∀ {document path position change behind},
        field.yaml document path position = .ok (change, behind) →
          (change config).version = config.version := by
  have isField : field.name = name := by simpa using List.find?_some found
  have member := List.mem_of_find?_eq_some found
  simp only [record, List.mem_cons, List.not_mem_nil, or_false] at member
  rcases member with rfl | rfl | rfl | rfl
  · exact absurd isField.symm other
  all_goals
    constructor
    · intro source draft change read
      obtain ⟨part, -, rfl⟩ := RecordField.json_of_eq_ok_iff.1 read
      rfl
    · intro document path position change behind read
      obtain ⟨part, -, rfl⟩ := RecordField.yaml_of_eq_ok_iff.1 read
      rfl

/-- The version after a field has been read from a JSON value. -/
theorem version_of_json {name : String} {field : RecordField Config}
    (found : record.field? name = some field) {source : JsonSource} {draft : Draft}
    {change : Config → Config} (read : field.json source draft = .ok change) (config : Config) :
    (name = "version" → jsonWord32? draft = some (change config).version) ∧
      (name ≠ "version" → (change config).version = config.version) := by
  constructor
  · rintro rfl
    obtain rfl := Option.some.inj (field?_version.1.symm.trans found)
    obtain ⟨value, readValue, rfl⟩ := RecordField.json_of_eq_ok_iff.1 read
    exact json_word32_eq_ok_iff.1 readValue
  · exact fun other => (version_of_other_field found other config).1 read

/-- The version after a field has been read where a node stands. -/
theorem version_of_yaml {name : String} {field : RecordField Config}
    (found : record.field? name = some field) {document : Document} {path : Path}
    {position behind : Position} {node : Node}
    (shown : document.Shows position.event node.events) {change : Config → Config}
    (read : field.yaml document path position = .ok (change, behind)) (config : Config) :
    (name = "version" → yamlWord32? document node = some (change config).version) ∧
      (name ≠ "version" → (change config).version = config.version) := by
  constructor
  · rintro rfl
    obtain rfl := Option.some.inj (field?_version.1.symm.trans found)
    obtain ⟨value, readValue, rfl⟩ := RecordField.yaml_of_eq_ok_iff.1 read
    exact ((yaml_word32_eq_ok_iff shown).1 readValue).1
  · exact fun other => (version_of_other_field found other config).2 read

end PortTunnel.Config
