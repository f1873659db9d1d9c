import PortTunnel.Proofs.Config.Layout
import PortTunnel.Proofs.Config.Version
import PortTunnel.Proofs.Schema.Strictness

/-!
# Misspelt keys

The objects of a configuration file stand for records of seven kinds, and the
relation `Stands` tells where in a document the objects of each kind stand.  All
kinds are strict.  The reading of the version alone passes over members that it
does not know; so it comes to the same with a member more in any of these objects,
and the reading in full refuses that member: a key that is misspelt is told, and
never passed over in silence.
-/

namespace PortTunnel.Config

open Json (Draft Exact Value)
open Schema

/-! ## The kinds of records -/

/-- The kinds of records that a configuration file is made of. -/
inductive Part where
  | file
  | settings
  | defaults
  | environment
  | space
  | declaration
  | pair

/-- What is read from an object of each kind. -/
def Part.Content : Part → Type
  | file => Config
  | settings => Settings
  | defaults => Target
  | environment => Environment
  | space => List Declaration
  | declaration => Declaration
  | pair => PortPair

/-- The record of each kind. -/
def Part.record : (part : Part) → Record part.Content
  | file => Config.record
  | settings => Settings.record
  | defaults => Target.record
  | environment => Environment.record
  | space => namespaceRecord
  | declaration => Declaration.record
  | pair => PortPair.record

/-- How records of one kind stand in a field: one, or several in a sequence or a map. -/
inductive Holding where
  | one (part : Part)
  | listed (part : Part)
  | keyed (part : Part)

/-- What is read from a field that holds records. -/
def Holding.Content : Holding → Type
  | one part => part.Content
  | listed part => List part.Content
  | keyed part => NameMap part.Content

/-- The reader of a field that holds records. -/
def Holding.reader : (holding : Holding) → Reader holding.Content
  | one part => part.record.reader
  | listed part => part.record.reader.list
  | keyed part => part.record.reader.keyed

/-- The fields that hold records. -/
inductive Part.Holds : Part → String → Holding → Prop where
  | settings : Holds file "settings" (.one settings)
  | defaults : Holds file "defaults" (.one defaults)
  | environments : Holds file "environments" (.keyed environment)
  | namespaces : Holds environment "namespaces" (.keyed space)
  | forwards : Holds space "forwards" (.listed declaration)
  | ports : Holds declaration "ports" (.listed pair)

theorem Part.strict_record (part : Part) : part.record.strict = true := by
  cases part <;> rfl

theorem Part.nodup_names (part : Part) : part.record.names.Nodup := by
  cases part <;> decide

theorem Part.Holds.field? {part : Part} {name : String} {holding : Holding}
    (holds : part.Holds name holding) :
    ∃ required put, part.record.field? name = some (.of name required holding.reader put) := by
  cases holds <;> exact ⟨_, _, rfl⟩

/-! ## Where records stand -/

/-- What stands around an object for a `site` in a document that is read as a holding: the
function puts the object into the document. -/
inductive Stands (site : Part) : Holding → (Draft → Draft) → Prop where
  | here : Stands site (.one site) id
  | member {part : Part} {name : String} {holding : Holding} {around : Draft → Draft}
      {before after : List (Option String × Draft)} (holds : part.Holds name holding)
      (inside : Stands site holding around) :
      Stands site (.one part) fun draft =>
        .object (before ++ (some name, around draft) :: after) none
  | item {part : Part} {name : String} {holding : Holding} {around : Draft → Draft}
      {before after : List Draft} (holds : part.Holds name holding)
      (isAt : part.record.names[before.length]? = some name)
      (inside : Stands site holding around) :
      Stands site (.one part) fun draft => .array (before ++ around draft :: after) none
  | listed {part : Part} {around : Draft → Draft} {before after : List Draft}
      (inside : Stands site (.one part) around) :
      Stands site (.listed part) fun draft => .array (before ++ around draft :: after) none
  | keyed {part : Part} {name : String} {around : Draft → Draft}
      {before after : List (Option String × Draft)} (inside : Stands site (.one part) around) :
      Stands site (.keyed part) fun draft =>
        .object (before ++ (some name, around draft) :: after) none

variable {site : Part} {around : Draft → Draft}

/-- What the record of an object refuses is refused by the reader of the document. -/
theorem Stands.relays {holding : Holding} (stands : Stands site holding around) :
    Relays holding.reader site.record.reader around := by
  induction stands with
  | here => exact relays_id _
  | @member part name holding around before after holds inside ih =>
      obtain ⟨required, put, known⟩ := holds.field?
      exact (relays_member known before after).comp ih
  | @item part name holding around before after holds isAt inside ih =>
      obtain ⟨required, put, known⟩ := holds.field?
      have isField := Record.getElem?_fields_of_field? part.nodup_names isAt known
      exact (relays_item before after isField).comp ih
  | @listed part around before after inside ih =>
      exact (relays_list part.record.reader before after).comp ih
  | @keyed part name around before after inside ih =>
      exact (relays_keyed part.record.reader (some name) before after).comp ih

/-! ## A member more -/

section MemberMore

variable {before after : List (Option String × Draft)} {name : String} {value : Draft}

/-- The reading in full refuses a member that is not known. -/
theorem Stands.refused {config : Config} (stands : Stands site (.one .file) around)
    (unknown : name ∉ site.record.names)
    (read : record.reader.json .document (around (.object (before ++ after) none)) = .ok config) :
    record.reader.json .document (around (.object (before ++ (some name, value) :: after) none)) =
      .error (.problem (.unknownField name site.record.names)) := by
  obtain ⟨⟨part, readPart⟩, relayed⟩ := stands.relays _ config read
  exact relayed _ _ (Record.jsonMembers_insert_of_strict site.strict_record unknown readPart)

theorem Part.Holds.not_mem_versionRecord {holding : Holding} (holds : Part.file.Holds name holding) :
    name ∉ versionRecord.names := by
  cases holds <;> decide

/-- The reading of the version alone passes over a member that is not known. -/
theorem Stands.probed {version : UInt32} (stands : Stands site (.one .file) around)
    (unknown : name ∉ site.record.names)
    (whole : (around (.object (before ++ after) none)).Whole)
    (whole' : (around (.object (before ++ (some name, value) :: after) none)).Whole)
    (read : versionRecord.reader.json .document (around (.object (before ++ after) none)) =
      .ok version) :
    versionRecord.reader.json .document
      (around (.object (before ++ (some name, value) :: after) none)) = .ok version := by
  cases stands with
  | here =>
      have isOther : name ∉ versionRecord.names := by
        intro isVersion
        obtain rfl := List.mem_singleton.1 isVersion
        exact unknown List.mem_cons_self
      have skipped : value.skipped = none :=
        Draft.skipped_eq_none_iff.2 ((Draft.whole_object_iff.1 whole').1 (some name, value) (by simp))
      exact (Record.jsonMembers_insert_of_lenient rfl isOther skipped).trans read
  | @member part field holding around before' after' holds inside =>
      have skipped {draft : Draft}
          (whole : (Draft.object (before' ++ (some field, draft) :: after') none).Whole) :
          draft.skipped = none :=
        Draft.skipped_eq_none_iff.2 ((Draft.whole_object_iff.1 whole).1 (some field, draft) (by simp))
      have isOther := holds.not_mem_versionRecord
      have without := (Record.jsonMembers_insert_of_lenient rfl isOther (skipped whole)).symm.trans read
      exact (Record.jsonMembers_insert_of_lenient rfl isOther (skipped whole')).trans without
  | @item part field holding around before' after' holds isAt inside =>
      -- An array of more than the version is refused by the reading of the version alone.
      have few := Record.length_le_of_jsonItems read
      have first : before'.length = 0 := by
        simp only [List.length_append, List.length_cons, versionRecord, List.length_nil] at few
        omega
      rw [first] at isAt
      obtain rfl := Option.some.inj isAt
      exact absurd List.mem_cons_self holds.not_mem_versionRecord

end MemberMore

/-- What is loaded is a document of the grammar. -/
theorem exists_isDocument_of_ofText {text : String} {config : Config}
    (accepted : ofText .json text = .ok config) : ∃ draft, Draft.IsDocument draft text := by
  obtain ⟨entries, holds, -⟩ := exists_holds_of_ofText accepted
  cases holds with
  | map holds =>
      cases holds with
      | json read whole => exact ⟨_, Draft.ofText_eq_iff_isDocument.1 ⟨whole, read⟩⟩
  | array read whole => exact ⟨_, Draft.ofText_eq_iff_isDocument.1 ⟨whole, read⟩⟩

/-- Every text of a configuration file that is loaded is a document of the grammar.  With one
member more in any object that stands for a record, whose name is no field of the record and
whose value is any, loading fails, and the failure tells the name. -/
theorem misspelt_key_told {path text : String} {file : File} {config : Config}
    (isJson : Format.ofPath path = .json) (readable : file.text? = .ok text)
    (loaded : load path file = .ok config) :
    (∃ draft, Draft.IsDocument draft text) ∧
      ∀ (site : Part) (around : Draft → Draft) (before after : List (Option String × Draft)),
        Stands site (.one .file) around →
        Draft.IsDocument (around (.object (before ++ after) none)) text →
          ∀ (name : String) (value : Draft) (text' : String) (file' : File),
            name ∉ site.record.names →
            Draft.IsDocument (around (.object (before ++ (some name, value) :: after) none)) text' →
            file'.text? = .ok text' →
              load path file' =
                .error (.jsonProblem (.unknownField name site.record.names)) := by
  rw [load_of_text readable, isJson] at loaded
  obtain ⟨version, probed, understood, read⟩ := ofText_eq_ok_iff.1 loaded
  rw [decode, ofJson_eq_ok_iff] at probed read
  refine ⟨exists_isDocument_of_ofText loaded, ?_⟩
  intro site around before after stands document name value text' file' unknown document' readable'
  obtain ⟨whole, parsed⟩ := Draft.ofText_eq_iff_isDocument.2 document
  obtain ⟨whole', parsed'⟩ := Draft.ofText_eq_iff_isDocument.2 document'
  rw [parsed] at probed read
  have probed' : decode .json versionRecord.reader text' = .ok version := by
    rw [decode, ofJson_eq_ok_iff, parsed']
    exact ⟨stands.probed unknown whole whole' probed.1, rfl⟩
  have refused : decode .json record.reader text' =
      .error (.jsonProblem (.unknownField name site.record.names)) := by
    rw [decode, ofJson, parsed']
    simp only [stands.refused unknown read.1]
  rw [load_of_text readable', isJson, ofText, probed']
  simp [bind, Except.bind, UInt32.not_lt.2 understood, refused]

/-! ## A misspelt address -/

/-- A file that declares one forward, with an entry for its ports. -/
def fileWith (entry : Value) : Value :=
  .object
    [("environments", .object [("dev", .object [("namespaces", .object [("web", .object
      [("forwards", .array [.array [.text "pod", .text "api", .null, .array [entry]]])])])])])]

/-- What stands around the entry in that file. -/
def aroundEntry (entry : Draft) : Draft :=
  .object
    [(some "environments", .object [(some "dev", .object [(some "namespaces", .object
      [(some "web", .object [(some "forwards", .array
        [.array [.text "pod", .text "api", .null, .array [entry] none] none] none)]
          none)] none)] none)] none)] none

theorem exact_fileWith {entry : Value} (exact : Exact entry) : Exact (fileWith entry) := by
  have forward : Exact (.array [.text "pod", .text "api", .null, .array [entry]]) := by
    apply Exact.array
    simp only [List.forall_mem_cons]
    exact ⟨.text _, .text _, .null, .array (List.forall_mem_singleton.2 exact),
      List.forall_mem_nil _⟩
  have inside (name : String) {value : Value} (exact : Exact value) :
      Exact (.object [(name, value)]) :=
    .object (List.forall_mem_singleton.2 exact)
  exact inside _ (inside _ (inside _ (inside _ (inside _
    (.array (List.forall_mem_singleton.2 forward))))))

theorem stands_aroundEntry : Stands .pair (.one .file) aroundEntry := by
  refine @Stands.member _ _ "environments" _ _ [] [] .environments ?_
  refine @Stands.keyed _ _ "dev" _ [] [] ?_
  refine @Stands.member _ _ "namespaces" _ _ [] [] .namespaces ?_
  refine @Stands.keyed _ _ "web" _ [] [] ?_
  refine @Stands.member _ _ "forwards" _ _ [] [] .forwards ?_
  refine @Stands.listed _ _ _ [] [] ?_
  refine @Stands.item _ _ "ports" _ _ [.text "pod", .text "api", .null] [] .ports rfl ?_
  refine @Stands.listed _ _ _ [] [] ?_
  exact .here

/-- The entry as it is meant. -/
def plainEntry : Value :=
  .object [("localPort", naturalJson 8080), ("remotePort", naturalJson 80)]

/-- The entry with an address under a misspelt key. -/
def misspeltEntry : Value :=
  .object
    [("localPort", naturalJson 8080), ("bindAdress", .text "0.0.0.0"),
      ("remotePort", naturalJson 80)]

/-- The configuration of the file as it is meant. -/
def plainConfig : Config where
  environments := .ofList
    [("dev",
      { namespaces := .ofList
          [("web", [{ kind := "pod", name := "api", ports := [⟨8080, 80, none⟩] }])] })]

theorem misspelt_address_told :
    load "tunnel.json" (.bytes (fileWith plainEntry).compact.toUTF8) = .ok plainConfig ∧
      load "tunnel.json" (.bytes (fileWith misspeltEntry).pretty.toUTF8) =
        .error (.jsonProblem
          (.unknownField "bindAdress" ["localPort", "remotePort", "bindAddress"])) := by
  have loaded : load "tunnel.json" (.bytes (fileWith plainEntry).compact.toUTF8) =
      .ok plainConfig := by
    rw [load_bytes]
    decide +kernel
  have exactPlain : Exact plainEntry := by
    apply Exact.object
    simp only [List.forall_mem_cons]
    exact ⟨exact_naturalJson (by decide), exact_naturalJson (by decide), List.forall_mem_nil _⟩
  have exactMisspelt : Exact misspeltEntry := by
    apply Exact.object
    simp only [List.forall_mem_cons]
    exact ⟨exact_naturalJson (by decide), .text _, exact_naturalJson (by decide),
      List.forall_mem_nil _⟩
  refine ⟨loaded, ?_⟩
  exact (misspelt_key_told rfl (text?_bytes _) loaded).2 .pair aroundEntry
    [(some "localPort", .integer 8080)] [(some "remotePort", .integer 80)] stands_aroundEntry
    (Draft.isDocument_of_isPrinted (exact_fileWith exactPlain) (.inl rfl))
    "bindAdress" (.text "0.0.0.0") _ _ (by decide)
    (Draft.isDocument_of_isPrinted (exact_fileWith exactMisspelt) (.inr rfl)) (text?_bytes _)

end PortTunnel.Config
