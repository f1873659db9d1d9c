import PortTunnel.Proofs.Config.Entries
import PortTunnel.Proofs.Config.Landing

/-!
# The version of a file

A file is read twice, once for its version alone and once in full, with different
defaults for a version that is not told.  The first reading passes over all that it does
not know, as long as the keys of the file are texts; so a file of a newer format is
called that, whatever else it holds, exactly if all its keys are.  Of every file that is
accepted the two readings find the same version, or none.
-/

namespace PortTunnel.Config

open Json (Draft)
open Schema
open Yaml (Document Node)

variable {given : List String} {before version : UInt32}

/-! ## The reading in full -/

/-- What is read in full from an object settles its version, and all its keys are texts. -/
theorem settles_of_jsonMembers {source : JsonSource} {ending : Option Json.Breakage}
    {members : List (Option String × Draft)} {before config : Config}
    (read : record.jsonMembers source ending before given members = .ok config) :
    (∀ entry ∈ jsonEntries members, entry.1 ≠ none) ∧
      Settles given before.version (jsonEntries members) config.version := by
  induction members generalizing before given with
  | nil =>
      obtain ⟨-, -, rfl⟩ := Record.jsonMembers_nil_eq_ok_iff.1 read
      exact ⟨nofun, settles_nil_iff.2 rfl⟩
  | cons member members ih =>
      obtain ⟨key, draft⟩ := member
      rcases Record.jsonMembers_cons_eq_ok_iff.1 read with
        ⟨name, rfl, ⟨-, lenient, -⟩ | ⟨field, change, found, fresh, readHere, readRest⟩⟩
      · exact absurd lenient (by decide)
      obtain ⟨texts, settled⟩ := ih readRest
      have isText : (some name, jsonWord32? draft).1 ≠ none := Option.some_ne_none name
      have told := version_of_json found readHere before
      exact ⟨List.forall_mem_cons.2 ⟨isText, texts⟩, settled.cons fresh told.1 told.2⟩

/-- What is read in full from a mapping settles its version, and all its keys are texts. -/
theorem settles_of_gathers {document : Document} {entries : List (Node × Node)}
    {before config : Config} (gathers : record.Gathers document given before entries config) :
    (∀ entry ∈ yamlEntries document entries, entry.1 ≠ none) ∧
      Settles given before.version (yamlEntries document entries) config.version := by
  induction gathers with
  | done => exact ⟨nofun, settles_nil_iff.2 rfl⟩
  | @entry given before config key content entries name field change path position behind
      named found fresh passes readHere rest ih =>
      obtain ⟨texts, settled⟩ := ih
      have told := version_of_yaml found passes.shown readHere before
      rw [yamlEntries, List.map_cons, named]
      exact ⟨List.forall_mem_cons.2 ⟨Option.some_ne_none name, texts⟩,
        settled.cons fresh told.1 told.2⟩

/-! ## The reading of the version alone -/

/-- The version that an object settles is found if no key of the object holds a lone
surrogate. -/
theorem probe_of_members {source : JsonSource} {members : List (Option String × Draft)}
    (whole : ∀ member ∈ members, member.2.Whole)
    (settled : Settles given before (jsonEntries members) version) :
    versionRecord.jsonMembers source none before given members = .ok version ↔
      ∀ entry ∈ jsonEntries members, entry.1 ≠ none := by
  induction members generalizing before given with
  | nil =>
      obtain rfl := settles_nil_iff.1 settled
      exact iff_of_true
        (Record.jsonMembers_nil_eq_ok_iff.2 ⟨rfl, missing?_versionRecord, rfl⟩) nofun
  | cons member members ih =>
      obtain ⟨key, draft⟩ := member
      obtain ⟨here, later⟩ := List.forall_mem_cons.1 whole
      rw [jsonEntries, List.map_cons, List.forall_mem_cons]
      cases key with
      | none => simp [Record.jsonMembers]
      | some name =>
          rw [and_iff_right (Option.some_ne_none name)]
          by_cases isVersion : name = "version"
          · subst isVersion
            obtain ⟨found, fresh, once⟩ := settles_version_iff.1 settled
            have readHere : word32.json source draft = .ok version := json_word32_eq_ok_iff.2 found
            have step : versionRecord.jsonMembers source none before given
                  ((some "version", draft) :: members) = .ok version ↔
                versionRecord.jsonMembers source none version ("version" :: given) members =
                  .ok version := by
              simp [Record.jsonMembers_cons_eq_ok_iff, field?_version.2,
                RecordField.json_of_eq_ok_iff, fresh, readHere]
            exact step.trans (ih later (settles_given_iff.2 ⟨once, rfl⟩))
          · have step : versionRecord.jsonMembers source none before given
                  ((some name, draft) :: members) = .ok version ↔
                versionRecord.jsonMembers source none before given members = .ok version := by
              simp [Record.jsonMembers_cons_eq_ok_iff, field?_versionRecord isVersion,
                Draft.skipped_eq_none_iff.2 here, strict_versionRecord]
            exact step.trans (ih later ((settles_other_iff isVersion).1 settled))

section Probe

variable {document : Document} {path : Path} {fuel : Nat} {position behind : Position}
  {key content : Node}

/-- No version is found where a key is no text. -/
theorem probe_of_strange_key (keyShown : document.Shows position.event key.events)
    (strange : document.text? key = none) :
    versionRecord.yamlMembers (fuel + 1) before given document path position ≠
      .ok (version, behind) := by
  intro read
  obtain ⟨name, middle, readName⟩ :=
    Record.exists_name_of_yamlMembers keyShown.event key.start_ne_mappingEnd read
  have named := ((Reader.yaml_text_eq_ok_iff keyShown).1 readName).1
  rw [strange] at named
  cases named

theorem read_key {name : String} (keyShown : document.Shows position.event key.events)
    (few : position.jumps ≤ position.event) (named : document.text? key = some name) :
    (Reader.text "field identifier").yaml document path position =
      .ok (name, position.past key) := by
  apply (Reader.yaml_text_eq_ok_iff keyShown).2
  exact ⟨named, rfl, fun _ _ => Position.jumps_lt few keyShown.event⟩

/-- The entry for the version is read. -/
theorem probe_of_version {number : UInt32} (keyShown : document.Shows position.event key.events)
    (contentShown : document.Shows (position.past key).event content.events)
    (few : position.jumps ≤ position.event) (named : document.text? key = some "version")
    (fresh : "version" ∉ given) (told : yamlWord32? document content = some number) :
    versionRecord.yamlMembers (fuel + 1) before given document path position =
        .ok (version, behind) ↔
      versionRecord.yamlMembers fuel number ("version" :: given) document path
        ((position.past key).past content) = .ok (version, behind) := by
  have fewBehind := Position.jumps_lt (Position.past_jumps_le few) contentShown.event
  have readHere : ∀ path, (RecordField.of "version" false word32
        fun (value : UInt32) _ => value).yaml document path (position.past key) =
      .ok (fun _ => number, (position.past key).past content) := by
    intro path
    apply RecordField.yaml_of_eq_ok_iff.2
    exact ⟨number, (yaml_word32_eq_ok_iff contentShown).2 ⟨told, rfl, fun _ _ => fewBehind⟩, rfl⟩
  rw [Record.yamlMembers_eq_ok_iff_of_named keyShown.event key.start_ne_mappingEnd
    (read_key keyShown few named)]
  simp [field?_version.2, fresh, readHere, and_assoc]

/-- Any other entry is passed over, whatever its value is. -/
theorem probe_of_other {name : String} (keyShown : document.Shows position.event key.events)
    (contentShown : document.Shows (position.past key).event content.events)
    (few : position.jumps ≤ position.event) (within : position.event ≤ document.events.size)
    (named : document.text? key = some name) (other : name ≠ "version") :
    versionRecord.yamlMembers (fuel + 1) before given document path position =
        .ok (version, behind) ↔
      versionRecord.yamlMembers fuel before given document path
        ((position.past key).over content) = .ok (version, behind) := by
  have skipped := yamlSkip_of_shows contentShown (keyShown.le_size within)
  rw [Record.yamlMembers_eq_ok_iff_of_named keyShown.event key.start_ne_mappingEnd
    (read_key keyShown few named)]
  simp [field?_versionRecord other, strict_versionRecord, skipped]

/-- The version that a mapping settles is found if all keys of the mapping are texts. -/
theorem probe_of_entries {entries : List (Node × Node)}
    (shown : document.Shows position.event (Node.entriesEvents entries ++ [.mappingEnd]))
    (covered : position.Covered document fuel) (few : position.jumps ≤ position.event)
    (settled : Settles given before (yamlEntries document entries) version) :
    (∃ behind, versionRecord.yamlMembers fuel before given document path position =
        .ok (version, behind)) ↔
      ∀ entry ∈ yamlEntries document entries, entry.1 ≠ none := by
  induction entries generalizing fuel before given position with
  | nil =>
      have found := (Document.shows_cons.1 shown).1
      obtain rfl := settles_nil_iff.1 settled
      cases fuel with
      | zero => exact absurd covered Position.not_covered_zero
      | succ fuel =>
          exact iff_of_true ⟨_, (Record.yamlMembers_eq_ok_iff_of_end found).2
            ⟨missing?_versionRecord, rfl, rfl⟩⟩ nofun
  | cons entry entries ih =>
      obtain ⟨key, content⟩ := entry
      rw [Node.entriesEvents, List.append_assoc, List.append_assoc] at shown
      obtain ⟨keyShown, shown⟩ := Document.shows_append.1 shown
      obtain ⟨contentShown, shown⟩ := Document.shows_append.1 shown
      change document.Shows (position.past key).event content.events at contentShown
      have keyPassed := Position.passes_past keyShown
      have fewBehind : (position.past key).jumps ≤ (position.past key).event :=
        Position.past_jumps_le few
      rw [yamlEntries, List.map_cons] at settled
      rw [yamlEntries, List.map_cons, List.forall_mem_cons]
      cases fuel with
      | zero => exact absurd covered Position.not_covered_zero
      | succ fuel =>
          cases named : document.text? key with
          | none =>
              apply iff_of_false
              · rintro ⟨behind, read⟩
                exact probe_of_strange_key keyShown named read
              · exact fun texts => texts.1 rfl
          | some name =>
              rw [named] at settled
              rw [and_iff_right (Option.some_ne_none name)]
              by_cases isVersion : name = "version"
              · subst isVersion
                obtain ⟨told, fresh, once⟩ := settles_version_iff.1 settled
                rw [exists_congr fun behind =>
                  probe_of_version keyShown contentShown few named fresh told]
                exact ih shown (covered.entry keyPassed (Position.passes_past contentShown))
                  (Position.past_jumps_le fewBehind) (settles_given_iff.2 ⟨once, rfl⟩)
              · rw [exists_congr fun behind =>
                  probe_of_other keyShown contentShown few covered.within named isVersion]
                exact ih shown (covered.entry keyPassed (Position.passes_over contentShown))
                  (Nat.le_trans fewBehind (Nat.le_add_right _ _))
                  ((settles_other_iff isVersion).1 settled)

end Probe

/-- A text whose root is a map has the version read that it settles, if all its keys are
texts. -/
theorem probe_of_holdsMap {format : Format} {text : String} {entries : List Entry}
    (holds : HoldsMap format text entries)
    (settled : Settles [] versionRecord.blank entries version) :
    decode format versionRecord.reader text = .ok version ↔
      ∀ entry ∈ entries, entry.1 ≠ none := by
  cases holds with
  | @yaml _ document entries read valid root =>
      let start : Position := ⟨0, 0⟩
      have found : document.event start.event = .ok .mappingStart := root.event
      have inside : (∃ behind, versionRecord.yamlMembers (fuelFor document) versionRecord.blank []
            document [] start.next = .ok (version, behind)) ↔
          ∀ entry ∈ yamlEntries document entries, entry.1 ≠ none :=
        probe_of_entries root.2 (Position.covered_next found) (Nat.zero_le _) settled
      rw [decode, ofYaml_eq_ok_iff, read, and_iff_left ⟨valid, rfl⟩, ← inside]
      apply exists_congr
      intro behind
      rw [Record.reader, followingAlias_eq_ok_iff found (by simp)]
      simp only [found]
  | @json _ members read valid =>
      have inside : versionRecord.jsonMembers .document none versionRecord.blank [] members =
            .ok version ↔ ∀ entry ∈ jsonEntries members, entry.1 ≠ none :=
        probe_of_members (Draft.whole_object_iff.1 valid).1 settled
      rw [decode, ofJson_eq_ok_iff, read, and_iff_left rfl, ← inside]
      rfl

/-- An object whose version is read is whole. -/
theorem whole_of_jsonMembers {source : JsonSource} {members : List (Option String × Draft)}
    {ending : Option Json.Breakage}
    (probed : versionRecord.jsonMembers source ending before given members = .ok version) :
    Draft.Whole (.object members ending) := by
  rw [Draft.whole_object_iff]
  induction members generalizing before given with
  | nil =>
      obtain ⟨ended, -⟩ := Record.jsonMembers_nil_eq_ok_iff.1 probed
      exact ⟨List.forall_mem_nil _, ended⟩
  | cons member members ih =>
      obtain ⟨key, draft⟩ := member
      rw [List.forall_mem_cons]
      rcases Record.jsonMembers_cons_eq_ok_iff.1 probed with
        ⟨name, rfl, ⟨-, -, skipped, probedRest⟩ | ⟨field, change, found, -, probedHere, probedRest⟩⟩
      · obtain ⟨each, ended⟩ := ih probedRest
        exact ⟨⟨Draft.skipped_eq_none_iff.1 skipped, each⟩, ended⟩
      · obtain ⟨each, ended⟩ := ih probedRest
        by_cases isVersion : name = "version"
        · subst isVersion
          obtain rfl := Option.some.inj (field?_version.2.symm.trans found)
          obtain ⟨value, readValue, -⟩ := RecordField.json_of_eq_ok_iff.1 probedHere
          exact ⟨⟨whole_of_jsonWord32? (json_word32_eq_ok_iff.1 readValue), each⟩, ended⟩
        · rw [field?_versionRecord isVersion] at found
          cases found

/-- Of the items of an array the version is the first one, and the reading of the version
alone accepts no others. -/
theorem settles_of_jsonItems {items : List Draft} {ending : Option Json.Breakage} {length : Nat}
    {config : Config}
    (probed : versionRecord.jsonItems .document ending length versionRecord.blank 0
      versionRecord.fields items = .ok version)
    (read : record.jsonItems .document ending length record.blank 0 record.fields items =
      .ok config) :
    Draft.Whole (.array items ending) ∧
      Settles [] newestVersion (jsonEntries ((record.names.map some).zip items)) config.version ∧
        (config.version = newestVersion ∨ config.version = version) := by
  rw [Draft.whole_array_iff]
  cases items with
  | nil =>
      obtain ⟨ended, -, rfl⟩ := Record.jsonItems_nil_eq_ok_iff.1 read
      exact ⟨⟨nofun, ended⟩, settles_nil_iff.2 rfl, .inl rfl⟩
  | cons draft rest =>
      obtain ⟨_, _, change, parts, readHere, readRest⟩ := Record.jsonItems_cons_eq_ok_iff.1 read
      obtain ⟨_, _, change', parts', probedHere, probedRest⟩ :=
        Record.jsonItems_cons_eq_ok_iff.1 probed
      obtain ⟨rfl, rfl⟩ := List.cons.inj parts
      obtain ⟨rfl, rfl⟩ := List.cons.inj parts'
      obtain ⟨part, found, rfl⟩ := RecordField.json_of_eq_ok_iff.1 readHere
      obtain ⟨part', found', rfl⟩ := RecordField.json_of_eq_ok_iff.1 probedHere
      obtain rfl : part = part' := Except.ok.inj (found.symm.trans found')
      cases rest with
      | nil =>
          obtain ⟨ended, -, rfl⟩ := Record.jsonItems_nil_eq_ok_iff.1 readRest
          obtain ⟨-, -, rfl⟩ := Record.jsonItems_nil_eq_ok_iff.1 probedRest
          have value := json_word32_eq_ok_iff.1 found
          have each : ∀ item ∈ [draft], item.Whole :=
            List.forall_mem_singleton.2 (whole_of_jsonWord32? value)
          exact ⟨⟨each, ended⟩, settles_version_iff.2 ⟨value, nofun, rfl⟩, .inr rfl⟩
      | cons second rest =>
          obtain ⟨_, _, _, none, -⟩ := Record.jsonItems_cons_eq_ok_iff.1 probedRest
          exact absurd none.symm (List.cons_ne_nil _ _)

/-! ## What is accepted -/

/-- The entries of a text that is accepted are known, and settle a version that is
understood. -/
theorem exists_holds_of_ofText {format : Format} {text : String} {config : Config}
    (accepted : ofText format text = .ok config) :
    ∃ entries, Holds format text entries ∧ Settles [] newestVersion entries config.version ∧
      config.version ≤ newestVersion := by
  obtain ⟨probe, probed, understood, read⟩ := ofText_eq_ok_iff.1 accepted
  have bounded : ∀ {entries : List Entry}, HoldsMap format text entries →
      (∀ entry ∈ entries, entry.1 ≠ none) → Settles [] newestVersion entries config.version →
        config.version ≤ newestVersion := by
    rintro entries holds texts (⟨-, newest⟩ | told)
    · exact newest ▸ UInt32.le_refl _
    · have found := (probe_of_holdsMap holds (.inr told)).2 texts
      exact Except.ok.inj (found.symm.trans probed) ▸ understood
  cases format with
  | json =>
      rw [decode, ofJson_eq_ok_iff] at read probed
      obtain ⟨readDraft, closed⟩ := read
      obtain ⟨probedDraft, -⟩ := probed
      have whole : Draft.ofText text = ((Draft.ofText text).1, false) := Prod.ext rfl closed
      cases draft : (Draft.ofText text).1 with
      | object members ending =>
          rw [draft] at readDraft probedDraft whole
          have unbroken := whole_of_jsonMembers probedDraft
          obtain ⟨-, rfl⟩ := Draft.whole_object_iff.1 unbroken
          have holds : HoldsMap .json text (jsonEntries members) := .json whole unbroken
          obtain ⟨texts, settled⟩ := settles_of_jsonMembers readDraft
          exact ⟨_, .map holds, settled, bounded holds texts settled⟩
      | array items ending =>
          rw [draft] at readDraft probedDraft whole
          obtain ⟨unbroken, settled, agree⟩ := settles_of_jsonItems probedDraft readDraft
          obtain ⟨-, rfl⟩ := Draft.whole_array_iff.1 unbroken
          have bound : config.version ≤ newestVersion := by
            rcases agree with newest | same
            · exact newest ▸ UInt32.le_refl _
            · exact same ▸ understood
          exact ⟨_, .array whole unbroken, settled, bound⟩
      | _ =>
          rw [draft] at readDraft
          cases readDraft
  | yaml =>
      rw [decode, ofYaml_eq_ok_iff] at read
      obtain ⟨⟨behind, readRoot⟩, valid, single⟩ := read
      cases found : (Document.ofText text).1.event 0 with
      | error fault => simp [Record.reader, followingAlias, found] at readRoot
      | ok event =>
          have other : ∀ anchor, event ≠ .alias anchor := by
            rintro anchor rfl
            exact Document.root_ofText text anchor found
          rcases Record.yaml_reader_eq_ok rfl lands_fields found other readRoot with
            ⟨entries, passes, gathers⟩ | ⟨empty, rfl, -⟩
          · have holds : HoldsMap .yaml text (yamlEntries (Document.ofText text).1 entries) :=
              holdsMap_of_shows single valid passes.shown
            obtain ⟨texts, settled⟩ := settles_of_gathers gathers
            exact ⟨_, .map holds, settled, bounded holds texts settled⟩
          · have whole : Document.ofText text = ((Document.ofText text).1, false) :=
              Prod.ext rfl single
            exact ⟨[], .nothing whole valid found empty, settles_nil_iff.2 rfl, UInt32.le_refl _⟩

/-- No configuration is newer than the program. -/
theorem version_le_of_ofText {format : Format} {text : String} {config : Config}
    (accepted : ofText format text = .ok config) : config.version ≤ newestVersion := by
  obtain ⟨entries, -, -, understood⟩ := exists_holds_of_ofText accepted
  exact understood

/-- A file that tells a newer version is never loaded, and it is called newer exactly if all
keys of the map at its root are texts: no other key of it, no unknown or ill-formed value in
it matters.  What is loaded has the version that its file tells, which is understood, or the
newest one where the file tells none. -/
theorem newer_version_told_iff_text_keys (path : String) {text : String} {file : File}
    (readable : file.text? = .ok text) :
    (∀ entries version, HoldsMap (.ofPath path) text entries → versions entries = [some version] →
        newestVersion < version →
          (∃ cause, load path file = .error cause) ∧
            (load path file = .error (.newerVersion version) ↔
              ∀ entry ∈ entries, entry.1 ≠ none)) ∧
      ∀ config, load path file = .ok config →
        config.version ≤ newestVersion ∧ (∃ entries, Holds (.ofPath path) text entries) ∧
          ∀ entries, Holds (.ofPath path) text entries →
            versions entries = [] ∧ config.version = newestVersion ∨
              versions entries = [some config.version] := by
  rw [load_of_text readable]
  have accepted : ∀ config, ofText (.ofPath path) text = .ok config →
      config.version ≤ newestVersion ∧ (∃ entries, Holds (.ofPath path) text entries) ∧
        ∀ entries, Holds (.ofPath path) text entries →
          versions entries = [] ∧ config.version = newestVersion ∨
            versions entries = [some config.version] := by
    intro config loaded
    obtain ⟨entries, holds, settled, understood⟩ := exists_holds_of_ofText loaded
    refine ⟨understood, ⟨entries, holds⟩, fun others holds' => ?_⟩
    obtain rfl := holds'.unique holds
    exact settled.imp_right And.left
  refine ⟨fun entries version holds told newer => ⟨?_, ?_⟩, accepted⟩
  · cases loaded : ofText (.ofPath path) text with
    | error cause => exact ⟨cause, rfl⟩
    | ok config =>
        obtain ⟨understood, -, settled⟩ := accepted config loaded
        rcases settled entries (.map holds) with ⟨nothing, -⟩ | same
        · rw [told] at nothing
          cases nothing
        · rw [told] at same
          obtain rfl := Option.some.inj (List.cons.inj same).1
          exact absurd newer (UInt32.not_lt.2 understood)
  · rw [ofText_eq_newerVersion_iff, and_iff_left newer]
    exact probe_of_holdsMap holds (.inr ⟨told, List.not_mem_nil⟩)

/-! ## Files of a later format -/

/-- A plain scalar. -/
def plain (content : String) : Node :=
  .scalar none content .plain

/-- A file with a version, a setting of a wrong kind, and a key that is not known. -/
def laterText : String :=
  "version: 2\nsettings: 5\nlater:\n  ? [a]\n  : b\n"

/-- The tree of that file. -/
def laterTree : List (Node × Node) :=
  [(plain "version", plain "2"), (plain "settings", plain "5"),
    (plain "later", .mapping [(.sequence [plain "a"], plain "b")])]

theorem holdsMap_laterText :
    HoldsMap .yaml laterText (yamlEntries (Document.ofText laterText).1 laterTree) := by
  apply holdsMap_of_shows
  · decide +kernel
  · decide +kernel
  · decide +kernel

theorem versions_laterText :
    versions (yamlEntries (Document.ofText laterText).1 laterTree) = [some 2] := by
  decide +kernel

theorem texts_laterText :
    ∀ entry ∈ yamlEntries (Document.ofText laterText).1 laterTree, entry.1 ≠ none := by
  decide +kernel

theorem later_file_is_told_newer :
    load "later.yml" (.bytes laterText.toUTF8) = .error (.newerVersion 2) ∧
      load "sparse.json" (.bytes "[0]".toUTF8) = .ok { version := 0 } ∧
        ∃ entries, Holds .json "[0]" entries ∧ versions entries = [some 0] := by
  have sparse : load "sparse.json" (.bytes "[0]".toUTF8) = .ok { version := 0 } := by
    rw [load_bytes]
    rfl
  have isYaml : Format.ofPath "later.yml" = .yaml := rfl
  have told : load "later.yml" (.bytes laterText.toUTF8) = .error (.newerVersion 2) := by
    have later := newer_version_told_iff_text_keys "later.yml" (text?_bytes laterText)
    rw [isYaml] at later
    exact (later.1 _ 2 holdsMap_laterText versions_laterText (by decide)).2.2 texts_laterText
  obtain ⟨-, ⟨entries, holds⟩, settled⟩ :=
    (newer_version_told_iff_text_keys "sparse.json" (text?_bytes "[0]")).2 _ sparse
  exact ⟨told, sparse, entries, holds, (settled entries holds).resolve_left (by simp [newestVersion])⟩

/-- The other key of this file is a list. -/
def strangeText : String :=
  "version: 2\n? [a]\n: b\n"

/-- The tree of that file. -/
def strangeTree : List (Node × Node) :=
  [(plain "version", plain "2"), (.sequence [plain "a"], plain "b")]

theorem holdsMap_strangeText :
    HoldsMap .yaml strangeText (yamlEntries (Document.ofText strangeText).1 strangeTree) := by
  apply holdsMap_of_shows
  · decide +kernel
  · decide +kernel
  · decide +kernel

theorem versions_strangeText :
    versions (yamlEntries (Document.ofText strangeText).1 strangeTree) = [some 2] := by
  decide +kernel

theorem not_texts_strangeText :
    ¬∀ entry ∈ yamlEntries (Document.ofText strangeText).1 strangeTree, entry.1 ≠ none := by
  decide +kernel

/-- The file tells of version 2, and it is not called newer. -/
theorem strange_key_hides_version :
    ∃ entries, HoldsMap .yaml strangeText entries ∧ versions entries = [some 2] ∧
      newestVersion < 2 ∧
        load "config.yml" (.bytes strangeText.toUTF8) ≠ .error (.newerVersion 2) := by
  refine ⟨_, holdsMap_strangeText, versions_strangeText, by decide, ?_⟩
  have isYaml : Format.ofPath "config.yml" = .yaml := rfl
  rw [load_bytes, isYaml, Ne, ofText_eq_newerVersion_iff]
  rintro ⟨probed, -⟩
  apply not_texts_strangeText
  exact (probe_of_holdsMap holdsMap_strangeText
    (.inr ⟨versions_strangeText, List.not_mem_nil⟩)).1 probed

end PortTunnel.Config
