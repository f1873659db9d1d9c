import PortTunnel.Proofs.Schema.Landing

/-!
# The entries of YAML records

A record is read from the entries of a mapping: each key names a field, and what is
read of the value changes the record.  A strict record is read from nothing else, so
once it has been read it is known what all the entries are.
-/

namespace PortTunnel.Schema

open Yaml (Document Event Node)

variable {α β : Type} {document : Document} {path : Path} {position behind : Position}

/-- A text is read where a node is one or refers to one. -/
theorem Reader.yaml_text_eq_ok_iff {expected name : String} {node : Node}
    (shown : document.Shows position.event node.events) :
    (text expected).yaml document path position = .ok (name, behind) ↔
      document.text? node = some name ∧ behind = position.past node ∧
        ∀ anchor, node = .alias anchor → position.jumps < document.events.size * 100 := by
  rw [text, yamlScalar_eq_ok_iff shown]
  simp [Document.text?]

/-- A number is read where a node is one that is small enough, or refers to one. -/
theorem Reader.yaml_unsigned_eq_ok_iff {bits number : Nat} {expected : String} {node : Node}
    (shown : document.Shows position.event node.events) :
    (unsigned bits expected).yaml document path position = .ok (number, behind) ↔
      (document.natural? node = some number ∧ number < Number.twoTo bits) ∧
        behind = position.past node ∧
          ∀ anchor, node = .alias anchor → position.jumps < document.events.size * 100 := by
  rw [unsigned, yamlScalar_eq_ok_iff shown]
  simp only [Document.natural?]
  cases found : document.scalar? node with
  | none => simp
  | some scalar =>
      obtain ⟨tag, content, style⟩ := scalar
      simp only [Option.some.injEq, exists_eq_left']
      generalize (if Yaml.Scalar.mayBeInteger tag style then
        Yaml.Scalar.unsigned? (Number.twoTo 64 - 1) content.toList else none) = amount?
      cases amount? with
      | none => simp
      | some amount =>
          by_cases fits : amount < Number.twoTo bits
          · have same : amount = number → number < Number.twoTo bits := fun same => same ▸ fits
            simp [fits, and_iff_left_of_imp same]
          · have other : ¬(amount = number ∧ number < Number.twoTo bits) :=
              fun both => fits (both.1 ▸ both.2)
            simp only [fits, if_false, Option.some.injEq, other, false_and, reduceCtorEq]

/-- A field reads what its reader reads, and puts it into the record. -/
theorem RecordField.yaml_of_eq_ok_iff {name : String} {required : Bool} {reader : Reader β}
    {put : β → α → α} {change : α → α} :
    (RecordField.of name required reader put).yaml document path position = .ok (change, behind) ↔
      ∃ part, reader.yaml document path position = .ok (part, behind) ∧ put part = change :=
  Reader.yaml_map_eq_ok_iff

theorem RecordField.lands_of {reader : Reader β} (lands : reader.yaml.Lands) (name : String)
    (required : Bool) (put : β → α → α) :
    (RecordField.of name required reader put).yaml.Lands := by
  intro document path position behind change read
  obtain ⟨part, readPart, -⟩ := yaml_of_eq_ok_iff.1 read
  exact lands readPart

namespace Record

variable {record : Record α} {fuel : Nat} {value result : α} {given : List String}

/-! ## One step through a mapping -/

theorem yamlMembers_eq_ok_iff_of_end (found : document.event position.event = .ok .mappingEnd) :
    yamlMembers record (fuel + 1) value given document path position = .ok (result, behind) ↔
      record.missing? given = none ∧ value = result ∧ position.next = behind := by
  cases missing : record.missing? given <;> simp [yamlMembers, found, complete, missing]

/-- Where a mapping does not end, a key is read first. -/
theorem exists_name_of_yamlMembers {event : Event}
    (found : document.event position.event = .ok event) (more : event ≠ .mappingEnd)
    (read : yamlMembers record (fuel + 1) value given document path position =
      .ok (result, behind)) :
    ∃ name middle,
      (Reader.text "field identifier").yaml document path position = .ok (name, middle) := by
  cases named : (Reader.text "field identifier").yaml document path position with
  | error refusal =>
      cases event with
      | mappingEnd => exact absurd rfl more
      | _ => simp [yamlMembers, found, named] at read
  | ok reached => exact ⟨reached.1, reached.2, rfl⟩

/-- An entry is read as the field that its key names, or passed over where a lenient record
knows none. -/
theorem yamlMembers_eq_ok_iff_of_named {event : Event} {name : String} {middle : Position}
    (found : document.event position.event = .ok event) (more : event ≠ .mappingEnd)
    (named : (Reader.text "field identifier").yaml document path position = .ok (name, middle)) :
    yamlMembers record (fuel + 1) value given document path position = .ok (result, behind) ↔
      (record.field? name = none ∧ record.strict = false ∧
          ∃ last, yamlSkip (fuelFor document) 0 document middle = .ok last ∧
            yamlMembers record fuel value given document path last = .ok (result, behind)) ∨
        ∃ field change last, record.field? name = some field ∧ name ∉ given ∧
          field.yaml document (Reader.keyStep event :: path) middle = .ok (change, last) ∧
            yamlMembers record fuel (change value) (name :: given) document path last =
              .ok (result, behind) := by
  generalize keyed : Reader.keyStep event = step
  cases event with
  | mappingEnd => exact absurd rfl more
  | _ =>
      simp only [yamlMembers, found, named, keyed]
      cases known : record.field? name with
      | none =>
          cases strict : record.strict <;>
            cases skipped : yamlSkip (fuelFor document) 0 document middle <;>
              simp [choose, known, strict]
      | some field =>
          by_cases twice : name ∈ given
          · simp [choose, known, twice]
          · cases put : field.yaml document (step :: path) middle with
            | error refusal => simp [choose, known, twice, put]
            | ok reached =>
                obtain ⟨change, last⟩ := reached
                simp [choose, known, twice, put, and_assoc]

/-! ## Strict records -/

/-- The entries that a record is read from.  Each key names a field that was not given
before, and what the field reads where the value stands changes the record. -/
inductive Gathers (record : Record α) (document : Document) :
    List String → α → List (Node × Node) → α → Prop where
  | done {given : List String} {value : α} (complete : record.missing? given = none) :
      Gathers record document given value [] value
  | entry {given : List String} {value result : α} {key content : Node}
      {entries : List (Node × Node)} {name : String} {field : RecordField α} {change : α → α}
      {path : Path} {position behind : Position} (named : document.text? key = some name)
      (known : record.field? name = some field) (fresh : name ∉ given)
      (passes : position.Passes document content.events behind)
      (read : field.yaml document path position = .ok (change, behind))
      (rest : Gathers record document (name :: given) (change value) entries result) :
      Gathers record document given value ((key, content) :: entries) result

/-- What a strict record is read from are the entries of a mapping. -/
theorem exists_gathers_of_yamlMembers (strict : record.strict = true)
    (lands : ∀ field ∈ record.fields, field.yaml.Lands) (covered : position.Covered document fuel)
    (read : yamlMembers record fuel value given document path position = .ok (result, behind)) :
    ∃ entries, position.Passes document (Node.entriesEvents entries ++ [.mappingEnd]) behind ∧
      Gathers record document given value entries result := by
  induction fuel generalizing value given position with
  | zero => exact absurd covered Position.not_covered_zero
  | succ fuel ih =>
      cases found : document.event position.event with
      | error fault => simp [yamlMembers, found] at read
      | ok event =>
          by_cases ended : event = .mappingEnd
          · subst ended
            obtain ⟨complete, rfl, rfl⟩ := (yamlMembers_eq_ok_iff_of_end found).1 read
            exact ⟨[], Position.passes_event found rfl, .done complete⟩
          · obtain ⟨name, middle, readName⟩ := exists_name_of_yamlMembers found ended read
            obtain ⟨key, first⟩ := Reader.lands_text _ readName
            have named := ((Reader.yaml_text_eq_ok_iff first.shown).1 readName).1
            rcases (yamlMembers_eq_ok_iff_of_named found ended readName).1 read with
              ⟨-, lenient, -⟩ | ⟨field, change, last, known, fresh, readHere, readRest⟩
            · exact absurd (strict.symm.trans lenient) (by decide)
            obtain ⟨content, second⟩ := lands field (List.mem_of_find?_eq_some known) readHere
            obtain ⟨entries, third, gathers⟩ := ih (covered.entry first second) readRest
            exact ⟨(key, content) :: entries, first.entry second third,
              .entry named known fresh second readHere gathers⟩

theorem complete_eq_ok_iff :
    record.complete value given = .ok result ↔ record.missing? given = none ∧ value = result := by
  cases missing : record.missing? given <;> simp [complete, missing]

/-- A strict record is read from a mapping, or from what stands for one without entries. -/
theorem yaml_reader_eq_ok (strict : record.strict = true)
    (lands : ∀ field ∈ record.fields, field.yaml.Lands) {event : Event}
    (found : document.event position.event = .ok event) (other : ∀ anchor, event ≠ .alias anchor)
    (read : record.reader.yaml document path position = .ok (result, behind)) :
    (∃ entries, position.Passes document (Node.mapping entries).events behind ∧
        Gathers record document [] record.blank entries result) ∨
      isEmptyCollection event = true ∧ result = record.blank ∧ behind = position.next := by
  rw [reader, followingAlias_eq_ok_iff found other] at read
  simp only [found] at read
  cases event with
  | mappingStart =>
      obtain ⟨entries, inside, gathers⟩ :=
        exists_gathers_of_yamlMembers strict lands (Position.covered_next found) read
      exact .inl ⟨entries, (Position.passes_event found rfl).append inside, gathers⟩
  | _ =>
      dsimp only at read
      split at read
      case isFalse => cases read
      case isTrue empty =>
        split at read
        case h_2 => cases read
        case h_1 value completed =>
          obtain ⟨-, rfl⟩ := complete_eq_ok_iff.1 completed
          obtain ⟨rfl, rfl⟩ := Prod.mk.inj (Except.ok.inj read)
          exact .inr ⟨empty, rfl, rfl⟩

theorem lands_reader (strict : record.strict = true)
    (lands : ∀ field ∈ record.fields, field.yaml.Lands) : record.reader.yaml.Lands := by
  intro document path position behind value read
  cases found : document.event position.event with
  | error fault => simp [reader, followingAlias, found] at read
  | ok event =>
      by_cases isAlias : ∃ anchor, event = .alias anchor
      · obtain ⟨anchor, rfl⟩ := isAlias
        rw [reader, followingAlias_alias_eq_ok_iff found] at read
        obtain ⟨-, inner, -, rfl⟩ := read
        exact ⟨.alias anchor, Position.passes_event found rfl⟩
      · have other : ∀ anchor, event ≠ .alias anchor := fun anchor same => isAlias ⟨anchor, same⟩
        rcases yaml_reader_eq_ok strict lands found other read with
          ⟨entries, passes, -⟩ | ⟨empty, -, rfl⟩
        · exact ⟨.mapping entries, passes⟩
        · exact Reader.exists_node_of_isEmptyCollection found empty

end Record

end PortTunnel.Schema
