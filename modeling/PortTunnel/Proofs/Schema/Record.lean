import PortTunnel.Schema.Record

/-!
# Reading records step by step

When one member of an object, or one item of an array, is read into a record, and
what it does there.  Later modules reason about records by these equivalences alone.
-/

namespace PortTunnel.Schema

variable {α β : Type}

/-- A field reads what its reader reads, and puts it into the record. -/
theorem RecordField.json_of_eq_ok_iff {name : String} {required : Bool} {reader : Reader β}
    {put : β → α → α} {source : JsonSource} {draft : Json.Draft} {change : α → α} :
    (RecordField.of name required reader put).json source draft = .ok change ↔
      ∃ part, reader.json source draft = .ok part ∧ change = put part := by
  cases read : reader.json source draft with
  | error refusal => simp [RecordField.of, read, Except.map]
  | ok part => simp [RecordField.of, read, Except.map, eq_comm]

namespace Record

variable {record : Record α} {source : JsonSource} {ending : Option Json.Breakage}
  {value result : α}

/-- Fields with different names are found by them. -/
theorem field?_of_nodup (distinct : record.names.Nodup) {field : RecordField α}
    (member : field ∈ record.fields) : record.field? field.name = some field := by
  rw [field?, List.find?_eq_some_iff_append]
  obtain ⟨before, behind, parts⟩ := List.append_of_mem member
  refine ⟨beq_self_eq_true _, before, behind, parts, fun other earlier => ?_⟩
  rw [names, parts, List.map_append, List.nodup_append] at distinct
  simpa using distinct.2.2 _ (List.mem_map_of_mem earlier) field.name (by simp)

/-! ## Objects -/

/-- An object may end where no required field is missing. -/
theorem jsonMembers_nil_eq_ok_iff {given : List String} :
    jsonMembers record source ending value given [] = .ok result ↔
      ending = none ∧ record.missing? given = none ∧ value = result := by
  cases ending with
  | some breakage => simp [jsonMembers]
  | none => cases missed : record.missing? given <;> simp [jsonMembers, complete, missed]

/-- A member is passed over, or it fills a field that no earlier member fills. -/
theorem jsonMembers_cons_eq_ok_iff {given : List String} {name? : Option String}
    {draft : Json.Draft} {rest : List (Option String × Json.Draft)} :
    jsonMembers record source ending value given ((name?, draft) :: rest) = .ok result ↔
      ∃ name, name? = some name ∧
        ((record.field? name = none ∧ record.strict = false ∧ draft.skipped = none ∧
            jsonMembers record source ending value given rest = .ok result) ∨
          ∃ field change, record.field? name = some field ∧ name ∉ given ∧
            field.json source draft = .ok change ∧
            jsonMembers record source ending (change value) (name :: given) rest =
              .ok result) := by
  cases name? with
  | none => simp [jsonMembers]
  | some name =>
      cases found : record.field? name with
      | none =>
          cases strict : record.strict <;> cases skipped : draft.skipped <;>
            simp [jsonMembers, choose, found, strict, skipped]
      | some field =>
          by_cases twice : name ∈ given
          · simp [jsonMembers, choose, found, twice]
          · cases put : field.json source draft <;>
              simp [jsonMembers, choose, found, twice, put]

/-! ## Arrays -/

/-- An array may end where no required field is left. -/
theorem jsonItems_nil_eq_ok_iff {length index : Nat} {fields : List (RecordField α)} :
    jsonItems record source ending length value index fields [] = .ok result ↔
      ending = none ∧ lacking? index fields = none ∧ value = result := by
  cases ending with
  | some breakage => simp [jsonItems]
  | none => cases lacked : lacking? index fields <;> simp [jsonItems, lacked]

/-- An item fills the next field. -/
theorem jsonItems_cons_eq_ok_iff {length index : Nat} {fields : List (RecordField α)}
    {draft : Json.Draft} {rest : List Json.Draft} :
    jsonItems record source ending length value index fields (draft :: rest) = .ok result ↔
      ∃ field others change, fields = field :: others ∧ field.json source draft = .ok change ∧
        jsonItems record source ending length (change value) (index + 1) others rest =
          .ok result := by
  cases fields with
  | nil => cases source <;> simp [jsonItems]
  | cons field others =>
      constructor
      case mp =>
        intro read
        cases put : field.json source draft with
        | error refusal => simp [jsonItems, put] at read
        | ok change => exact ⟨field, others, change, rfl, put, by simpa [jsonItems, put] using read⟩
      case mpr =>
        rintro ⟨_, _, change, parts, put, read⟩
        obtain ⟨rfl, rfl⟩ := List.cons.inj parts
        simpa [jsonItems, put] using read

end Record

end PortTunnel.Schema
