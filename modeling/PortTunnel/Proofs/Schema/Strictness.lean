import PortTunnel.Proofs.Except
import PortTunnel.Proofs.Schema.Record

/-!
# Members that are not known

A strict record refuses an object as soon as it meets a member that it does not
know, and a lenient one reads on as if the member were not there.  What is refused
inside a record, a sequence or a map is refused by the reader of the whole, with
the same words, unless something in front of it was refused before; and in what is
accepted as a whole nothing is refused.
-/

namespace PortTunnel.Schema

open Json (Draft)

variable {α β : Type}

namespace Record

variable {record : Record α} {source : JsonSource} {ending : Option Json.Breakage}
  {value result : α} {given : List String}

/-! ## One step through an object -/

theorem jsonMembers_cons_of_skipped {name : String} {draft : Draft}
    {rest : List (Option String × Draft)} (unknown : record.field? name = none)
    (lenient : record.strict = false) (skipped : draft.skipped = none) :
    jsonMembers record source ending value given ((some name, draft) :: rest) =
      jsonMembers record source ending value given rest := by
  simp [jsonMembers, choose, unknown, lenient, skipped]

theorem jsonMembers_cons_of_known {name : String} {draft : Draft}
    {rest : List (Option String × Draft)} {field : RecordField α} {change : α → α}
    (known : record.field? name = some field) (fresh : name ∉ given)
    (read : field.json source draft = .ok change) :
    jsonMembers record source ending value given ((some name, draft) :: rest) =
      jsonMembers record source ending (change value) (name :: given) rest := by
  simp [jsonMembers, choose, known, fresh, read]

theorem jsonMembers_cons_of_refused {name : String} {draft : Draft}
    {rest : List (Option String × Draft)} {field : RecordField α} {refusal : JsonRefusal}
    (known : record.field? name = some field) (fresh : name ∉ given)
    (refused : field.json source draft = .error refusal) :
    jsonMembers record source ending value given ((some name, draft) :: rest) =
      .error refusal := by
  simp [jsonMembers, choose, known, fresh, refused]

theorem jsonMembers_cons_of_unknown {name : String} {draft : Draft}
    {rest : List (Option String × Draft)} (unknown : record.field? name = none)
    (strict : record.strict = true) :
    jsonMembers record source ending value given ((some name, draft) :: rest) =
      .error (.problem (.unknownField name record.names)) := by
  simp [jsonMembers, choose, unknown, strict]

theorem field?_eq_none_iff {name : String} : record.field? name = none ↔ name ∉ record.names := by
  simp [field?, names]

/-! ## A member more -/

/-- Where an object is accepted, its first members leave a record and the names of its fields
behind, from which the others are read, whatever they are. -/
theorem exists_middle_of_jsonMembers {before rest : List (Option String × Draft)}
    (read : jsonMembers record source ending value given (before ++ rest) = .ok result) :
    ∃ middle known, ∀ others, jsonMembers record source ending value given (before ++ others) =
      jsonMembers record source ending middle known others := by
  induction before generalizing value given with
  | nil => exact ⟨value, given, fun _ => rfl⟩
  | cons member before ih =>
      obtain ⟨name?, draft⟩ := member
      rcases jsonMembers_cons_eq_ok_iff.1 read with
        ⟨name, rfl, ⟨unknown, lenient, skipped, readRest⟩ |
          ⟨field, change, found, fresh, readHere, readRest⟩⟩
      · obtain ⟨middle, known, same⟩ := ih readRest
        refine ⟨middle, known, fun others => ?_⟩
        rw [List.cons_append, jsonMembers_cons_of_skipped unknown lenient skipped, same]
      · obtain ⟨middle, known, same⟩ := ih readRest
        refine ⟨middle, known, fun others => ?_⟩
        rw [List.cons_append, jsonMembers_cons_of_known found fresh readHere, same]

/-- With one member more that it does not know, a strict record refuses an object that it
accepts. -/
theorem jsonMembers_insert_of_strict {before after : List (Option String × Draft)} {name : String}
    {added : Draft} (strict : record.strict = true) (unknown : name ∉ record.names)
    (read : jsonMembers record source ending value given (before ++ after) = .ok result) :
    jsonMembers record source ending value given (before ++ (some name, added) :: after) =
      .error (.problem (.unknownField name record.names)) := by
  obtain ⟨middle, known, same⟩ := exists_middle_of_jsonMembers read
  rw [same, jsonMembers_cons_of_unknown (field?_eq_none_iff.2 unknown) strict]

/-- With one member more that it does not know, a lenient record reads the same. -/
theorem jsonMembers_insert_of_lenient {before after : List (Option String × Draft)}
    {name : String} {added : Draft} (lenient : record.strict = false)
    (unknown : name ∉ record.names) (skipped : added.skipped = none) :
    jsonMembers record source ending value given (before ++ (some name, added) :: after) =
      jsonMembers record source ending value given (before ++ after) := by
  induction before generalizing value given with
  | nil => exact jsonMembers_cons_of_skipped (field?_eq_none_iff.2 unknown) lenient skipped
  | cons member before ih =>
      obtain ⟨_ | other, draft⟩ := member
      · rfl
      · simp only [List.cons_append, jsonMembers, ih]

/-- Where an array is accepted, its first items leave a record and the other fields behind, into
which the others are read, whatever they are. -/
theorem exists_middle_of_jsonItems {length index : Nat} {fields : List (RecordField α)}
    {before rest : List Draft}
    (read : jsonItems record source ending length value index fields (before ++ rest) =
      .ok result) :
    ∃ middle, ∀ others,
      jsonItems record source ending length value index fields (before ++ others) =
        jsonItems record source ending length middle (index + before.length)
          (fields.drop before.length) others := by
  induction before generalizing value index fields with
  | nil => exact ⟨value, fun _ => rfl⟩
  | cons draft before ih =>
      obtain ⟨field, fields, change, rfl, readHere, readRest⟩ := jsonItems_cons_eq_ok_iff.1 read
      obtain ⟨middle, same⟩ := ih readRest
      refine ⟨middle, fun others => ?_⟩
      have step : jsonItems record source ending length value index (field :: fields)
            (draft :: (before ++ others)) =
          jsonItems record source ending length (change value) (index + 1) fields
            (before ++ others) := by
        simp [jsonItems, readHere]
      rw [List.cons_append, step, same, List.length_cons, List.drop_succ_cons,
        Nat.add_right_comm, Nat.add_assoc]

/-- An array that is accepted has no more items than the record has fields. -/
theorem length_le_of_jsonItems {length index : Nat} {fields : List (RecordField α)}
    {items : List Draft}
    (read : jsonItems record source ending length value index fields items = .ok result) :
    items.length ≤ fields.length := by
  induction items generalizing value index fields with
  | nil => exact Nat.zero_le _
  | cons draft items ih =>
      obtain ⟨field, fields, change, rfl, -, readRest⟩ := jsonItems_cons_eq_ok_iff.1 read
      exact Nat.succ_le_succ (ih readRest)

/-- With distinct names, the field at an index is the one that its name calls for. -/
theorem getElem?_fields_of_field? {index : Nat} {name : String} {field : RecordField α}
    (distinct : record.names.Nodup) (isAt : record.names[index]? = some name)
    (known : record.field? name = some field) : record.fields[index]? = some field := by
  rw [names, List.getElem?_map, Option.map_eq_some_iff] at isAt
  obtain ⟨other, found, rfl⟩ := isAt
  rw [found, ← known, field?_of_nodup distinct (List.mem_of_getElem? found)]

end Record

/-! ## What is around a value -/

/-- Wherever the outer reader accepts what stands around a value, the inner one accepts the
value; and whatever the inner one refuses in its place, the outer one refuses alike. -/
def Relays (outer : Reader α) (inner : Reader β) (around : Draft → Draft) : Prop :=
  ∀ draft value, outer.json .document (around draft) = .ok value →
    (∃ part, inner.json .document draft = .ok part) ∧
      ∀ other refusal, inner.json .document other = .error refusal →
        outer.json .document (around other) = .error refusal

theorem relays_id (reader : Reader α) : Relays reader reader id :=
  fun _ value read => ⟨⟨value, read⟩, fun _ _ refused => refused⟩

theorem Relays.comp {γ : Type} {outer : Reader α} {middle : Reader β} {inner : Reader γ}
    {around around' : Draft → Draft} (outside : Relays outer middle around)
    (inside : Relays middle inner around') : Relays outer inner (around ∘ around') := by
  intro draft value read
  obtain ⟨⟨part, readPart⟩, relayed⟩ := outside (around' draft) value read
  obtain ⟨accepted, relayed'⟩ := inside draft part readPart
  exact ⟨accepted, fun other refusal refused => relayed _ _ (relayed' other refusal refused)⟩

theorem RecordField.json_of_error {name : String} {required : Bool} {reader : Reader β}
    {put : β → α → α} {source : JsonSource} {draft : Draft} {refusal : JsonRefusal}
    (refused : reader.json source draft = .error refusal) :
    (RecordField.of name required reader put).json source draft = .error refusal := by
  simp [RecordField.of, refused, Except.map]

/-- A record relays what its fields refuse in the members of an object. -/
theorem relays_member {record : Record α} {reader : Reader β} {name : String} {required : Bool}
    {put : β → α → α} (known : record.field? name = some (.of name required reader put))
    (before after : List (Option String × Draft)) :
    Relays record.reader reader fun draft => .object (before ++ (some name, draft) :: after) none := by
  intro draft value read
  have readAll : record.jsonMembers .document none record.blank []
      (before ++ (some name, draft) :: after) = .ok value := read
  obtain ⟨middle, given, same⟩ := Record.exists_middle_of_jsonMembers readAll
  rw [same] at readAll
  obtain ⟨other, named, step⟩ := Record.jsonMembers_cons_eq_ok_iff.1 readAll
  obtain rfl := Option.some.inj named
  rcases step with ⟨unknown, -⟩ | ⟨field, change, found, fresh, readHere, -⟩
  · rw [known] at unknown
    cases unknown
  · obtain rfl := Option.some.inj (found.symm.trans known)
    obtain ⟨part, readPart, -⟩ := RecordField.json_of_eq_ok_iff.1 readHere
    refine ⟨⟨part, readPart⟩, fun other refusal refused => ?_⟩
    exact (same _).trans
      (Record.jsonMembers_cons_of_refused known fresh (RecordField.json_of_error refused))

/-- A record relays what its fields refuse in the items of an array. -/
theorem relays_item {record : Record α} {reader : Reader β} {name : String} {required : Bool}
    {put : β → α → α} (before after : List Draft)
    (known : record.fields[before.length]? = some (.of name required reader put)) :
    Relays record.reader reader fun draft => .array (before ++ draft :: after) none := by
  intro draft value read
  have length (draft : Draft) :
      (before ++ draft :: after).length = before.length + (after.length + 1) := by
    rw [List.length_append, List.length_cons]
  have readAll : record.jsonItems .document none (before ++ draft :: after).length record.blank 0
      record.fields (before ++ draft :: after) = .ok value := read
  rw [length] at readAll
  obtain ⟨middle, same⟩ := Record.exists_middle_of_jsonItems readAll
  rw [same] at readAll
  obtain ⟨field, fields, change, behind, readHere, -⟩ :=
    Record.jsonItems_cons_eq_ok_iff.1 readAll
  have isField : field = .of name required reader put := by
    have first : record.fields[before.length]? = some field := by
      rw [← List.head?_drop, behind, List.head?_cons]
    exact Option.some.inj (first.symm.trans known)
  subst isField
  obtain ⟨part, readPart, -⟩ := RecordField.json_of_eq_ok_iff.1 readHere
  refine ⟨⟨part, readPart⟩, fun other refusal refused => ?_⟩
  have refusedAll : record.jsonItems .document none (before ++ other :: after).length record.blank 0
      record.fields (before ++ other :: after) = .error refusal := by
    rw [length, same, behind]
    simp [Record.jsonItems, RecordField.json_of_error refused]
  exact refusedAll

/-- A list relays what is refused in one of its items. -/
theorem relays_list (reader : Reader α) (before after : List Draft) :
    Relays reader.list reader fun draft => .array (before ++ draft :: after) none := by
  intro draft value read
  change Reader.jsonItems (reader.json .document) none (before ++ draft :: after) = .ok value at read
  change _ ∧ ∀ other refusal, _ →
    Reader.jsonItems (reader.json .document) none (before ++ other :: after) = .error refusal
  induction before generalizing value with
  | nil =>
      obtain ⟨part, readHere, -⟩ := bind_eq_ok_iff.1 read
      exact ⟨⟨part, readHere⟩, fun other refusal refused => bind_eq_error_iff.2 (.inl refused)⟩
  | cons first before ih =>
      obtain ⟨part, readHere, readRest⟩ := bind_eq_ok_iff.1 read
      obtain ⟨items, readItems, -⟩ := bind_eq_ok_iff.1 readRest
      obtain ⟨accepted, relayed⟩ := ih items readItems
      refine ⟨accepted, fun other refusal refused => bind_eq_error_iff.2 (.inr ⟨part, readHere, ?_⟩)⟩
      exact bind_eq_error_iff.2 (.inl (relayed other refusal refused))

/-- A map relays what is refused in one of its values. -/
theorem relays_keyed (reader : Reader α) (name? : Option String)
    (before after : List (Option String × Draft)) :
    Relays reader.keyed reader fun draft => .object (before ++ (name?, draft) :: after) none := by
  intro draft value read
  have readAll : Reader.jsonMembers (reader.json .document) none .empty
      (before ++ (name?, draft) :: after) = .ok value := read
  change _ ∧ ∀ other refusal, _ → Reader.jsonMembers (reader.json .document) none .empty
    (before ++ (name?, other) :: after) = .error refusal
  clear read
  generalize NameMap.empty = map at readAll ⊢
  induction before generalizing map with
  | nil =>
      cases name? with
      | none => cases readAll
      | some name =>
          obtain ⟨part, readHere, -⟩ := bind_eq_ok_iff.1 readAll
          exact ⟨⟨part, readHere⟩, fun other refusal refused => bind_eq_error_iff.2 (.inl refused)⟩
  | cons member before ih =>
      obtain ⟨_ | other, first⟩ := member
      · cases readAll
      · obtain ⟨part, readHere, readRest⟩ := bind_eq_ok_iff.1 readAll
        obtain ⟨accepted, relayed⟩ := ih _ readRest
        refine ⟨accepted, fun other refusal refused => bind_eq_error_iff.2 (.inr ⟨part, readHere, ?_⟩)⟩
        exact relayed other refusal refused

end PortTunnel.Schema
