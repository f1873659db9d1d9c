import PortTunnel.Config.Text
import PortTunnel.Proofs.NameMap
import PortTunnel.Proofs.Schema.Record

/-!
# What is written is read back

A reader is faithful to a way of writing values when it finds each value in what
is written for it.  Readers of parts that are faithful make up faithful readers
of lists, maps and records.
-/

namespace PortTunnel.Schema

open Json (Value)
open Json.Draft (ofValue ofItems ofMembers)

variable {α β : Type}

/-- The reader finds each value in what is written for it. -/
def Reader.ReadsBack (reader : Reader α) (toJson : α → Value) : Prop :=
  ∀ source value, reader.json source (ofValue (toJson value)) = .ok value

namespace Reader

theorem readsBack_text (expected : String) : (text expected).ReadsBack .text := by
  intro source value
  rfl

theorem readsBack_formed {expected : String} {problem : Problem} {form? : String → Option α}
    {write : α → String} (formed? : ∀ value, form? (write value) = some value) :
    (formed expected problem form?).ReadsBack fun value => .text (write value) := by
  intro source value
  simp [formed, ofValue, formed?]

/-- What a reader finds may be changed into the value that was written. -/
theorem readsBack_map {reader : Reader β} {toJson : α → Value} {raw : α → β} {change : β → α}
    (reads : ∀ source value, reader.json source (ofValue (toJson value)) = .ok (raw value))
    (undo : ∀ value, change (raw value) = value) : (reader.map change).ReadsBack toJson := by
  intro source value
  simp only [map, reads, Except.map, undo]

/-- A natural number that fits is read. -/
theorem json_unsigned {bits number : Nat} (fits : number < Number.twoTo bits) (expected : String)
    (source : JsonSource) :
    (unsigned bits expected).json source (ofValue (.integer number)) = .ok number := by
  simp [unsigned, ofValue, fits]

/-- A whole number that fits is read. -/
theorem json_signed {number : Int} (low : -(Number.twoTo 63 : Int) ≤ number)
    (high : number < Number.twoTo 63) (expected : String) (source : JsonSource) :
    (signed expected).json source (ofValue (.integer number)) = .ok number := by
  simp [signed, ofValue, low, high]

/-- A value that is not written as `null` is read back as present. -/
theorem json_optional {reader : Reader α} {toJson : α → Value} (reads : reader.ReadsBack toJson)
    {value : α} (isPresent : toJson value ≠ .null) (source : JsonSource) :
    reader.optional.json source (ofValue (toJson value)) = .ok (some value) := by
  have read := reads source value
  simp only [optional]
  generalize toJson value = content at *
  cases content with
  | null => exact absurd rfl isPresent
  | _ =>
      simp only [ofValue] at read ⊢
      simp only [read]
      rfl

/-! ## Lists and maps -/

theorem jsonItems_ofItems {reader : Reader α} {toJson : α → Value}
    (reads : reader.ReadsBack toJson) (source : JsonSource) (values : List α) :
    jsonItems (reader.json source) none (ofItems (values.map toJson)) = .ok values := by
  induction values with
  | nil => rfl
  | cons value rest ih =>
      simp only [List.map_cons, ofItems, jsonItems, reads source value, ih]
      rfl

theorem ReadsBack.list {reader : Reader α} {toJson : α → Value}
    (reads : reader.ReadsBack toJson) :
    reader.list.ReadsBack fun values => .array (values.map toJson) := by
  intro source values
  exact jsonItems_ofItems reads source values

/-- Entries that follow all those of a map, in order, are put behind them. -/
theorem jsonMembers_ofMembers {reader : Reader α} {toJson : α → Value}
    (reads : reader.ReadsBack toJson) (source : JsonSource) (entries : List (String × α))
    (map whole : NameMap α) (parts : whole.toList = map.toList ++ entries) :
    jsonMembers (reader.json source) none map
      (ofMembers (entries.map fun entry => (entry.1, toJson entry.2))) = .ok whole := by
  induction entries generalizing map with
  | nil =>
      rw [List.append_nil] at parts
      rw [NameMap.ext parts]
      rfl
  | cons entry rest ih =>
      have sorted := whole.sorted
      rw [parts, List.pairwise_append] at sorted
      simp only [List.map_cons, ofMembers, jsonMembers, reads source entry.2]
      apply ih
      rw [parts, NameMap.toList_insert_of_forall_lt]
      case before =>
        exact fun before member => sorted.2.2 before member entry List.mem_cons_self
      simp

theorem ReadsBack.keyed {reader : Reader α} {toJson : α → Value}
    (reads : reader.ReadsBack toJson) : reader.keyed.ReadsBack (Config.mapJson toJson) := by
  intro source map
  exact jsonMembers_ofMembers reads source map.toList .empty map rfl

end Reader

/-! ## Records -/

mutual

/-- One who passes over a whole value meets nothing. -/
theorem skipped_ofValue : ∀ value : Value, (ofValue value).skipped = none
  | .null | .bool _ | .integer _ | .real _ | .text _ => rfl
  | .array items => by
      simp [ofValue, Json.Draft.skipped, skippedItems_ofItems items]
  | .object members => by
      simp [ofValue, Json.Draft.skipped, skippedMembers_ofMembers members]

theorem skippedItems_ofItems :
    ∀ items : List Value, Json.Draft.skippedItems (ofItems items) = none
  | [] => rfl
  | item :: rest => by
      simp [ofItems, Json.Draft.skippedItems, skipped_ofValue item, skippedItems_ofItems rest]

theorem skippedMembers_ofMembers :
    ∀ members : List (String × Value), Json.Draft.skippedMembers (ofMembers members) = none
  | [] => rfl
  | (_, value) :: rest => by
      simp [ofMembers, Json.Draft.skippedMembers, skipped_ofValue value,
        skippedMembers_ofMembers rest]

end

namespace Record

/-- A lenient record passes over members that it does not know. -/
theorem jsonMembers_of_unknown {record : Record α} {source : JsonSource} {value : α}
    {given : List String} {members : List (String × Value)} (lenient : record.strict = false)
    (unknown : ∀ member ∈ members, record.field? member.1 = none)
    (complete : record.missing? given = none) :
    jsonMembers record source none value given (ofMembers members) = .ok value := by
  induction members with
  | nil => exact jsonMembers_nil_eq_ok_iff.2 ⟨rfl, complete, rfl⟩
  | cons member rest ih =>
      exact jsonMembers_cons_eq_ok_iff.2 ⟨_, rfl, .inl ⟨unknown member List.mem_cons_self, lenient,
        skipped_ofValue member.2, ih fun other among => unknown other (List.mem_cons_of_mem _ among)⟩⟩

/-- The members tell the fields in their order, some that are not required being
left out, and lead from one record to another. -/
inductive Fills (source : JsonSource) :
    List (RecordField α) → α → List (String × Value) → α → Prop where
  | done (value : α) : Fills source [] value [] value
  | put {field : RecordField α} {fields : List (RecordField α)} {value result : α}
      {content : Value} {members : List (String × Value)} {change : α → α}
      (reads : field.json source (ofValue content) = .ok change)
      (rest : Fills source fields (change value) members result) :
      Fills source (field :: fields) value ((field.name, content) :: members) result
  | skip {field : RecordField α} {fields : List (RecordField α)} {value result : α}
      {members : List (String × Value)} (free : field.required = false)
      (rest : Fills source fields value members result) :
      Fills source (field :: fields) value members result

/-- Only fields that were passed have been given, and all of those that are required. -/
structure Passed (passed : List (RecordField α)) (given : List String) : Prop where
  known : ∀ name ∈ given, name ∈ passed.map (·.name)
  complete : ∀ field ∈ passed, field.required = true → field.name ∈ given

theorem passed_nil : Passed ([] : List (RecordField α)) [] :=
  ⟨by simp, by simp⟩

theorem Passed.put {passed : List (RecordField α)} {given : List String}
    (before : Passed passed given) (field : RecordField α) :
    Passed (passed ++ [field]) (field.name :: given) := by
  constructor
  case known =>
    intro name member
    rw [List.map_append, List.mem_append]
    rcases List.mem_cons.1 member with rfl | earlier
    · exact .inr List.mem_cons_self
    · exact .inl (before.known name earlier)
  case complete =>
    intro other member required
    rcases List.mem_append.1 member with earlier | last
    · exact List.mem_cons_of_mem _ (before.complete other earlier required)
    · rw [List.mem_singleton.1 last]
      exact List.mem_cons_self

theorem Passed.skip {passed : List (RecordField α)} {given : List String}
    (before : Passed passed given) {field : RecordField α} (free : field.required = false) :
    Passed (passed ++ [field]) given := by
  constructor
  case known =>
    intro name member
    rw [List.map_append, List.mem_append]
    exact .inl (before.known name member)
  case complete =>
    intro other member required
    rcases List.mem_append.1 member with earlier | last
    · exact before.complete other earlier required
    · rw [List.mem_singleton.1 last, free] at required
      exact absurd required (by decide)

/-- Behind fields that were passed, the members for the other ones are read. -/
theorem jsonMembers_of_fills {record : Record α} {source : JsonSource}
    {passed fields : List (RecordField α)} {value result : α}
    {members : List (String × Value)} {given : List String}
    (distinct : record.names.Nodup) (parts : record.fields = passed ++ fields)
    (before : Passed passed given) (fills : Fills source fields value members result) :
    jsonMembers record source none value given (ofMembers members) = .ok result := by
  induction fills generalizing passed given with
  | done value =>
      have nothing : record.missing? given = none := by
        simpa [missing?, parts] using before.complete
      exact jsonMembers_nil_eq_ok_iff.2 ⟨rfl, nothing, rfl⟩
  | @put field fields value result content members change reads rest ih =>
      have found := field?_of_nodup distinct (show field ∈ record.fields by rw [parts]; simp)
      have fresh : field.name ∉ given := fun member => by
        rw [names, parts, List.map_append, List.nodup_append] at distinct
        exact distinct.2.2 _ (before.known _ member) field.name (by simp) rfl
      have readRest := ih (by rw [parts, List.append_assoc]; rfl) (before.put field)
      exact jsonMembers_cons_eq_ok_iff.2
        ⟨_, rfl, .inr ⟨field, change, found, fresh, reads, readRest⟩⟩
  | skip free rest ih => exact ih (by rw [parts, List.append_assoc]; rfl) (before.skip free)

/-- A record whose fields the members tell is read. -/
theorem json_of_fills {record : Record α} {source : JsonSource} {members : List (String × Value)}
    {result : α} (distinct : record.names.Nodup)
    (fills : Fills source record.fields record.blank members result) :
    record.reader.json source (ofValue (.object members)) = .ok result :=
  jsonMembers_of_fills distinct (List.nil_append _).symm passed_nil fills

/-- A member for a field that has a reader of its own. -/
theorem Fills.of {source : JsonSource} {name : String} {required : Bool} {reader : Reader β}
    {put : β → α → α} {part : β} {content : Value} {fields : List (RecordField α)}
    {value result : α} {members : List (String × Value)}
    (reads : reader.json source (ofValue content) = .ok part)
    (rest : Fills source fields (put part value) members result) :
    Fills source (.of name required reader put :: fields) value ((name, content) :: members)
      result :=
  .put (RecordField.json_of_eq_ok_iff.2 ⟨part, reads, rfl⟩) rest

/-- A field that may be absent, and is left out of the text when it is. -/
theorem Fills.present {source : JsonSource} {name : String} {reader : Reader β}
    {toJson : β → Value} (reads : reader.ReadsBack toJson)
    (isPresent : ∀ part, toJson part ≠ .null) {put : Option β → α → α} (part? : Option β)
    {fields : List (RecordField α)} {value result : α} {members : List (String × Value)}
    (blank : put none value = value)
    (rest : Fills source fields (put part? value) members result) :
    Fills source (.of name false reader.optional put :: fields) value
      (Config.presentMember name toJson part? ++ members) result := by
  cases part? with
  | none => exact .skip rfl (blank ▸ rest)
  | some part => exact .of (Reader.json_optional reads (isPresent part) source) rest

end Record

end PortTunnel.Schema
