import PortTunnel.NameMap

/-!
# Looking up names

What a map answers about a name after each of its operations.  Later modules
reason about maps by these equations alone.
-/

namespace PortTunnel.NameMap

variable {α β : Type}

theorem isEmpty_iff {map : NameMap α} : map.isEmpty = true ↔ map = .empty := by
  constructor
  · intro isEmpty
    exact ext (List.isEmpty_iff.1 isEmpty)
  · rintro rfl
    rfl

/-- Looking a name up in a list of entries. -/
theorem find?_insertEntry (name other : String) (value : α) (entries : List (String × α)) :
    ((insertEntry name value entries).find? (·.1 == other)).map (·.2) =
      if other = name then some value else (entries.find? (·.1 == other)).map (·.2) := by
  induction entries with
  | nil =>
      by_cases same : other = name
      · simp [insertEntry, same]
      · simp [insertEntry, same, Ne.symm same]
  | cons head rest ih =>
      obtain ⟨held, content⟩ := head
      simp only [insertEntry]
      by_cases before : name < held
      · rw [if_pos before]
        by_cases same : other = name
        · simp [same]
        · simp [same, Ne.symm same]
      · rw [if_neg before]
        by_cases equal : held = name
        · subst equal
          by_cases same : other = held
          · simp [same]
          · simp [same, Ne.symm same]
        · rw [if_neg equal]
          by_cases first : held = other
          · subst first
            simp [equal]
          · simpa [first] using ih

@[simp]
theorem get?_insert (map : NameMap α) (name other : String) (value : α) :
    (map.insert name value).get? other = if other = name then some value else map.get? other :=
  find?_insertEntry name other value map.toList

@[simp]
theorem get?_mapValues (map : NameMap α) (change : α → β) (name : String) :
    (map.mapValues change).get? name = (map.get? name).map change := by
  simp [get?, mapValues, List.find?_map, Function.comp_def]

@[simp]
theorem get?_modify (map : NameMap α) (name other : String) (change : α → α) :
    (map.modify name change).get? other =
      if other = name then (map.get? other).map change else map.get? other := by
  simp only [get?, modify, List.find?_map, Function.comp_def, Option.map_map]
  cases found : map.toList.find? (·.1 == other) with
  | none => simp
  | some entry =>
      obtain rfl : entry.1 = other := by simpa using List.find?_some found
      by_cases same : entry.1 = name <;> simp [same]

/-- An entry whose name comes after all others is put at the end. -/
theorem toList_insert_of_forall_lt {map : NameMap α} {name : String}
    (before : ∀ entry ∈ map.toList, entry.1 < name) (value : α) :
    (map.insert name value).toList = map.toList ++ [(name, value)] := by
  obtain ⟨entries, sorted⟩ := map
  simp only [insert] at before ⊢
  clear sorted
  induction entries with
  | nil => rfl
  | cons head rest ih =>
      have smaller := before head List.mem_cons_self
      have notBefore : ¬ name < head.1 := String.lt_asymm smaller
      have different : head.1 ≠ name := fun same => String.lt_irrefl name (same ▸ smaller)
      rw [insertEntry, if_neg notBefore, if_neg different,
        ih fun entry member => before entry (List.mem_cons_of_mem _ member), List.cons_append]

/-- A map holds an entry exactly if it answers with it. -/
theorem mem_toList_iff (map : NameMap α) (name : String) (value : α) :
    (name, value) ∈ map.toList ↔ map.get? name = some value := by
  obtain ⟨entries, sorted⟩ := map
  simp only [get?]
  induction entries with
  | nil => simp
  | cons head rest ih =>
      obtain ⟨held, content⟩ := head
      obtain ⟨before, sortedRest⟩ := List.pairwise_cons.1 sorted
      by_cases same : held = name
      · subst same
        have absent : (held, value) ∉ rest := fun member =>
          String.lt_irrefl held (before _ member)
        simp [absent, eq_comm]
      · have different : ¬ name = held := Ne.symm same
        simp [same, different, ih sortedRest]

/-- A map names exactly what it has values for. -/
theorem mem_names_iff (map : NameMap α) (name : String) :
    name ∈ map.names ↔ ∃ value, map.get? name = some value := by
  simp only [names, List.mem_map, Prod.exists, exists_and_right, exists_eq_right,
    mem_toList_iff]

/-- The values of a map are the ones that it answers with. -/
theorem mem_values_iff (map : NameMap α) (value : α) :
    value ∈ map.values ↔ ∃ name, map.get? name = some value := by
  simp only [values, List.mem_map, Prod.exists, exists_eq_right, mem_toList_iff]

/-- The names of a map are different. -/
theorem nodup_names (map : NameMap α) : map.names.Nodup := by
  apply List.Pairwise.map _ _ map.sorted
  intro first second before same
  exact String.lt_irrefl second.1 (same ▸ before)

end PortTunnel.NameMap
