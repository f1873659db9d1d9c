/-!
# Finite maps from names

Environments, namespaces and forwards are looked up by name and always visited
in the order of their names.  A map keeps its entries sorted and has at most one
entry for a name, so two maps with the same entries are equal.

Names are ordered by their code points, which is also the order of their bytes
in UTF-8.
-/

namespace PortTunnel

/-- A finite map from names. -/
structure NameMap (α : Type) where
  toList : List (String × α)
  sorted : toList.Pairwise (fun first second => first.1 < second.1)

namespace NameMap

variable {α β : Type}

theorem ext {first second : NameMap α} (same : first.toList = second.toList) :
    first = second := by
  cases first
  cases second
  simp_all

instance [DecidableEq α] : DecidableEq (NameMap α) := fun first second =>
  if same : first.toList = second.toList then isTrue (ext same)
  else isFalse fun equal => same (congrArg toList equal)

/-- The map without entries. -/
def empty : NameMap α := ⟨[], .nil⟩

instance : Inhabited (NameMap α) := ⟨empty⟩

/-- Put an entry into a sorted list of entries, in place of one of the same name. -/
def insertEntry (name : String) (value : α) : List (String × α) → List (String × α)
  | [] => [(name, value)]
  | (other, held) :: rest =>
      if name < other then (name, value) :: (other, held) :: rest
      else if other = name then (name, value) :: rest
      else (other, held) :: insertEntry name value rest

/-- The names after an insertion are the given one and those before. -/
theorem mem_insertEntry_names {name : String} {value : α} {entries : List (String × α)}
    {entry : String × α} (member : entry ∈ insertEntry name value entries) :
    entry.1 = name ∨ ∃ old ∈ entries, old.1 = entry.1 := by
  induction entries with
  | nil =>
      simp only [insertEntry, List.mem_singleton] at member
      exact .inl (by rw [member])
  | cons head rest ih =>
      obtain ⟨other, held⟩ := head
      simp only [insertEntry] at member
      split at member
      · rcases List.mem_cons.1 member with rfl | later
        · exact .inl rfl
        · exact .inr ⟨entry, later, rfl⟩
      · split at member
        · rcases List.mem_cons.1 member with rfl | later
          · exact .inl rfl
          · exact .inr ⟨entry, List.mem_cons_of_mem _ later, rfl⟩
        · rcases List.mem_cons.1 member with rfl | later
          · exact .inr ⟨_, List.mem_cons_self, rfl⟩
          · rcases ih later with same | ⟨old, there, same⟩
            · exact .inl same
            · exact .inr ⟨old, List.mem_cons_of_mem _ there, same⟩

/-- Insertion keeps the entries sorted. -/
theorem pairwise_insertEntry (name : String) (value : α) {entries : List (String × α)}
    (sorted : entries.Pairwise (fun first second => first.1 < second.1)) :
    (insertEntry name value entries).Pairwise (fun first second => first.1 < second.1) := by
  induction entries with
  | nil => simp [insertEntry]
  | cons head rest ih =>
      obtain ⟨other, held⟩ := head
      obtain ⟨before, sortedRest⟩ := List.pairwise_cons.1 sorted
      simp only [insertEntry]
      split
      · rename_i smaller
        refine List.pairwise_cons.2 ⟨fun entry member => ?_, sorted⟩
        rcases List.mem_cons.1 member with rfl | later
        · exact smaller
        · exact String.lt_trans smaller (before entry later)
      · split
        · rename_i notSmaller same
          subst same
          exact List.pairwise_cons.2 ⟨before, sortedRest⟩
        · rename_i notSmaller different
          refine List.pairwise_cons.2 ⟨fun entry member => ?_, ih sortedRest⟩
          have larger : other < name :=
            Std.lt_of_le_of_ne (String.not_lt.1 notSmaller) different
          rcases mem_insertEntry_names member with same | ⟨old, there, same⟩
          · exact same ▸ larger
          · exact same ▸ before old there

/-- Put an entry into a map, in place of one of the same name. -/
def insert (map : NameMap α) (name : String) (value : α) : NameMap α :=
  ⟨insertEntry name value map.toList, pairwise_insertEntry name value map.sorted⟩

/-- The value of a name. -/
def get? (map : NameMap α) (name : String) : Option α :=
  (map.toList.find? (·.1 == name)).map (·.2)

/-- Whether a name has a value. -/
def contains (map : NameMap α) (name : String) : Bool :=
  (map.get? name).isSome

/-- The names of a map, in order. -/
def names (map : NameMap α) : List String :=
  map.toList.map (·.1)

/-- The values of a map, in the order of their names. -/
def values (map : NameMap α) : List α :=
  map.toList.map (·.2)

/-- Whether a map has no entries. -/
def isEmpty (map : NameMap α) : Bool :=
  map.toList.isEmpty

/-- The number of entries. -/
def size (map : NameMap α) : Nat :=
  map.toList.length

/-- Change the value of a name, if it has one. -/
def modify (map : NameMap α) (name : String) (change : α → α) : NameMap α :=
  ⟨map.toList.map fun entry => (entry.1, if entry.1 == name then change entry.2 else entry.2),
    List.pairwise_map.2 map.sorted⟩

/-- Change every value. -/
def mapValues (map : NameMap α) (change : α → β) : NameMap β :=
  ⟨map.toList.map fun entry => (entry.1, change entry.2), List.pairwise_map.2 map.sorted⟩

/-- The map with the given entries, the last one of a name counting. -/
def ofList (entries : List (String × α)) : NameMap α :=
  entries.foldl (fun map entry => map.insert entry.1 entry.2) empty

end NameMap

end PortTunnel
