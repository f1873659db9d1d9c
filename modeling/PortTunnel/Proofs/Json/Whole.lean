import PortTunnel.Json.Draft

/-!
# Drafts without a break

A draft is whole if nothing in it breaks.  Lone surrogates and numbers out of range are no
breaks: the grammar admits them.  Whole drafts are those that can be passed over.
-/

namespace PortTunnel.Json.Draft

/-- Nothing in the draft breaks. -/
inductive Whole : Draft → Prop where
  | null : Whole .null
  | bool (truth : Bool) : Whole (.bool truth)
  | integer (number : Int) : Whole (.integer number)
  | real (numeral : Number.Numeral) : Whole (.real numeral)
  | text (content : String) : Whole (.text content)
  | unpaired : Whole .unpaired
  | array {items : List Draft} (each : ∀ item ∈ items, Whole item) : Whole (.array items none)
  | object {members : List (Option String × Draft)} (each : ∀ member ∈ members, Whole member.2) :
      Whole (.object members none)

theorem whole_array_iff {items : List Draft} {ending : Option Breakage} :
    Whole (.array items ending) ↔ (∀ item ∈ items, Whole item) ∧ ending = none := by
  constructor
  · intro whole
    cases whole with
    | array each => exact ⟨each, rfl⟩
  · rintro ⟨each, rfl⟩
    exact .array each

theorem whole_object_iff {members : List (Option String × Draft)} {ending : Option Breakage} :
    Whole (.object members ending) ↔ (∀ member ∈ members, Whole member.2) ∧ ending = none := by
  constructor
  · intro whole
    cases whole with
    | object each => exact ⟨each, rfl⟩
  · rintro ⟨each, rfl⟩
    exact .object each

mutual

/-- One who passes over a draft meets no fault exactly if it is whole. -/
theorem skipped_eq_none_iff : ∀ {draft : Draft}, draft.skipped = none ↔ Whole draft
  | .null => ⟨fun _ => .null, fun _ => rfl⟩
  | .bool truth => ⟨fun _ => .bool truth, fun _ => rfl⟩
  | .integer number => ⟨fun _ => .integer number, fun _ => rfl⟩
  | .real numeral => ⟨fun _ => .real numeral, fun _ => rfl⟩
  | .text content => ⟨fun _ => .text content, fun _ => rfl⟩
  | .unpaired => ⟨fun _ => .unpaired, fun _ => rfl⟩
  | .broken breakage => ⟨nofun, nofun⟩
  | .array items ending => by
      rw [whole_array_iff, ← skippedItems_eq_none_iff]
      cases found : skippedItems items <;> cases ending <;> simp [skipped, found]
  | .object members ending => by
      rw [whole_object_iff, ← skippedMembers_eq_none_iff]
      cases found : skippedMembers members <;> cases ending <;> simp [skipped, found]

theorem skippedItems_eq_none_iff :
    ∀ {items : List Draft}, skippedItems items = none ↔ ∀ item ∈ items, Whole item
  | [] => by simp [skippedItems]
  | item :: rest => by
      rw [List.forall_mem_cons, ← skipped_eq_none_iff, ← skippedItems_eq_none_iff]
      cases found : item.skipped <;> simp [skippedItems, found]

theorem skippedMembers_eq_none_iff : ∀ {members : List (Option String × Draft)},
    skippedMembers members = none ↔ ∀ member ∈ members, Whole member.2
  | [] => by simp [skippedMembers]
  | (name?, value) :: rest => by
      rw [List.forall_mem_cons, ← skipped_eq_none_iff, ← skippedMembers_eq_none_iff]
      cases found : value.skipped <;> simp [skippedMembers, found]

end

end PortTunnel.Json.Draft
