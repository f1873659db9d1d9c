import PortTunnel.Proofs.Json.Spelling

/-!
# Printed values read back

Values whose whole numbers fit in 64 bits and that hold no reals are exact: both
of their printed forms are texts of them, and so both are read back.
-/

namespace PortTunnel.Json

/-- A value that its text tells exactly. -/
inductive Exact : Value → Prop where
  | null : Exact .null
  | bool (truth : Bool) : Exact (.bool truth)
  | integer {number : Int} (low : -(Number.twoTo 63 : Int) ≤ number)
      (high : number ≤ greatestWord) : Exact (.integer number)
  | text (content : String) : Exact (.text content)
  | array {items : List Value} (all : ∀ item ∈ items, Exact item) : Exact (.array items)
  | object {members : List (String × Value)} (all : ∀ member ∈ members, Exact member.2) :
      Exact (.object members)

@[simp]
theorem exact_text (content : String) : Exact (.text content) :=
  .text content

@[simp]
theorem exact_integer_iff {number : Int} :
    Exact (.integer number) ↔ -(Number.twoTo 63 : Int) ≤ number ∧ number ≤ greatestWord := by
  constructor
  · rintro (_ | _ | ⟨low, high⟩)
    exact ⟨low, high⟩
  · exact fun ⟨low, high⟩ => .integer low high

@[simp]
theorem exact_array_iff {items : List Value} :
    Exact (.array items) ↔ ∀ item ∈ items, Exact item := by
  constructor
  · rintro (_ | _ | _ | _ | all)
    exact all
  · exact .array

@[simp]
theorem exact_object_iff {members : List (String × Value)} :
    Exact (.object members) ↔ ∀ member ∈ members, Exact member.2 := by
  constructor
  · rintro (_ | _ | _ | _ | _ | all)
    exact all
  · exact .object

namespace Value

theorem blank_nil : Blank [] := by
  simp [Blank]

theorem blank_lineBreak (depth : Nat) : Blank (lineBreak depth).toList := by
  intro character member
  simp only [lineBreak, String.toList_ofList, List.mem_cons, List.mem_replicate] at member
  obtain rfl | ⟨-, rfl⟩ := member <;> rfl

theorem toList_quote (content : String) :
    (quote content).toList = '"' :: (escaped content ++ ['"']) := by
  simp [quote, escaped]

/-! ## On one line -/

theorem spellsItems_compactItems {items : List Value} (present : items ≠ [])
    (all : ∀ item ∈ items, Spells item item.compact.toList) :
    SpellsItems items (compactItems items).toList := by
  induction items with
  | nil => exact absurd rfl present
  | cons item rest ih =>
      have first := all item List.mem_cons_self
      cases rest with
      | nil => simpa [compactItems] using SpellsItems.last first blank_nil
      | cons next rest =>
          have others := ih (List.cons_ne_nil _ _) fun other member =>
            all other (List.mem_cons_of_mem _ member)
          simpa [compactItems] using SpellsItems.more first blank_nil blank_nil others

theorem spellsMembers_compactMembers {members : List (String × Value)} (present : members ≠ [])
    (all : ∀ member ∈ members, Spells member.2 member.2.compact.toList) :
    ∃ inner, (compactMembers members).toList = '"' :: inner ∧ SpellsMembers members inner := by
  induction members with
  | nil => exact absurd rfl present
  | cons member rest ih =>
      obtain ⟨name, value⟩ := member
      have first := all _ List.mem_cons_self
      cases rest with
      | nil =>
          refine ⟨_, ?_, SpellsMembers.last blank_nil blank_nil first blank_nil⟩
          simp [compactMembers, toList_quote]
      | cons next rest =>
          obtain ⟨inner, starts, others⟩ := ih (List.cons_ne_nil _ _) fun other member =>
            all other (List.mem_cons_of_mem _ member)
          refine ⟨_, ?_, SpellsMembers.more blank_nil blank_nil first blank_nil blank_nil others⟩
          simp [compactMembers, toList_quote, starts]

/-- The form on one line is a text of the value. -/
theorem spells_compact {value : Value} (exact : Exact value) :
    Spells value value.compact.toList := by
  induction exact with
  | null => exact .null
  | bool truth => cases truth <;> constructor
  | integer low high => exact .integer low high
  | text content =>
      rw [compact, toList_quote]
      exact .text content
  | @array items all ih =>
      cases items with
      | nil => exact .noItems blank_nil
      | cons item rest =>
          simpa [compact] using
            Spells.array blank_nil (spellsItems_compactItems (List.cons_ne_nil item rest) ih)
  | @object members all ih =>
      cases members with
      | nil => exact .noMembers blank_nil
      | cons member rest =>
          obtain ⟨inner, starts, spelled⟩ :=
            spellsMembers_compactMembers (List.cons_ne_nil member rest) ih
          simpa [compact, starts] using Spells.object blank_nil spelled

/-! ## On lines of their own -/

theorem spellsItems_indentedItems {depth : Nat} {items : List Value} (present : items ≠ [])
    (all : ∀ item ∈ items, Spells item (indented depth item).toList) :
    ∃ inner, (indentedItems depth items).toList = (lineBreak depth).toList ++ inner ∧
      ∀ gap, Blank gap → SpellsItems items (inner ++ gap) := by
  induction items with
  | nil => exact absurd rfl present
  | cons item rest ih =>
      have first := all item List.mem_cons_self
      cases rest with
      | nil =>
          refine ⟨(indented depth item).toList, ?_, fun gap blank => .last first blank⟩
          simp [indentedItems]
      | cons next rest =>
          obtain ⟨inner, starts, others⟩ := ih (List.cons_ne_nil _ _) fun other member =>
            all other (List.mem_cons_of_mem _ member)
          refine ⟨(indented depth item).toList ++ ',' :: ((lineBreak depth).toList ++ inner),
            ?_, fun gap blank => ?_⟩
          · simp [indentedItems, starts]
          · simpa using
              SpellsItems.more first blank_nil (blank_lineBreak depth) (others gap blank)

theorem spellsMembers_indentedMembers {depth : Nat} {members : List (String × Value)}
    (present : members ≠ [])
    (all : ∀ member ∈ members, Spells member.2 (indented depth member.2).toList) :
    ∃ inner, (indentedMembers depth members).toList = (lineBreak depth).toList ++ '"' :: inner ∧
      ∀ gap, Blank gap → SpellsMembers members (inner ++ gap) := by
  have blank_one : Blank [' '] := by simp [Blank, Draft.isSpace]
  induction members with
  | nil => exact absurd rfl present
  | cons member rest ih =>
      obtain ⟨name, value⟩ := member
      have first := all _ List.mem_cons_self
      cases rest with
      | nil =>
          refine ⟨escaped name ++ '"' :: ':' :: ' ' :: (indented depth value).toList,
            ?_, fun gap blank => ?_⟩
          · simp [indentedMembers, toList_quote]
          · simpa using @SpellsMembers.last name _ _ _ _ _ blank_nil blank_one first blank
      | cons next rest =>
          obtain ⟨inner, starts, others⟩ := ih (List.cons_ne_nil _ _) fun other member =>
            all other (List.mem_cons_of_mem _ member)
          refine ⟨escaped name ++ '"' :: ':' :: ' ' :: ((indented depth value).toList ++
            ',' :: ((lineBreak depth).toList ++ '"' :: inner)), ?_, fun gap blank => ?_⟩
          · simp [indentedMembers, toList_quote, starts]
          · simpa using @SpellsMembers.more name _ _ _ _ _ _ _ _ blank_nil blank_one first blank_nil
              (blank_lineBreak depth) (others gap blank)

/-- The form on lines of their own is a text of the value, wherever it starts. -/
theorem spells_indented {value : Value} (exact : Exact value) (depth : Nat) :
    Spells value (indented depth value).toList := by
  induction exact generalizing depth with
  | null =>
      rw [indented]
      exact .null
  | bool truth => cases truth <;> rw [indented] <;> constructor
  | integer low high =>
      rw [indented]
      exact .integer low high
  | text content =>
      rw [indented, toList_quote]
      exact .text content
  | @array items all ih =>
      cases items with
      | nil =>
          rw [indented]
          exact .noItems blank_nil
      | cons item rest =>
          obtain ⟨inner, starts, spelled⟩ := spellsItems_indentedItems
            (List.cons_ne_nil item rest) fun item member => ih item member (depth + 1)
          simpa [indented, starts] using
            Spells.array (blank_lineBreak (depth + 1)) (spelled _ (blank_lineBreak depth))
  | @object members all ih =>
      cases members with
      | nil =>
          rw [indented]
          exact .noMembers blank_nil
      | cons member rest =>
          obtain ⟨inner, starts, spelled⟩ := spellsMembers_indentedMembers
            (List.cons_ne_nil member rest) fun member among => ih member among (depth + 1)
          simpa [indented, starts] using
            Spells.object (blank_lineBreak (depth + 1)) (spelled _ (blank_lineBreak depth))

end Value

/-! ## Whole documents -/

/-- The texts that a value is printed as. -/
def IsPrinted (value : Value) (document : String) : Prop :=
  document = value.compact ∨ document = value.pretty

namespace Draft

/-- A text of a value with blanks around it is a document of the draft. -/
theorem isDocument_of_spells {value : Value} {document : String} {gap₁ inner gap₂ : List Char}
    (blank₁ : Blank gap₁) (spelled : Spells value inner) (blank₂ : Blank gap₂)
    (written : document.toList = gap₁ ++ (inner ++ gap₂)) :
    IsDocument (ofValue value) document :=
  .written blank₁ (written_of_spells spelled) blank₂ written

/-- A document that holds a text of a value, and blanks around it, is read. -/
theorem ofText_of_spells {value : Value} {document : String} {gap₁ inner gap₂ : List Char}
    (blank₁ : Blank gap₁) (spelled : Spells value inner) (blank₂ : Blank gap₂)
    (written : document.toList = gap₁ ++ (inner ++ gap₂)) :
    ofText document = (ofValue value, false) :=
  (ofText_eq_iff_isDocument.2 (isDocument_of_spells blank₁ spelled blank₂ written)).2

/-- Printed values are documents. -/
theorem isDocument_of_isPrinted {value : Value} {document : String} (exact : Exact value)
    (printed : IsPrinted value document) : IsDocument (ofValue value) document := by
  rcases printed with rfl | rfl
  · exact isDocument_of_spells Value.blank_nil (Value.spells_compact exact) Value.blank_nil
      (by simp)
  · exact isDocument_of_spells Value.blank_nil (Value.spells_indented exact 0) Value.blank_nil
      (by simp [Value.pretty])

/-- Printed values are read back. -/
theorem ofText_of_isPrinted {value : Value} {document : String} (exact : Exact value)
    (printed : IsPrinted value document) : ofText document = (ofValue value, false) :=
  (ofText_eq_iff_isDocument.2 (isDocument_of_isPrinted exact printed)).2

end Draft

end PortTunnel.Json
