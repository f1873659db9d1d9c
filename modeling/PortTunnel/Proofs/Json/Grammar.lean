import PortTunnel.Proofs.Json.Numerals
import PortTunnel.Proofs.Json.Quotes

/-!
# The grammar of JSON

A document is a value with blanks around it, and the parts of a value may have
blanks between them.  The relation `Written` holds between a draft and the texts
of it that the grammar admits, whatever forms of numbers and strings they use.
The main result is that the reader accepts just these: it finds a draft without a
break, with nothing behind it, in the documents that are written for the draft,
and in no others.
-/

namespace PortTunnel.Json

open Draft (EndsNumber readValue)

/-- White space only. -/
def Blank (gap : List Char) : Prop :=
  ∀ character ∈ gap, Draft.isSpace character = true

namespace Draft

/-- What is made of a number. -/
def ofNumber (inner : List Char) : Draft :=
  (readValue 1 inner).1

/-- What is made of a string. -/
def ofContent : Option (List Char) → Draft
  | some content => .text (String.ofList content)
  | none => .unpaired

mutual

/-- The characters are a text of the draft, without blanks around it. -/
inductive Written : Draft → List Char → Prop where
  | null : Written .null ['n', 'u', 'l', 'l']
  | true : Written (.bool Bool.true) ['t', 'r', 'u', 'e']
  | false : Written (.bool Bool.false) ['f', 'a', 'l', 's', 'e']
  | number {inner : List Char} (isNumber : IsNumber inner) : Written (ofNumber inner) inner
  | string {content : Option (List Char)} {inner : List Char} (quotes : Quotes content inner) :
      Written (ofContent content) ('"' :: (inner ++ ['"']))
  | noItems {gap : List Char} (blank : Blank gap) : Written (.array [] none) ('[' :: (gap ++ [']']))
  | array {items : List Draft} {gap inner : List Char} (blank : Blank gap)
      (written : WrittenItems items inner) :
      Written (.array items none) ('[' :: (gap ++ (inner ++ [']'])))
  | noMembers {gap : List Char} (blank : Blank gap) :
      Written (.object [] none) ('\x7b' :: (gap ++ ['\x7d']))
  | object {members : List (Option String × Draft)} {gap inner : List Char} (blank : Blank gap)
      (written : WrittenMembers members inner) :
      Written (.object members none) ('\x7b' :: (gap ++ ('"' :: (inner ++ ['\x7d']))))

/-- The characters are a text of one item or more, from the first item up to the
closing bracket. -/
inductive WrittenItems : List Draft → List Char → Prop where
  | last {item : Draft} {inner gap : List Char} (written : Written item inner)
      (blank : Blank gap) : WrittenItems [item] (inner ++ gap)
  | more {item : Draft} {items : List Draft} {inner gap₁ gap₂ others : List Char}
      (written : Written item inner) (blank₁ : Blank gap₁) (blank₂ : Blank gap₂)
      (writtenRest : WrittenItems items others) :
      WrittenItems (item :: items) (inner ++ (gap₁ ++ ',' :: (gap₂ ++ others)))

/-- The characters are a text of one member or more, from behind the first quote
up to the closing brace. -/
inductive WrittenMembers : List (Option String × Draft) → List Char → Prop where
  | last {name : Option (List Char)} {value : Draft} {quoted gap₁ gap₂ inner gap₃ : List Char}
      (quotes : Quotes name quoted) (blank₁ : Blank gap₁) (blank₂ : Blank gap₂)
      (written : Written value inner) (blank₃ : Blank gap₃) :
      WrittenMembers [(name.map String.ofList, value)]
        (quoted ++ '"' :: (gap₁ ++ ':' :: (gap₂ ++ (inner ++ gap₃))))
  | more {name : Option (List Char)} {value : Draft} {members : List (Option String × Draft)}
      {quoted gap₁ gap₂ inner gap₃ gap₄ others : List Char}
      (quotes : Quotes name quoted) (blank₁ : Blank gap₁) (blank₂ : Blank gap₂)
      (written : Written value inner) (blank₃ : Blank gap₃) (blank₄ : Blank gap₄)
      (writtenRest : WrittenMembers members others) :
      WrittenMembers ((name.map String.ofList, value) :: members)
        (quoted ++
          '"' :: (gap₁ ++ ':' :: (gap₂ ++ (inner ++ (gap₃ ++ ',' :: (gap₄ ++ '"' :: others))))))

end

/-- The document is a text of the draft, with blanks around it. -/
inductive IsDocument (draft : Draft) (document : String) : Prop where
  | written {gap₁ inner gap₂ : List Char} (blank₁ : Blank gap₁) (written : Written draft inner)
      (blank₂ : Blank gap₂) (parts : document.toList = gap₁ ++ (inner ++ gap₂)) :
      IsDocument draft document

/-! ## Blanks -/

theorem skipSpace_append {gap : List Char} (blank : Blank gap) (rest : List Char) :
    skipSpace (gap ++ rest) = skipSpace rest :=
  List.dropWhile_append_of_pos blank

theorem skipSpace_cons {first : Char} (printed : isSpace first = false) (rest : List Char) :
    skipSpace (first :: rest) = first :: rest := by
  simp [skipSpace, printed]

/-- What is passed over in front of a part are blanks. -/
theorem exists_gap {characters rest : List Char} (skipped : skipSpace characters = rest) :
    ∃ gap, Blank gap ∧ characters = gap ++ rest := by
  refine ⟨characters.takeWhile isSpace, List.all_eq_true.1 List.all_takeWhile, ?_⟩
  rw [← skipped, skipSpace, List.takeWhile_append_dropWhile]

theorem blank_of_skipSpace_eq_nil {gap : List Char} (nothing : skipSpace gap = []) :
    Blank gap := by
  obtain ⟨blanks, blank, rfl⟩ := exists_gap nothing
  rwa [List.append_nil]

theorem continuesNumber_of_isSpace {character : Char} (isBlank : isSpace character = true) :
    continuesNumber character = false := by
  simp only [isSpace, Bool.or_eq_true, beq_iff_eq] at isBlank
  obtain ((rfl | rfl) | rfl) | rfl := isBlank <;> rfl

/-- A number ends where nothing but blanks follows. -/
theorem endsNumber_blank {gap : List Char} (blank : Blank gap) : EndsNumber gap := by
  cases gap with
  | nil => exact endsNumber_nil
  | cons first gap =>
      exact endsNumber_cons.2 (continuesNumber_of_isSpace (blank first List.mem_cons_self))

/-- A number ends where blanks stand or the text around it goes on. -/
theorem endsNumber_append {gap : List Char} (blank : Blank gap) (next : Char) (rest : List Char)
    (ends : continuesNumber next = false) :
    EndsNumber (gap ++ next :: rest) := by
  cases gap with
  | nil => exact endsNumber_cons.2 ends
  | cons first gap =>
      exact endsNumber_cons.2 (continuesNumber_of_isSpace (blank first List.mem_cons_self))

/-- Blanks in front of a value are passed over. -/
theorem readValue_blank {gap : List Char} (blank : Blank gap) (fuel : Nat)
    (characters : List Char) :
    readValue fuel (gap ++ characters) = readValue fuel characters := by
  cases fuel with
  | zero => rfl
  | succ fuel => rw [readValue, readValue, skipSpace_append blank]

/-- Blanks in front of items are passed over. -/
theorem readItems_skipSpace (fuel : Nat) (characters : List Char) :
    readItems fuel (skipSpace characters) = readItems fuel characters := by
  obtain ⟨gap, blank, same⟩ := exists_gap (rfl : skipSpace characters = _)
  cases fuel with
  | zero => rfl
  | succ fuel =>
      have read := readValue_blank blank fuel (skipSpace characters)
      rw [← same] at read
      rw [readItems, readItems, read]

/-! ## Numbers -/

theorem isSpace_of_isDigit {character : Char} (isDigit : character.isDigit = true) :
    isSpace character = false := by
  rw [← Bool.not_eq_true]
  intro isBlank
  simp only [isSpace, Bool.or_eq_true, beq_iff_eq] at isBlank
  obtain ((rfl | rfl) | rfl) | rfl := isBlank <;> exact absurd isDigit (by decide)

/-- A value that starts with a digit is a number. -/
theorem readValue_of_isDigit {fuel : Nat} {first : Char} {rest : List Char}
    (isDigit : first.isDigit = true) :
    readValue (fuel + 1) (first :: rest) = readMagnitude false (first :: rest) := by
  have isSome : (digit? first).isSome = true := by rw [digit?_of_isDigit isDigit]; rfl
  rw [readValue, skipSpace_cons (isSpace_of_isDigit isDigit)]
  split
  case h_8 same =>
    cases same
    rw [if_pos isSome]
  case h_9 same => exact absurd same (List.cons_ne_nil _ _)
  -- No digit is one of the characters that other values start with.
  all_goals
    rename_i same
    cases same
    exact absurd isDigit (by decide)

theorem exists_first_of_isMagnitude {magnitude : List Char} (isMagnitude : IsMagnitude magnitude) :
    ∃ first rest, magnitude = first :: rest ∧ first.isDigit = true := by
  cases isMagnitude with
  | parts isWhole =>
      cases isWhole with
      | zero => exact ⟨'0', _, rfl, rfl⟩
      | digits positive isDigits =>
          exact ⟨_, _, rfl, isDigits.each _ List.mem_cons_self⟩

/-- A number is taken by the reader of values, with any number of steps left. -/
theorem takes_readValue {inner : List Char} (isNumber : IsNumber inner) :
    ∃ draft : Draft, draft.Whole ∧ ∀ fuel rest, EndsNumber rest →
      readValue (fuel + 1) (inner ++ rest) = (draft, some rest) := by
  cases isNumber with
  | positive isMagnitude =>
      obtain ⟨first, others, rfl, isDigit⟩ := exists_first_of_isMagnitude isMagnitude
      obtain ⟨draft, whole, taken⟩ : Takes (readMagnitude false) _ :=
        takes_readMagnitude isMagnitude
      refine ⟨draft, whole, fun fuel rest ends => ?_⟩
      rw [List.cons_append, readValue_of_isDigit isDigit]
      exact taken rest ends
  | negative isMagnitude =>
      obtain ⟨draft, whole, taken⟩ : Takes (readMagnitude true) _ :=
        takes_readMagnitude isMagnitude
      refine ⟨draft, whole, fun fuel rest ends => ?_⟩
      rw [List.cons_append, readValue, skipSpace_cons rfl]
      exact taken rest ends

/-- A number is read up to where it ends, and as it is read when nothing follows. -/
theorem readValue_of_isNumber {inner rest : List Char} (isNumber : IsNumber inner) (fuel : Nat)
    (ends : EndsNumber rest) :
    readValue (fuel + 1) (inner ++ rest) = (ofNumber inner, some rest) := by
  obtain ⟨draft, -, taken⟩ := takes_readValue isNumber
  have alone := taken 0 [] endsNumber_nil
  rw [List.append_nil] at alone
  rw [taken fuel rest ends, ofNumber, alone]

theorem whole_ofNumber {inner : List Char} (isNumber : IsNumber inner) :
    (ofNumber inner).Whole := by
  obtain ⟨draft, whole, taken⟩ := takes_readValue isNumber
  have alone := taken 0 [] endsNumber_nil
  rw [List.append_nil] at alone
  rwa [ofNumber, alone]

/-! ## The first character of a value -/

theorem exists_first_of_isNumber {inner : List Char} (isNumber : IsNumber inner) :
    ∃ first rest, inner = first :: rest ∧ isSpace first = false ∧ first ≠ ']' := by
  cases isNumber with
  | positive isMagnitude =>
      obtain ⟨first, others, rfl, isDigit⟩ := exists_first_of_isMagnitude isMagnitude
      exact ⟨first, others, rfl, isSpace_of_isDigit isDigit, ne_of_isDigit isDigit rfl⟩
  | negative => exact ⟨'-', _, rfl, rfl, by decide⟩

/-- The first character of a text, by which a reader tells that a value starts there. -/
theorem exists_first {draft : Draft} {inner : List Char} (written : Written draft inner) :
    ∃ first rest, inner = first :: rest ∧ isSpace first = false ∧ first ≠ ']' := by
  cases written
  case number isNumber => exact exists_first_of_isNumber isNumber
  all_goals exact ⟨_, _, rfl, rfl, by decide⟩

theorem exists_first_item {items : List Draft} {inner : List Char}
    (written : WrittenItems items inner) :
    ∃ first rest, inner = first :: rest ∧ isSpace first = false ∧ first ≠ ']' := by
  cases written
  case last written blank =>
    obtain ⟨first, rest, rfl, isFirst⟩ := exists_first written
    exact ⟨first, _, rfl, isFirst⟩
  case more written blank₁ blank₂ writtenRest =>
    obtain ⟨first, rest, rfl, isFirst⟩ := exists_first written
    exact ⟨first, _, rfl, isFirst⟩

/-! ## One step of the reader -/

/-- Behind an opening bracket stands an item, if not the closing one. -/
theorem readValue_bracket {fuel : Nat} {first : Char} {rest inner : List Char}
    (starts : skipSpace rest = first :: inner) (isItem : first ≠ ']') :
    readValue (fuel + 1) ('[' :: rest) =
      (.array (readItems fuel (first :: inner)).1 (readItems fuel (first :: inner)).2.1,
        (readItems fuel (first :: inner)).2.2) := by
  rw [readValue, skipSpace_cons rfl]
  simp only [starts]
  split
  case h_1 same => exact absurd same (List.cons_ne_nil _ _)
  case h_2 same => exact absurd (List.cons.inj same).1 isItem
  case h_3 => rfl

/-- Behind an item and a comma stand the other items. -/
theorem readItems_comma {fuel : Nat} {item : Draft} {first : Char}
    {characters between rest inner : List Char}
    (read : readValue fuel characters = (item, some between))
    (comma : skipSpace between = ',' :: rest) (starts : skipSpace rest = first :: inner)
    (isItem : first ≠ ']') :
    readItems (fuel + 1) characters =
      (item :: (readItems fuel (first :: inner)).1, (readItems fuel (first :: inner)).2) := by
  rw [readItems, read]
  simp only [comma, starts]
  split
  case h_1 same => exact absurd (List.cons.inj same).1 isItem
  case h_2 => rfl

/-! ## What is written is read -/

/-- A text of at least one character leaves a step to the reader. -/
theorem exists_less {first : Char} {inner : List Char} {fuel : Nat}
    (enough : 2 * (first :: inner).length ≤ fuel) : ∃ less, fuel = less + 1 :=
  ⟨fuel - 1, by rw [List.length_cons] at enough; omega⟩

mutual

/-- A draft is read from each of its texts. -/
theorem readValue_of_written {draft : Draft} {inner : List Char} (written : Written draft inner) :
    ∀ (fuel : Nat) (rest : List Char), 2 * inner.length ≤ fuel → EndsNumber rest →
      readValue fuel (inner ++ rest) = (draft, some rest) := by
  intro fuel rest
  match written with
  | .null =>
      intro enough _
      obtain ⟨fuel, rfl⟩ := exists_less enough
      rfl
  | .true =>
      intro enough _
      obtain ⟨fuel, rfl⟩ := exists_less enough
      rfl
  | .false =>
      intro enough _
      obtain ⟨fuel, rfl⟩ := exists_less enough
      rfl
  | .number isNumber =>
      intro enough ends
      obtain ⟨first, others, starts, -⟩ := exists_first_of_isNumber isNumber
      obtain ⟨fuel, rfl⟩ := exists_less (starts ▸ enough)
      exact readValue_of_isNumber isNumber fuel ends
  | @Written.string content _ quotes =>
      intro enough _
      obtain ⟨fuel, rfl⟩ := exists_less enough
      have read : readString _ = .closed _ rest := readString_of_quotes quotes
      cases content <;> simp [readValue, skipSpace_cons, isSpace, read, ofContent]
  | .noItems blank =>
      intro enough _
      obtain ⟨fuel, rfl⟩ := exists_less enough
      simp [readValue, skipSpace_cons, isSpace, skipSpace_append blank]
  | .array blank writtenItems =>
      intro enough _
      obtain ⟨fuel, rfl⟩ := exists_less enough
      simp only [List.length_cons, List.length_append] at enough
      have read := readItems_of_written writtenItems fuel rest (by omega)
      obtain ⟨first, others, rfl, printed, isItem⟩ := exists_first_item writtenItems
      simp only [List.append_assoc, List.cons_append, List.nil_append] at read ⊢
      rw [readValue_bracket (by rw [skipSpace_append blank, skipSpace_cons printed]) isItem, read]
  | .noMembers blank =>
      intro enough _
      obtain ⟨fuel, rfl⟩ := exists_less enough
      simp [readValue, skipSpace_cons, isSpace, skipSpace_append blank]
  | .object blank writtenMembers =>
      intro enough _
      obtain ⟨fuel, rfl⟩ := exists_less enough
      simp only [List.length_cons, List.length_append] at enough
      have read := readMembers_of_written writtenMembers fuel rest (by omega)
      simp [readValue, skipSpace_cons, isSpace, skipSpace_append blank, read]

/-- Items are read up to the closing bracket. -/
theorem readItems_of_written {items : List Draft} {inner : List Char}
    (written : WrittenItems items inner) :
    ∀ (fuel : Nat) (rest : List Char), 2 * inner.length < fuel →
      readItems fuel (inner ++ ']' :: rest) = (items, none, some rest) := by
  intro fuel rest
  obtain _ | fuel := fuel
  · exact fun enough => absurd enough (Nat.not_lt_zero _)
  match written with
  | .last writtenItem blank =>
      intro enough
      rw [List.length_append] at enough
      have read := readValue_of_written writtenItem fuel _ (by omega)
        (endsNumber_append blank ']' rest rfl)
      rw [List.append_assoc, readItems, read]
      simp [skipSpace_append blank, skipSpace_cons, isSpace]
  | @WrittenItems.more _ _ _ _ gap₂ _ writtenItem blank₁ blank₂ writtenRest =>
      intro enough
      simp only [List.length_append, List.length_cons] at enough
      have readRest := readItems_of_written writtenRest fuel rest (by omega)
      obtain ⟨first, others, rfl, printed, isItem⟩ := exists_first_item writtenRest
      have read := readValue_of_written writtenItem fuel _ (by omega)
        (endsNumber_append blank₁ ',' (gap₂ ++ (first :: others ++ ']' :: rest)) rfl)
      simp only [List.append_assoc, List.cons_append] at read readRest ⊢
      rw [readItems_comma read (by rw [skipSpace_append blank₁, skipSpace_cons rfl])
        (by rw [skipSpace_append blank₂, skipSpace_cons printed]) isItem, readRest]

/-- Members are read up to the closing brace. -/
theorem readMembers_of_written {members : List (Option String × Draft)} {inner : List Char}
    (written : WrittenMembers members inner) :
    ∀ (fuel : Nat) (rest : List Char), 2 * inner.length < fuel →
      readMembers fuel (inner ++ '\x7d' :: rest) = (members, none, some rest) := by
  intro fuel rest
  obtain _ | fuel := fuel
  · exact fun enough => absurd enough (Nat.not_lt_zero _)
  match written with
  | .last quotes blank₁ blank₂ writtenValue blank₃ =>
      intro enough
      simp only [List.length_append, List.length_cons] at enough
      have readName {rest : List Char} : readString _ = .closed _ rest :=
        readString_of_quotes quotes
      have read := readValue_of_written writtenValue fuel _ (by omega)
        (endsNumber_append blank₃ '\x7d' rest rfl)
      simp [readMembers, readName, skipSpace_append blank₁, skipSpace_cons, isSpace,
        readValue_blank blank₂, read, skipSpace_append blank₃]
  | @WrittenMembers.more _ _ _ _ _ _ _ _ gap₄ others quotes blank₁ blank₂ writtenValue blank₃
      blank₄ writtenRest =>
      intro enough
      simp only [List.length_append, List.length_cons] at enough
      have readName {rest : List Char} : readString _ = .closed _ rest :=
        readString_of_quotes quotes
      have read := readValue_of_written writtenValue fuel _ (by omega)
        (endsNumber_append blank₃ ',' (gap₄ ++ '"' :: (others ++ '\x7d' :: rest)) rfl)
      have readRest := readMembers_of_written writtenRest fuel rest (by omega)
      simp [readMembers, readName, skipSpace_append blank₁, skipSpace_cons, isSpace,
        readValue_blank blank₂, read, skipSpace_append blank₃, skipSpace_append blank₄, readRest]

end

/-! ## What is written is whole -/

mutual

theorem Written.whole {draft : Draft} {inner : List Char} (written : Written draft inner) :
    draft.Whole := by
  match written with
  | .null => exact .null
  | .true | .false => exact .bool _
  | .number isNumber => exact whole_ofNumber isNumber
  | @Written.string content _ _ =>
      cases content with
      | none => exact .unpaired
      | some content => exact .text _
  | .noItems _ => exact .array (List.forall_mem_nil _)
  | .array _ writtenItems => exact .array writtenItems.whole
  | .noMembers _ => exact .object (List.forall_mem_nil _)
  | .object _ writtenMembers => exact .object writtenMembers.whole

theorem WrittenItems.whole {items : List Draft} {inner : List Char}
    (written : WrittenItems items inner) : ∀ item ∈ items, item.Whole := by
  match written with
  | .last writtenItem _ => exact List.forall_mem_singleton.2 writtenItem.whole
  | .more writtenItem _ _ writtenRest =>
      exact List.forall_mem_cons.2 ⟨writtenItem.whole, writtenRest.whole⟩

theorem WrittenMembers.whole {members : List (Option String × Draft)} {inner : List Char}
    (written : WrittenMembers members inner) : ∀ member ∈ members, member.2.Whole := by
  match written with
  | .last _ _ _ writtenValue _ => exact List.forall_mem_singleton.2 writtenValue.whole
  | .more _ _ _ writtenValue _ _ writtenRest =>
      exact List.forall_mem_cons.2 ⟨writtenValue.whole, writtenRest.whole⟩

end

/-! ## What is read is written -/

theorem exists_of_readWord {word characters : List Char} {meaning draft : Draft}
    {behind : Option (List Char)} (whole : draft.Whole)
    (read : readWord word meaning characters = (draft, behind)) :
    ∃ rest, behind = some rest ∧ characters = word ++ rest ∧ draft = meaning := by
  induction word generalizing characters with
  | nil =>
      obtain ⟨rfl, rfl⟩ := Prod.mk.inj read
      exact ⟨characters, rfl, rfl, rfl⟩
  | cons expected word ih =>
      cases characters with
      | nil => exact absurd whole (not_whole_of_halt read)
      | cons found characters =>
          rw [readWord] at read
          split at read
          case isTrue same =>
            obtain rfl := beq_iff_eq.1 same
            obtain ⟨rest, rfl, rfl, rfl⟩ := ih read
            exact ⟨rest, rfl, rfl, rfl⟩
          case isFalse => exact absurd whole (not_whole_of_halt read)

section Starts

variable {fuel : Nat} {others : List Char} {draft : Draft} {behind : Option (List Char)}

/-- Behind a quote stands the rest of a string. -/
theorem exists_string_of_readValue (whole : draft.Whole)
    (read : readValue (fuel + 1) ('"' :: others) = (draft, behind)) :
    ∃ inner rest, behind = some rest ∧ '"' :: others = inner ++ rest ∧ Written draft inner := by
  rw [readValue, skipSpace_cons rfl] at read
  simp only at read
  split at read
  case h_1 content rest closed =>
    obtain ⟨rfl, rfl⟩ := Prod.mk.inj read
    obtain ⟨_ | content, inner, rfl, quotes, same⟩ := exists_quotes_of_readString closed
    · cases same
    · obtain rfl := Option.some.inj same
      exact ⟨_, rest, rfl, by simp, .string quotes⟩
  case h_2 rest closed =>
    obtain ⟨rfl, rfl⟩ := Prod.mk.inj read
    obtain ⟨_ | content, inner, rfl, quotes, same⟩ := exists_quotes_of_readString closed
    · exact ⟨_, rest, rfl, by simp, .string quotes⟩
    · cases same
  case h_3 => exact absurd whole (not_whole_of_halt read)

/-- Behind a bracket stands the rest of an array, if items that are read are written. -/
theorem exists_array_of_readValue
    (writtenItems : ∀ {characters items behind}, (∀ item ∈ items, item.Whole) →
      readItems fuel characters = (items, none, behind) →
        ∃ gap inner rest, behind = some rest ∧ Blank gap ∧
          characters = gap ++ (inner ++ ']' :: rest) ∧ WrittenItems items inner)
    (whole : draft.Whole) (read : readValue (fuel + 1) ('[' :: others) = (draft, behind)) :
    ∃ inner rest, behind = some rest ∧ '[' :: others = inner ++ rest ∧ Written draft inner := by
  rw [readValue, skipSpace_cons rfl] at read
  simp only at read
  split at read
  case h_1 =>
    obtain ⟨rfl, -⟩ := Prod.mk.inj read
    cases (whole_array_iff.1 whole).2
  case h_2 rest closed =>
    obtain ⟨rfl, rfl⟩ := Prod.mk.inj read
    obtain ⟨gap, blank, rfl⟩ := exists_gap closed
    exact ⟨_, rest, rfl, by simp, .noItems blank⟩
  case h_3 =>
    rw [readItems_skipSpace] at read
    rcases found : readItems fuel others with ⟨items, ending, behind⟩
    rw [found] at read
    obtain ⟨rfl, rfl⟩ := Prod.mk.inj read
    obtain ⟨each, rfl⟩ := whole_array_iff.1 whole
    obtain ⟨gap, inner, rest, rfl, blank, rfl, written⟩ := writtenItems each found
    exact ⟨_, rest, rfl, by simp, .array blank written⟩

/-- Behind a brace stands the rest of an object, if members that are read are written. -/
theorem exists_object_of_readValue
    (writtenMembers : ∀ {characters members behind}, (∀ member ∈ members, member.2.Whole) →
      readMembers fuel characters = (members, none, behind) →
        ∃ inner rest, behind = some rest ∧ characters = inner ++ '\x7d' :: rest ∧
          WrittenMembers members inner)
    (whole : draft.Whole) (read : readValue (fuel + 1) ('\x7b' :: others) = (draft, behind)) :
    ∃ inner rest, behind = some rest ∧ '\x7b' :: others = inner ++ rest ∧ Written draft inner := by
  rw [readValue, skipSpace_cons rfl] at read
  simp only at read
  split at read
  case h_1 rest closed =>
    obtain ⟨rfl, rfl⟩ := Prod.mk.inj read
    obtain ⟨gap, blank, rfl⟩ := exists_gap closed
    exact ⟨_, rest, rfl, by simp, .noMembers blank⟩
  case h_2 rest opened =>
    obtain ⟨gap, blank, rfl⟩ := exists_gap opened
    rcases found : readMembers fuel rest with ⟨members, ending, behind⟩
    rw [found] at read
    obtain ⟨rfl, rfl⟩ := Prod.mk.inj read
    obtain ⟨each, rfl⟩ := whole_object_iff.1 whole
    obtain ⟨inner, rest, rfl, rfl, written⟩ := writtenMembers each found
    exact ⟨_, rest, rfl, by simp, .object blank written⟩
  case h_3 =>
    obtain ⟨rfl, -⟩ := Prod.mk.inj read
    cases (whole_object_iff.1 whole).2

end Starts

mutual

/-- Where a whole draft is read, a text of it stands behind blanks, unless it is a number that
goes on. -/
theorem exists_of_readValue {fuel : Nat} {characters : List Char} {draft : Draft}
    {behind : Option (List Char)} (whole : draft.Whole)
    (read : readValue fuel characters = (draft, behind)) :
    ∃ gap inner rest, behind = some rest ∧ Blank gap ∧ characters = gap ++ (inner ++ rest) ∧
      (EndsNumber rest → Written draft inner) := by
  match fuel with
  | 0 => exact absurd whole (not_whole_of_halt read)
  | fuel + 1 =>
      have number {inner rest : List Char} (isNumber : IsNumber inner)
          (readAll : readValue (fuel + 1) (inner ++ rest) = (draft, some rest))
          (ends : EndsNumber rest) : Written draft inner := by
        rw [readValue_of_isNumber isNumber fuel ends] at readAll
        obtain ⟨rfl, -⟩ := Prod.mk.inj readAll
        exact .number isNumber
      have readAll := read
      rw [readValue] at read
      split at read
      all_goals
        rename_i skipped
        obtain ⟨gap, blank, rfl⟩ := exists_gap skipped
        rw [readValue_blank blank] at readAll
      case h_1 =>
        obtain ⟨rest, rfl, rfl, rfl⟩ := exists_of_readWord whole read
        exact ⟨gap, ['n', 'u', 'l', 'l'], rest, rfl, blank, rfl, fun _ => .null⟩
      case h_2 =>
        obtain ⟨rest, rfl, rfl, rfl⟩ := exists_of_readWord whole read
        exact ⟨gap, ['t', 'r', 'u', 'e'], rest, rfl, blank, rfl, fun _ => .true⟩
      case h_3 =>
        obtain ⟨rest, rfl, rfl, rfl⟩ := exists_of_readWord whole read
        exact ⟨gap, ['f', 'a', 'l', 's', 'e'], rest, rfl, blank, rfl, fun _ => .false⟩
      case h_4 =>
        obtain ⟨inner, rest, rfl, same, written⟩ := exists_string_of_readValue whole readAll
        exact ⟨gap, inner, rest, rfl, blank, by rw [same], fun _ => written⟩
      case h_5 =>
        obtain ⟨inner, rest, rfl, same, written⟩ :=
          exists_array_of_readValue (fun each read => exists_of_readItems each read) whole readAll
        exact ⟨gap, inner, rest, rfl, blank, by rw [same], fun _ => written⟩
      case h_6 =>
        obtain ⟨inner, rest, rfl, same, written⟩ :=
          exists_object_of_readValue (fun each read => exists_of_readMembers each read) whole
            readAll
        exact ⟨gap, inner, rest, rfl, blank, by rw [same], fun _ => written⟩
      case h_7 others _ =>
        obtain ⟨magnitude, rest, rfl, rfl, isMagnitude⟩ := exists_of_readMagnitude whole read
        exact ⟨gap, _, rest, rfl, blank, rfl, number (.negative isMagnitude) readAll⟩
      case h_8 first others _ =>
        split at read
        case isTrue =>
          obtain ⟨magnitude, rest, rfl, same, isMagnitude⟩ := exists_of_readMagnitude whole read
          rw [same] at readAll ⊢
          exact ⟨gap, _, rest, rfl, blank, rfl, number (.positive isMagnitude) readAll⟩
        case isFalse => exact absurd whole (not_whole_of_halt read)
      case h_9 => exact absurd whole (not_whole_of_halt read)

/-- Where whole items are read, a text of them stands in front of a closing bracket. -/
theorem exists_of_readItems {fuel : Nat} {characters : List Char} {items : List Draft}
    {behind : Option (List Char)} (each : ∀ item ∈ items, item.Whole)
    (read : readItems fuel characters = (items, none, behind)) :
    ∃ gap inner rest, behind = some rest ∧ Blank gap ∧
      characters = gap ++ (inner ++ ']' :: rest) ∧ WrittenItems items inner := by
  match fuel with
  | 0 => cases read
  | fuel + 1 =>
      rw [readItems] at read
      split at read
      case h_1 item readItem =>
        obtain ⟨rfl, -⟩ := Prod.mk.inj read
        obtain ⟨_, _, _, more, -⟩ :=
          exists_of_readValue (List.forall_mem_singleton.1 each) readItem
        cases more
      case h_2 item others readItem =>
        split at read
        case h_1 rest closed =>
          obtain ⟨rfl, same⟩ := Prod.mk.inj read
          obtain ⟨-, rfl⟩ := Prod.mk.inj same
          obtain ⟨gap, inner, _, same, blank, rfl, written⟩ :=
            exists_of_readValue (List.forall_mem_singleton.1 each) readItem
          obtain rfl := Option.some.inj same
          obtain ⟨gap', blank', rfl⟩ := exists_gap closed
          exact ⟨gap, inner ++ gap', rest, rfl, blank, by simp,
            .last (written (endsNumber_append blank' ']' rest rfl)) blank'⟩
        case h_2 rest comma =>
          split at read
          case h_1 =>
            obtain ⟨rfl, -⟩ := Prod.mk.inj read
            exact absurd (each _ (List.mem_cons_of_mem _ List.mem_cons_self)) nofun
          case h_2 =>
            rw [readItems_skipSpace] at read
            split at read
            rename_i others' ending behind' readRest
            obtain ⟨rfl, same⟩ := Prod.mk.inj read
            obtain ⟨rfl, rfl⟩ := Prod.mk.inj same
            obtain ⟨here, later⟩ := List.forall_mem_cons.1 each
            obtain ⟨gap, inner, _, same, blank, rfl, written⟩ := exists_of_readValue here readItem
            obtain rfl := Option.some.inj same
            obtain ⟨gap₁, blank₁, rfl⟩ := exists_gap comma
            obtain ⟨gap₂, inner₂, rest₂, rfl, blank₂, rfl, writtenRest⟩ :=
              exists_of_readItems later readRest
            exact ⟨gap, _, rest₂, rfl, blank, by simp,
              .more (written (endsNumber_append blank₁ ',' _ rfl)) blank₁ blank₂ writtenRest⟩
        case h_3 => simp at read

/-- Where whole members are read, a text of them stands in front of a closing brace. -/
theorem exists_of_readMembers {fuel : Nat} {characters : List Char}
    {members : List (Option String × Draft)} {behind : Option (List Char)}
    (each : ∀ member ∈ members, member.2.Whole)
    (read : readMembers fuel characters = (members, none, behind)) :
    ∃ inner rest, behind = some rest ∧ characters = inner ++ '\x7d' :: rest ∧
      WrittenMembers members inner := by
  match fuel with
  | 0 => cases read
  | fuel + 1 =>
      rw [readMembers] at read
      split at read
      case h_1 => simp at read
      case h_2 name others readName =>
        obtain ⟨content, quoted, rfl, quotes, rfl⟩ := exists_quotes_of_readString readName
        split at read
        case h_2 =>
          obtain ⟨rfl, -⟩ := Prod.mk.inj read
          exact absurd (List.forall_mem_singleton.1 each) nofun
        case h_1 colon =>
          obtain ⟨gap₁, blank₁, rfl⟩ := exists_gap colon
          split at read
          case h_1 value readValue =>
            obtain ⟨rfl, -⟩ := Prod.mk.inj read
            obtain ⟨_, _, _, more, -⟩ := exists_of_readValue (each _ List.mem_cons_self) readValue
            cases more
          case h_2 value between readValue =>
            split at read
            case h_1 rest closed =>
              obtain ⟨rfl, same⟩ := Prod.mk.inj read
              obtain ⟨-, rfl⟩ := Prod.mk.inj same
              obtain ⟨gap₂, inner, _, same, blank₂, rfl, written⟩ :=
                exists_of_readValue (each _ List.mem_cons_self) readValue
              obtain rfl := Option.some.inj same
              obtain ⟨gap₃, blank₃, rfl⟩ := exists_gap closed
              exact ⟨_, rest, rfl, by simp, .last quotes blank₁ blank₂
                (written (endsNumber_append blank₃ '\x7d' rest rfl)) blank₃⟩
            case h_2 comma =>
              split at read
              case h_1 rest opened =>
                split at read
                rename_i others' ending behind' readRest
                obtain ⟨rfl, same⟩ := Prod.mk.inj read
                obtain ⟨rfl, rfl⟩ := Prod.mk.inj same
                obtain ⟨here, later⟩ := List.forall_mem_cons.1 each
                obtain ⟨gap₂, inner, _, same, blank₂, rfl, written⟩ :=
                  exists_of_readValue here readValue
                obtain rfl := Option.some.inj same
                obtain ⟨gap₃, blank₃, rfl⟩ := exists_gap comma
                obtain ⟨gap₄, blank₄, rfl⟩ := exists_gap opened
                obtain ⟨inner₂, rest₂, rfl, rfl, writtenRest⟩ :=
                  exists_of_readMembers later readRest
                exact ⟨_, rest₂, rfl, by simp, .more quotes blank₁ blank₂
                  (written (endsNumber_append blank₃ ',' _ rfl)) blank₃ blank₄ writtenRest⟩
              case h_2 => simp at read
            case h_3 => simp at read

end

/-! ## Documents -/

/-- The reader finds a whole draft, and nothing behind it, in the documents that are written for
the draft, and in no others. -/
theorem ofText_eq_iff_isDocument {draft : Draft} {document : String} :
    draft.Whole ∧ ofText document = (draft, false) ↔ IsDocument draft document := by
  constructor
  · rintro ⟨whole, read⟩
    simp only [ofText] at read
    split at read
    case h_1 found readValue =>
      obtain ⟨rfl, -⟩ := Prod.mk.inj read
      obtain ⟨_, _, _, more, -⟩ := exists_of_readValue whole readValue
      cases more
    case h_2 found rest readValue =>
      simp only [Prod.mk.injEq, Bool.not_eq_false', List.isEmpty_iff] at read
      obtain ⟨rfl, nothing⟩ := read
      obtain ⟨gap₁, inner, _, same, blank₁, parts, written⟩ := exists_of_readValue whole readValue
      obtain rfl := Option.some.inj same
      have blank₂ := blank_of_skipSpace_eq_nil nothing
      exact .written blank₁ (written (endsNumber_blank blank₂)) blank₂ parts
  · rintro ⟨blank₁, written, blank₂, parts⟩
    rename_i gap₁ inner gap₂
    have enough : 2 * inner.length ≤ 2 * document.toList.length + 2 := by
      rw [parts]
      simp only [List.length_append]
      omega
    have read := readValue_of_written written _ gap₂ enough (endsNumber_blank blank₂)
    have nothing : skipSpace gap₂ = [] := by
      simpa [skipSpace] using skipSpace_append blank₂ []
    rw [← readValue_blank blank₁, ← parts] at read
    exact ⟨written.whole, by simp [ofText, read, nothing]⟩

end Draft

end PortTunnel.Json
