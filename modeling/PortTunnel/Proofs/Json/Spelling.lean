import PortTunnel.Proofs.Json.Grammar
import PortTunnel.Proofs.Number.Decimal

/-!
# The texts of a value

A value has many texts, which differ in the blanks between their parts.  The
relation `Spells` holds between a value and those in which its whole numbers have
no more digits than they need, and only such characters of its strings are escaped
as have to be.  They are written for the draft of the value, so that the reader
finds the value in each.  Both printed forms of a value are such texts.
-/

namespace PortTunnel.Json

/-- The characters between the quotes of a text. -/
def escaped (content : String) : List Char :=
  content.toList.flatMap Value.escapeCharacter

mutual

/-- The characters are a text of the value, without blanks around it. -/
inductive Spells : Value → List Char → Prop where
  | null : Spells .null ['n', 'u', 'l', 'l']
  | true : Spells (.bool Bool.true) ['t', 'r', 'u', 'e']
  | false : Spells (.bool Bool.false) ['f', 'a', 'l', 's', 'e']
  | integer {number : Int} (low : -(Number.twoTo 63 : Int) ≤ number)
      (high : number ≤ greatestWord) :
      Spells (.integer number) number.repr.toList
  | text (content : String) : Spells (.text content) ('"' :: (escaped content ++ ['"']))
  | noItems {gap : List Char} (blank : Blank gap) : Spells (.array []) ('[' :: (gap ++ [']']))
  | array {items : List Value} {gap inner : List Char} (blank : Blank gap)
      (spelled : SpellsItems items inner) :
      Spells (.array items) ('[' :: (gap ++ (inner ++ [']'])))
  | noMembers {gap : List Char} (blank : Blank gap) :
      Spells (.object []) ('\x7b' :: (gap ++ ['\x7d']))
  | object {members : List (String × Value)} {gap inner : List Char} (blank : Blank gap)
      (spelled : SpellsMembers members inner) :
      Spells (.object members) ('\x7b' :: (gap ++ ('"' :: (inner ++ ['\x7d']))))

/-- The characters are a text of one item or more, from the first item up to the
closing bracket. -/
inductive SpellsItems : List Value → List Char → Prop where
  | last {item : Value} {inner gap : List Char} (spelled : Spells item inner)
      (blank : Blank gap) : SpellsItems [item] (inner ++ gap)
  | more {item : Value} {items : List Value} {inner gap₁ gap₂ others : List Char}
      (spelled : Spells item inner) (blank₁ : Blank gap₁) (blank₂ : Blank gap₂)
      (spelledRest : SpellsItems items others) :
      SpellsItems (item :: items) (inner ++ (gap₁ ++ ',' :: (gap₂ ++ others)))

/-- The characters are a text of one member or more, from behind the first quote
up to the closing brace. -/
inductive SpellsMembers : List (String × Value) → List Char → Prop where
  | last {name : String} {value : Value} {gap₁ gap₂ inner gap₃ : List Char}
      (blank₁ : Blank gap₁) (blank₂ : Blank gap₂) (spelled : Spells value inner)
      (blank₃ : Blank gap₃) :
      SpellsMembers [(name, value)]
        (escaped name ++ '"' :: (gap₁ ++ ':' :: (gap₂ ++ (inner ++ gap₃))))
  | more {name : String} {value : Value} {members : List (String × Value)}
      {gap₁ gap₂ inner gap₃ gap₄ others : List Char}
      (blank₁ : Blank gap₁) (blank₂ : Blank gap₂) (spelled : Spells value inner)
      (blank₃ : Blank gap₃) (blank₄ : Blank gap₄)
      (spelledRest : SpellsMembers members others) :
      SpellsMembers ((name, value) :: members)
        (escaped name ++
          '"' :: (gap₁ ++ ':' :: (gap₂ ++ (inner ++ (gap₃ ++ ',' :: (gap₄ ++ '"' :: others))))))

end

namespace Draft

open Number

/-! ## Whole numbers -/

/-- Digits are read as long as their number fits. -/
theorem readWhole_digits {digits : List Char} (number count : Nat)
    (all : ∀ digit ∈ digits, digit.isDigit = true)
    (fits : Nat.ofDigitChars 10 digits number ≤ greatestWord) :
    readWhole number count digits =
      (Nat.ofDigitChars 10 digits number, count + digits.length, []) := by
  induction digits generalizing number count with
  | nil => rfl
  | cons digit digits ih =>
      obtain ⟨here, later⟩ := List.forall_mem_cons.1 all
      rw [Nat.ofDigitChars_cons, Nat.mul_comm] at fits ⊢
      have fitsHere := Nat.le_trans (le_ofDigitChars digits _) fits
      simp only [readWhole, digit?_of_isDigit here, if_pos fitsHere, ih _ _ later fits,
        List.length_cons, Nat.add_assoc, Nat.add_comm 1]

/-- A number that fits is read from its digits. -/
theorem readMagnitude_repr (negative : Bool) {number : Nat} (fits : number ≤ greatestWord) :
    readMagnitude negative number.repr.toList = finishNumber negative number 0 [] := by
  by_cases isZero : number = 0
  · subst isZero
    rfl
  · have read : readWhole 0 0 number.repr.toList = (number, number.repr.toList.length, []) := by
      rw [readWhole_digits 0 0 (fun _ => isDigit_of_mem_repr) (by rwa [ofDigitChars_repr]),
        ofDigitChars_repr, Nat.zero_add]
    obtain ⟨first, others, spelled, -, zero⟩ := exists_first_digit number
    rw [spelled] at read ⊢
    unfold readMagnitude
    split
    case h_1 same => exact absurd (zero (List.cons.inj same).1) isZero
    case h_2 => simp [read, passDigits]

theorem isMagnitude_repr (number : Nat) : IsMagnitude number.repr.toList := by
  have isWhole : IsWhole number.repr.toList := by
    by_cases isZero : number = 0
    · subst isZero
      exact .zero
    · obtain ⟨first, others, spelled, -, zero⟩ := exists_first_digit number
      have each : ∀ digit ∈ number.repr.toList, digit.isDigit = true := fun _ =>
        isDigit_of_mem_repr
      rw [spelled] at each ⊢
      exact .digits (fun isFirst => isZero (zero isFirst)) ⟨List.cons_ne_nil _ _, each⟩
  simpa using IsMagnitude.parts isWhole .none .none

/-- A whole number of 64 bits is written as its text. -/
theorem written_repr {number : Int} (low : -(Number.twoTo 63 : Int) ≤ number)
    (high : number ≤ greatestWord) :
    Written (.integer number) number.repr.toList := by
  cases number with
  | ofNat magnitude =>
      have fits : magnitude ≤ greatestWord := Int.ofNat_le.1 high
      have isNumber := IsNumber.positive (isMagnitude_repr magnitude)
      have read : ofNumber magnitude.repr.toList = .integer magnitude := by
        obtain ⟨first, others, spelled, isDigit, -⟩ := exists_first_digit magnitude
        rw [ofNumber, spelled, readValue_of_isDigit isDigit, ← spelled,
          readMagnitude_repr false fits]
        rfl
      exact read ▸ .number isNumber
  | negSucc magnitude =>
      have small : magnitude + 1 ≤ Number.twoTo 63 := by omega
      have fits : magnitude + 1 ≤ greatestWord := Nat.le_trans small (by decide)
      have isNumber := IsNumber.negative (isMagnitude_repr (magnitude + 1))
      have read : ofNumber ('-' :: (magnitude + 1).repr.toList) = .integer (.negSucc magnitude) := by
        have step : readValue 1 ('-' :: (magnitude + 1).repr.toList) =
            readMagnitude true (magnitude + 1).repr.toList := rfl
        rw [ofNumber, step, readMagnitude_repr true fits]
        simp [finishNumber, Nat.not_lt.2 small, Int.negSucc_eq]
      have spelled : (Int.negSucc magnitude).repr.toList =
          '-' :: (magnitude + 1).repr.toList := String.toList_append
      rw [spelled]
      exact read ▸ .number isNumber

/-! ## Strings -/

theorem hexDigit?_hexDigit (number : Nat) :
    hexDigit? (Value.hexDigit number) = some (number % 16) := by
  have all : ∀ digit < 16, hexDigit? (Value.hexDigit digit) = some digit := by decide
  have this := all (number % 16) (Nat.mod_lt _ (by decide))
  rwa [Value.hexDigit, Nat.mod_mod] at this

/-- The four digits of the escape of a control stand for it. -/
theorem isUnit_control {code : Nat} (isControl : code < 32) :
    IsUnit code ['0', '0', Value.hexDigit (code / 16), Value.hexDigit code] := by
  have zero : hexDigit? '0' = some 0 := rfl
  have unit := IsUnit.digits zero zero (hexDigit?_hexDigit (code / 16)) (hexDigit?_hexDigit code)
  have same : 0 * 4096 + 0 * 256 + code / 16 % 16 * 16 + code % 16 = code := by omega
  rwa [same] at unit

/-- A character is spelled by its escape. -/
theorem quotes_escapeCharacter (character : Char) {content inner : List Char}
    (quotes : Quotes (some content) inner) :
    Quotes (some (character :: content)) (Value.escapeCharacter character ++ inner) := by
  have escape (letter : Char) (isEscape : escape? letter = some character) :
      Quotes (some (character :: content)) (['\\', letter] ++ inner) :=
    .escape isEscape quotes
  unfold Value.escapeCharacter
  split
  case isTrue quote => exact escape '"' (by rw [beq_iff_eq.1 quote]; rfl)
  split
  case isTrue backslash => exact escape '\\' (by rw [beq_iff_eq.1 backslash]; rfl)
  split
  case isTrue newline => exact escape 'n' (by rw [beq_iff_eq.1 newline]; rfl)
  split
  case isTrue carriage => exact escape 'r' (by rw [beq_iff_eq.1 carriage]; rfl)
  split
  case isTrue tab => exact escape 't' (by rw [beq_iff_eq.1 tab]; rfl)
  split
  case isTrue backspace =>
    exact escape 'b' (by rw [← Char.ofNat_toNat character, beq_iff_eq.1 backspace]; rfl)
  split
  case isTrue feed =>
    exact escape 'f' (by rw [← Char.ofNat_toNat character, beq_iff_eq.1 feed]; rfl)
  split
  case isTrue isControl =>
    have noHigh : ¬IsHigh character.toNat := by
      rw [IsHigh]
      omega
    have noLow : ¬IsLow character.toNat := by
      rw [IsLow]
      omega
    have unit := Quotes.unit (isUnit_control isControl) noHigh noLow quotes
    rwa [Char.ofNat_toNat] at unit
  case isFalse noQuote noBackslash _ _ _ _ _ printed =>
    exact .plain printed (by simpa using noQuote) (by simpa using noBackslash) quotes

/-- The characters of a text are spelled between its quotes. -/
theorem quotes_escaped (content : String) : Quotes (some content.toList) (escaped content) := by
  rw [escaped]
  induction content.toList with
  | nil => exact .nil
  | cons character rest ih => exact quotes_escapeCharacter character ih

theorem map_ofList_toList (content : String) :
    (some content.toList).map String.ofList = some content := by
  rw [Option.map_some, String.ofList_toList]

/-! ## Values -/

mutual

/-- The texts of a value are written for its draft. -/
theorem written_of_spells {value : Value} {inner : List Char} (spelled : Spells value inner) :
    Written (ofValue value) inner := by
  match spelled with
  | .null => exact .null
  | .true => exact .true
  | .false => exact .false
  | .integer low high => exact written_repr low high
  | .text content =>
      have written := Written.string (quotes_escaped content)
      rwa [ofContent, String.ofList_toList] at written
  | .noItems blank => exact .noItems blank
  | .array blank spelledItems => exact .array blank (writtenItems_of_spells spelledItems)
  | .noMembers blank => exact .noMembers blank
  | .object blank spelledMembers => exact .object blank (writtenMembers_of_spells spelledMembers)

theorem writtenItems_of_spells {items : List Value} {inner : List Char}
    (spelled : SpellsItems items inner) : WrittenItems (ofItems items) inner := by
  match spelled with
  | .last spelledItem blank => exact .last (written_of_spells spelledItem) blank
  | .more spelledItem blank₁ blank₂ spelledRest =>
      exact .more (written_of_spells spelledItem) blank₁ blank₂ (writtenItems_of_spells spelledRest)

theorem writtenMembers_of_spells {members : List (String × Value)} {inner : List Char}
    (spelled : SpellsMembers members inner) : WrittenMembers (ofMembers members) inner := by
  match spelled with
  | @SpellsMembers.last name _ _ _ _ _ blank₁ blank₂ spelledValue blank₃ =>
      have written := WrittenMembers.last (quotes_escaped name) blank₁ blank₂
        (written_of_spells spelledValue) blank₃
      rwa [map_ofList_toList] at written
  | @SpellsMembers.more name _ _ _ _ _ _ _ _ blank₁ blank₂ spelledValue blank₃ blank₄
      spelledRest =>
      have written := WrittenMembers.more (quotes_escaped name) blank₁ blank₂
        (written_of_spells spelledValue) blank₃ blank₄ (writtenMembers_of_spells spelledRest)
      rwa [map_ofList_toList] at written

end

end Draft

end PortTunnel.Json
