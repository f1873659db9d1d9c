import PortTunnel.Json.Reader

/-!
# The strings of JSON

Between its quotes a string spells its content character by character: as itself,
by an escape of one letter, or by one or two units of four hexadecimal digits.  A
unit that is half of a pair and has not got its other half leaves the string
without content, though not without form.  The reader finds exactly the content
that the characters spell, and where a string closes its characters spell one.
-/

namespace PortTunnel.Json

open Draft (escape? combine hexDigit?)

/-- The four digits of a unit. -/
inductive IsUnit : Nat → List Char → Prop where
  | digits {first second third fourth : Char} {a b c d : Nat} (isFirst : hexDigit? first = some a)
      (isSecond : hexDigit? second = some b) (isThird : hexDigit? third = some c)
      (isFourth : hexDigit? fourth = some d) :
      IsUnit (a * 4096 + b * 256 + c * 16 + d) [first, second, third, fourth]

/-- The first half of a pair. -/
def IsHigh (unit : Nat) : Prop :=
  0xd800 ≤ unit ∧ unit ≤ 0xdbff

/-- The second half of a pair. -/
def IsLow (unit : Nat) : Prop :=
  0xdc00 ≤ unit ∧ unit ≤ 0xdfff

/-- The characters begin with the second half of a pair. -/
def BeginsLow (inner : List Char) : Prop :=
  ∃ low digits rest, IsUnit low digits ∧ IsLow low ∧ inner = '\\' :: 'u' :: (digits ++ rest)

/-- The characters spell the content of a string between its quotes; a string with half a
pair has none. -/
inductive Quotes : Option (List Char) → List Char → Prop where
  | nil : Quotes (some []) []
  | plain {character : Char} {content : Option (List Char)} {inner : List Char}
      (printed : ¬character.toNat < 0x20) (noQuote : character ≠ '"')
      (noBackslash : character ≠ '\\') (quotes : Quotes content inner) :
      Quotes (content.map (character :: ·)) (character :: inner)
  | escape {letter character : Char} {content : Option (List Char)} {inner : List Char}
      (isEscape : escape? letter = some character) (quotes : Quotes content inner) :
      Quotes (content.map (character :: ·)) ('\\' :: letter :: inner)
  | unit {unit : Nat} {content : Option (List Char)} {digits inner : List Char}
      (isUnit : IsUnit unit digits) (noHigh : ¬IsHigh unit) (noLow : ¬IsLow unit)
      (quotes : Quotes content inner) :
      Quotes (content.map (Char.ofNat unit :: ·)) ('\\' :: 'u' :: (digits ++ inner))
  | pair {high low : Nat} {content : Option (List Char)} {digits digits' inner : List Char}
      (isUnit : IsUnit high digits) (isHigh : IsHigh high) (isUnit' : IsUnit low digits')
      (isLow : IsLow low) (quotes : Quotes content inner) :
      Quotes (content.map (combine high low :: ·))
        ('\\' :: 'u' :: (digits ++ '\\' :: 'u' :: (digits' ++ inner)))
  | half {unit : Nat} {content : Option (List Char)} {digits inner : List Char}
      (isUnit : IsUnit unit digits) (isHalf : IsHigh unit ∧ ¬BeginsLow inner ∨ IsLow unit)
      (quotes : Quotes content inner) : Quotes none ('\\' :: 'u' :: (digits ++ inner))

namespace Draft

/-! ## Units -/

theorem readUnit_eq_ok_iff {unit : Nat} {characters rest : List Char} :
    readUnit characters = .ok (unit, rest) ↔
      ∃ digits, IsUnit unit digits ∧ characters = digits ++ rest := by
  constructor
  · intro read
    unfold readUnit at read
    split at read
    case h_1 first second third fourth others =>
      split at read
      case h_1 a b c d isFirst isSecond isThird isFourth =>
        simp only [Except.ok.injEq, Prod.mk.injEq] at read
        obtain ⟨rfl, rfl⟩ := read
        exact ⟨_, .digits isFirst isSecond isThird isFourth, rfl⟩
      case h_2 => cases read
    case h_2 => cases read
  · rintro ⟨digits, isUnit, rfl⟩
    cases isUnit with
    | digits isFirst isSecond isThird isFourth =>
        simp [readUnit, isFirst, isSecond, isThird, isFourth]

theorem readUnit_append {unit : Nat} {digits : List Char} (isUnit : IsUnit unit digits)
    (rest : List Char) : readUnit (digits ++ rest) = .ok (unit, rest) :=
  readUnit_eq_ok_iff.2 ⟨digits, isUnit, rfl⟩

/-! ## One step of the reader -/

variable {fuel : Nat} {paired : Bool} {before rest : List Char} {content : Option (List Char)}

theorem readQuoted_unit {unit : Nat} {digits : List Char} (isUnit : IsUnit unit digits)
    (noHigh : ¬IsHigh unit) (noLow : ¬IsLow unit) :
    readQuoted (fuel + 1) paired before ('\\' :: 'u' :: (digits ++ rest)) =
      readQuoted fuel paired (Char.ofNat unit :: before) rest := by
  simp only [IsHigh, IsLow] at noHigh noLow
  simp [readQuoted, readUnit_append isUnit, noHigh, noLow]

theorem readQuoted_pair {high low : Nat} {digits digits' : List Char}
    (isUnit : IsUnit high digits) (isHigh : IsHigh high) (isUnit' : IsUnit low digits')
    (isLow : IsLow low) :
    readQuoted (fuel + 1) paired before
        ('\\' :: 'u' :: (digits ++ '\\' :: 'u' :: (digits' ++ rest))) =
      readQuoted fuel paired (combine high low :: before) rest := by
  simp only [IsHigh, IsLow] at isHigh isLow
  simp [readQuoted, readUnit_append isUnit, readUnit_append isUnit', isHigh, isLow]

theorem not_isLow_of_isHigh {unit : Nat} (isHigh : IsHigh unit) : ¬IsLow unit := by
  simp only [IsHigh, IsLow] at isHigh ⊢
  omega

theorem readQuoted_low {unit : Nat} {digits : List Char} (isUnit : IsUnit unit digits)
    (isLow : IsLow unit) :
    readQuoted (fuel + 1) paired before ('\\' :: 'u' :: (digits ++ rest)) =
      readQuoted fuel false before rest := by
  have noHigh : ¬(0xd800 ≤ unit ∧ unit ≤ 0xdbff) :=
    fun isHigh => not_isLow_of_isHigh isHigh isLow
  simp only [IsLow] at isLow
  simp [readQuoted, readUnit_append isUnit, noHigh, isLow]

/-- A first half is passed over where a unit follows that is no second half. -/
theorem readQuoted_high_unit {high unit : Nat} {digits digits' : List Char}
    (isUnit : IsUnit high digits) (isHigh : IsHigh high) (isUnit' : IsUnit unit digits')
    (noLow : ¬IsLow unit) :
    readQuoted (fuel + 1) paired before
        ('\\' :: 'u' :: (digits ++ '\\' :: 'u' :: (digits' ++ rest))) =
      readQuoted fuel false before ('\\' :: 'u' :: (digits' ++ rest)) := by
  simp only [IsHigh, IsLow] at isHigh noLow
  simp [readQuoted, readUnit_append isUnit, readUnit_append isUnit', isHigh, noLow]

/-- A first half is passed over where no second half follows. -/
theorem readQuoted_high {high : Nat} {digits inner : List Char} (isUnit : IsUnit high digits)
    (isHigh : IsHigh high) (alone : ¬BeginsLow inner) (quotes : Quotes content inner) :
    readQuoted (fuel + 1) paired before ('\\' :: 'u' :: (digits ++ (inner ++ '"' :: rest))) =
      readQuoted fuel false before (inner ++ '"' :: rest) := by
  have followed {unit : Nat} {digits' others : List Char} (isUnit' : IsUnit unit digits')
      (begins : inner = '\\' :: 'u' :: (digits' ++ others)) :
      readQuoted (fuel + 1) paired before ('\\' :: 'u' :: (digits ++ (inner ++ '"' :: rest))) =
        readQuoted fuel false before (inner ++ '"' :: rest) := by
    have noLow : ¬IsLow unit := fun isLow => alone ⟨unit, digits', others, isUnit', isLow, begins⟩
    rw [begins, List.cons_append, List.cons_append, List.append_assoc]
    exact readQuoted_high_unit isUnit isHigh isUnit' noLow
  cases quotes with
  | nil =>
      simp only [IsHigh] at isHigh
      simp [readQuoted, readUnit_append isUnit, isHigh]
  | plain printed noQuote noBackslash =>
      simp only [IsHigh] at isHigh
      simp [readQuoted, readUnit_append isUnit, isHigh, noBackslash]
  | @escape letter character _ _ isEscape =>
      have noUnit : letter ≠ 'u' := by
        rintro rfl
        cases isEscape
      simp only [IsHigh] at isHigh
      simp [readQuoted, readUnit_append isUnit, isHigh, noUnit]
  | unit isUnit' => exact followed isUnit' rfl
  | pair isUnit' => exact followed isUnit' rfl
  | half isUnit' => exact followed isUnit' rfl

/-! ## Reading a string -/

/-- What a string yields of whose characters some are read already, the last one first: its
content, unless half a pair was met. -/
def yielded (paired : Bool) (before : List Char) (content : Option (List Char)) :
    Option String :=
  if paired then content.map fun characters => String.ofList (before.reverse ++ characters)
  else none

theorem yielded_none : yielded paired before none = none := by
  cases paired <;> rfl

theorem yielded_cons (character : Char) :
    yielded paired (character :: before) content =
      yielded paired before (content.map (character :: ·)) := by
  cases paired <;> cases content <;> simp [yielded]

/-- The content that characters spell is read up to the closing quote. -/
theorem readQuoted_of_quotes {inner : List Char} (quotes : Quotes content inner)
    (enough : inner.length < fuel) :
    readQuoted fuel paired before (inner ++ '"' :: rest) =
      .closed (yielded paired before content) rest := by
  induction quotes generalizing fuel paired before with
  | nil =>
      obtain ⟨fuel, rfl⟩ := Nat.exists_eq_succ_of_ne_zero (Nat.ne_zero_of_lt enough)
      simp [readQuoted, yielded]
  | @plain character content inner printed noQuote noBackslash quotes ih =>
      obtain ⟨fuel, rfl⟩ := Nat.exists_eq_succ_of_ne_zero (Nat.ne_zero_of_lt enough)
      have less : inner.length < fuel := Nat.lt_of_succ_lt_succ enough
      rw [← yielded_cons, ← ih less]
      simp [readQuoted, printed, noBackslash]
  | @escape letter character content inner isEscape quotes ih =>
      obtain ⟨fuel, rfl⟩ := Nat.exists_eq_succ_of_ne_zero (Nat.ne_zero_of_lt enough)
      have less : inner.length < fuel := Nat.lt_of_succ_lt (Nat.lt_of_succ_lt_succ enough)
      have noUnit : letter ≠ 'u' := by
        rintro rfl
        cases isEscape
      rw [← yielded_cons, ← ih less]
      simp [readQuoted, isEscape]
  | @unit unit content digits inner isUnit noHigh noLow quotes ih =>
      obtain ⟨fuel, rfl⟩ := Nat.exists_eq_succ_of_ne_zero (Nat.ne_zero_of_lt enough)
      simp only [List.length_cons, List.length_append] at enough
      have less : inner.length < fuel := by omega
      rw [← yielded_cons, ← ih less]
      simp only [List.cons_append, List.append_assoc]
      exact readQuoted_unit isUnit noHigh noLow
  | @pair high low content digits digits' inner isUnit isHigh isUnit' isLow quotes ih =>
      obtain ⟨fuel, rfl⟩ := Nat.exists_eq_succ_of_ne_zero (Nat.ne_zero_of_lt enough)
      simp only [List.length_cons, List.length_append] at enough
      have less : inner.length < fuel := by omega
      rw [← yielded_cons, ← ih less]
      simp only [List.cons_append, List.append_assoc]
      exact readQuoted_pair isUnit isHigh isUnit' isLow
  | @half unit content digits inner isUnit isHalf quotes ih =>
      obtain ⟨fuel, rfl⟩ := Nat.exists_eq_succ_of_ne_zero (Nat.ne_zero_of_lt enough)
      simp only [List.length_cons, List.length_append] at enough
      have less : inner.length < fuel := by omega
      have read : readQuoted fuel false before (inner ++ '"' :: rest) = .closed none rest := ih less
      rw [yielded_none, ← read]
      simp only [List.cons_append, List.append_assoc]
      rcases isHalf with ⟨isHigh, alone⟩ | isLow
      · exact readQuoted_high isUnit isHigh alone quotes
      · exact readQuoted_low isUnit isLow

/-- A first half is alone where the characters behind it are read for themselves. -/
theorem not_beginsLow {characters inner : List Char} (same : characters = inner ++ '"' :: rest)
    (noLow : ∀ {unit : Nat} {more behind : List Char}, characters = '\\' :: 'u' :: more →
      readUnit more = .ok (unit, behind) → ¬IsLow unit) : ¬BeginsLow inner := by
  rintro ⟨low, digits, others, isUnit, isLow, rfl⟩
  simp only [List.cons_append, List.append_assoc] at same
  exact noLow same (readUnit_append isUnit _) isLow

/-- The characters up to a closing quote spell a content, of which `found` is what they
yield. -/
def Closes (paired : Bool) (before characters : List Char) (found : Option String)
    (rest : List Char) : Prop :=
  ∃ content inner, characters = inner ++ '"' :: rest ∧ Quotes content inner ∧
    found = yielded paired before content

variable {found : Option String}

/-- An escape by units spells something, if all closes that is read behind it. -/
theorem closes_unit {others : List Char}
    (later : ∀ {paired : Bool} {before characters : List Char},
      readQuoted fuel paired before characters = .closed found rest →
        Closes paired before characters found rest)
    (read : readQuoted (fuel + 1) paired before ('\\' :: 'u' :: others) = .closed found rest) :
    Closes paired before ('\\' :: 'u' :: others) found rest := by
  simp only [readQuoted, Bool.and_eq_true, decide_eq_true_eq] at read
  split at read
  case h_1 => cases read
  case h_2 unit behind readHere =>
    obtain ⟨digits, isUnit, rfl⟩ := readUnit_eq_ok_iff.1 readHere
    split at read
    case isFalse noHigh =>
      split at read
      case isTrue isLow =>
        obtain ⟨content, inner, rfl, quotes, rfl⟩ := later read
        exact ⟨none, _, by simp, .half isUnit (.inr isLow) quotes, yielded_none.symm⟩
      case isFalse noLow =>
        obtain ⟨content, inner, rfl, quotes, rfl⟩ := later read
        exact ⟨_, _, by simp, .unit isUnit noHigh noLow quotes, yielded_cons _⟩
    case isTrue isHigh =>
      split at read
      case h_1 more =>
        split at read
        case h_1 => cases read
        case h_2 low behind readNext =>
          obtain ⟨digits', isUnit', rfl⟩ := readUnit_eq_ok_iff.1 readNext
          split at read
          case isTrue isLow =>
            obtain ⟨content, inner, rfl, quotes, rfl⟩ := later read
            exact ⟨_, _, by simp, .pair isUnit isHigh isUnit' isLow quotes, yielded_cons _⟩
          case isFalse noLow =>
            obtain ⟨content, inner, same, quotes, rfl⟩ := later read
            have alone : ¬BeginsLow inner := by
              apply not_beginsLow same
              rintro unit more behind begins readUnit
              obtain rfl := (List.cons.inj (List.cons.inj begins).2).2
              rw [readNext] at readUnit
              obtain ⟨rfl, -⟩ := Prod.mk.inj (Except.ok.inj readUnit)
              exact noLow
            exact ⟨none, _, by simp [same], .half isUnit (.inl ⟨isHigh, alone⟩) quotes,
              yielded_none.symm⟩
      case h_2 => cases read
      case h_3 => cases read
      case h_4 noUnit _ _ =>
        obtain ⟨content, inner, same, quotes, rfl⟩ := later read
        have alone : ¬BeginsLow inner :=
          not_beginsLow same fun begins _ => absurd begins (noUnit _)
        exact ⟨none, _, by simp [same], .half isUnit (.inl ⟨isHigh, alone⟩) quotes,
          yielded_none.symm⟩

/-- What is read up to a closing quote spells the content that is found. -/
theorem closes_of_readQuoted {characters : List Char}
    (read : readQuoted fuel paired before characters = .closed found rest) :
    Closes paired before characters found rest := by
  induction fuel generalizing paired before characters with
  | zero => cases read
  | succ fuel ih =>
      have readAll := read
      unfold readQuoted at read
      split at read
      case h_1 => cases read
      case h_2 =>
        simp only [Quoted.closed.injEq] at read
        obtain ⟨rfl, rfl⟩ := read
        exact ⟨some [], [], rfl, .nil, by simp [yielded]⟩
      case h_3 => exact closes_unit ih readAll
      case h_4 => cases read
      case h_5 letter others noUnit =>
        split at read
        case h_1 character isEscape =>
          obtain ⟨content, inner, rfl, quotes, rfl⟩ := ih read
          exact ⟨_, _, rfl, .escape isEscape quotes, yielded_cons character⟩
        case h_2 => cases read
      case h_6 character others noQuote noUnit noEnd noEscape =>
        split at read
        case isTrue => cases read
        case isFalse printed =>
          have noBackslash : character ≠ '\\' := by
            intro isBackslash
            cases others with
            | nil => exact noEnd isBackslash rfl
            | cons letter others => exact noEscape letter others isBackslash rfl
          obtain ⟨content, inner, rfl, quotes, rfl⟩ := ih read
          exact ⟨_, _, rfl, .plain printed noQuote noBackslash quotes, yielded_cons character⟩

/-! ## Whole strings -/

theorem readString_of_quotes {inner : List Char} (quotes : Quotes content inner) :
    readString (inner ++ '"' :: rest) = .closed (content.map String.ofList) rest := by
  have enough : inner.length < (inner ++ '"' :: rest).length + 1 := by
    rw [List.length_append]
    omega
  rw [readString, readQuoted_of_quotes quotes enough]
  rfl

theorem exists_quotes_of_readString {characters : List Char}
    (read : readString characters = .closed found rest) :
    ∃ content inner, characters = inner ++ '"' :: rest ∧ Quotes content inner ∧
      found = content.map String.ofList :=
  closes_of_readQuoted read

end Draft

end PortTunnel.Json
