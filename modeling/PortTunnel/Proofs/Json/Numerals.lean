import Mathlib.Tactic.SplitIfs
import PortTunnel.Json.Reader
import PortTunnel.Proofs.Json.Whole

/-!
# The numbers of JSON

A number has a whole part, and may have a sign in front of it and a fraction and
an exponent behind it.  The reader takes exactly such characters for a number:
it takes all of them, as long as the text does not go on as a number would, and
whatever it has taken has this form.  What it makes of a number is not told here,
only that this does not depend on what follows.
-/

namespace PortTunnel.Json

/-! ## The form of numbers -/

/-- Digits, one or more. -/
structure IsDigits (digits : List Char) : Prop where
  present : digits ≠ []
  each : ∀ digit ∈ digits, digit.isDigit = true

/-- The sign of an exponent, which may be left out. -/
def IsSign (sign : List Char) : Prop :=
  sign = [] ∨ sign = ['+'] ∨ sign = ['-']

/-- The part of a number in front of the point: no other digit stands behind a zero in
front. -/
inductive IsWhole : List Char → Prop where
  | zero : IsWhole ['0']
  | digits {first : Char} {rest : List Char} (positive : first ≠ '0')
      (isDigits : IsDigits (first :: rest)) : IsWhole (first :: rest)

/-- The part of a number from the point on, which may be left out. -/
inductive IsFraction : List Char → Prop where
  | none : IsFraction []
  | digits {digits : List Char} (isDigits : IsDigits digits) : IsFraction ('.' :: digits)

/-- The part of a number from the mark of the exponent on, which may be left out. -/
inductive IsExponent : List Char → Prop where
  | none : IsExponent []
  | digits {mark : Char} {sign digits : List Char} (isMark : mark = 'e' ∨ mark = 'E')
      (isSign : IsSign sign) (isDigits : IsDigits digits) :
      IsExponent (mark :: (sign ++ digits))

/-- A number without its sign. -/
inductive IsMagnitude : List Char → Prop where
  | parts {whole fraction exponent : List Char} (isWhole : IsWhole whole)
      (isFraction : IsFraction fraction) (isExponent : IsExponent exponent) :
      IsMagnitude (whole ++ (fraction ++ exponent))

/-- A number. -/
inductive IsNumber : List Char → Prop where
  | positive {magnitude : List Char} (isMagnitude : IsMagnitude magnitude) : IsNumber magnitude
  | negative {magnitude : List Char} (isMagnitude : IsMagnitude magnitude) :
      IsNumber ('-' :: magnitude)

namespace Draft

/-! ## Digits -/

theorem digit?_of_isDigit {character : Char} (isDigit : character.isDigit = true) :
    digit? character = some (character.toNat - '0'.toNat) := by
  simp only [Char.isDigit, Bool.and_eq_true, decide_eq_true_eq] at isDigit
  simpa [digit?, Char.le_def] using isDigit

theorem isSome_digit? (character : Char) : (digit? character).isSome = character.isDigit := by
  cases isDigit : character.isDigit with
  | true => rw [digit?_of_isDigit isDigit, Option.isSome_some]
  | false =>
      have outside : ¬('0' ≤ character ∧ character ≤ '9') := by
        simpa [Char.isDigit, Char.le_def] using isDigit
      simp [digit?, outside]

theorem digit?_eq_none {character : Char} (other : character.isDigit = false) :
    digit? character = none := by
  rw [← Option.isNone_iff_eq_none, ← Option.not_isSome, isSome_digit?, other]
  rfl

theorem ne_of_isDigit {character other : Char} (isDigit : character.isDigit = true)
    (different : other.isDigit = false) : character ≠ other := by
  rintro rfl
  exact Bool.false_ne_true (different.symm.trans isDigit)

/-- A text that does not continue digits in front of it. -/
def EndsDigits (rest : List Char) : Prop :=
  ∀ next ∈ rest.head?, next.isDigit = false

theorem endsDigits_cons {next : Char} {rest : List Char} :
    EndsDigits (next :: rest) ↔ next.isDigit = false := by
  simp [EndsDigits]

/-- Whether a number goes on with a character. -/
def continuesNumber (character : Char) : Bool :=
  (digit? character).isSome || character == '.' || character == 'e' || character == 'E'

/-- A text that does not continue a number in front of it. -/
def EndsNumber (rest : List Char) : Prop :=
  ∀ next ∈ rest.head?, continuesNumber next = false

theorem endsNumber_nil : EndsNumber [] := by
  simp [EndsNumber]

theorem endsNumber_cons {next : Char} {rest : List Char} :
    EndsNumber (next :: rest) ↔ continuesNumber next = false := by
  simp [EndsNumber]

theorem EndsNumber.ne_marks {next : Char} {rest : List Char} (ends : EndsNumber (next :: rest)) :
    next ≠ '.' ∧ next ≠ 'e' ∧ next ≠ 'E' := by
  have stops := endsNumber_cons.1 ends
  simp only [continuesNumber, Bool.or_eq_false_iff, beq_eq_false_iff_ne] at stops
  obtain ⟨⟨⟨-, noPoint⟩, noSmall⟩, noLarge⟩ := stops
  exact ⟨noPoint, noSmall, noLarge⟩

theorem EndsNumber.endsDigits {rest : List Char} (ends : EndsNumber rest) : EndsDigits rest := by
  intro next isNext
  have stops := ends next isNext
  simp only [continuesNumber, Bool.or_eq_false_iff, isSome_digit?] at stops
  exact stops.1.1.1

/-- Digits are passed over up to their end, wherever they end. -/
theorem passDigits_append (count : Nat) {digits rest : List Char}
    (each : ∀ digit ∈ digits, digit.isDigit = true) (ends : EndsDigits rest) :
    passDigits count (digits ++ rest) = (count + digits.length, rest) := by
  induction digits generalizing count with
  | nil =>
      cases rest with
      | nil => rfl
      | cons next rest => simp [passDigits, isSome_digit?, endsDigits_cons.1 ends]
  | cons digit digits ih =>
      obtain ⟨here, later⟩ := List.forall_mem_cons.1 each
      simp only [List.cons_append, passDigits, isSome_digit?, here, if_true, ih _ later,
        List.length_cons, Nat.add_assoc, Nat.add_comm 1]

/-- What is passed over are digits. -/
theorem digits_of_passDigits {count total : Nat} {characters rest : List Char}
    (passed : passDigits count characters = (total, rest)) :
    ∃ digits, characters = digits ++ rest ∧ (∀ digit ∈ digits, digit.isDigit = true) ∧
      total = count + digits.length := by
  induction characters generalizing count with
  | nil =>
      obtain ⟨rfl, rfl⟩ := Prod.mk.inj passed
      exact ⟨[], rfl, nofun, rfl⟩
  | cons character characters ih =>
      rw [passDigits, isSome_digit?] at passed
      split at passed
      case isTrue isDigit =>
        obtain ⟨digits, rfl, each, rfl⟩ := ih passed
        refine ⟨character :: digits, rfl, List.forall_mem_cons.2 ⟨isDigit, each⟩, ?_⟩
        rw [List.length_cons, Nat.add_assoc, Nat.add_comm 1]
      case isFalse =>
        obtain ⟨rfl, rfl⟩ := Prod.mk.inj passed
        exact ⟨[], rfl, nofun, rfl⟩

/-- Of digits those in front are read that fit, which does not depend on what follows the
digits. -/
theorem exists_fitting (number count : Nat) {digits : List Char}
    (each : ∀ digit ∈ digits, digit.isDigit = true) :
    ∃ found front back, digits = front ++ back ∧ ∀ rest, EndsDigits rest →
      readWhole number count (digits ++ rest) = (found, count + front.length, back ++ rest) := by
  induction digits generalizing number count with
  | nil =>
      refine ⟨number, [], [], rfl, fun rest ends => ?_⟩
      cases rest with
      | nil => rfl
      | cons next rest => simp [readWhole, digit?_eq_none (endsDigits_cons.1 ends)]
  | cons digit digits ih =>
      obtain ⟨here, later⟩ := List.forall_mem_cons.1 each
      by_cases fits : number * 10 + (digit.toNat - '0'.toNat) ≤ greatestWord
      · obtain ⟨found, front, back, rfl, read⟩ :=
          ih (number * 10 + (digit.toNat - '0'.toNat)) (count + 1) later
        refine ⟨found, digit :: front, back, rfl, fun rest ends => ?_⟩
        rw [List.cons_append, readWhole, digit?_of_isDigit here]
        simp only [if_pos fits, read rest ends, List.length_cons, Nat.add_assoc, Nat.add_comm 1]
      · refine ⟨number, [], digit :: digits, rfl, fun rest _ => ?_⟩
        rw [List.cons_append, readWhole, digit?_of_isDigit here]
        simp only [if_neg fits, List.length_nil, Nat.add_zero]

/-- What is read as far as it fits are digits. -/
theorem digits_of_readWhole {number count found total : Nat} {characters rest : List Char}
    (read : readWhole number count characters = (found, total, rest)) :
    ∃ digits, characters = digits ++ rest ∧ (∀ digit ∈ digits, digit.isDigit = true) ∧
      total = count + digits.length := by
  induction characters generalizing number count with
  | nil =>
      simp only [readWhole, Prod.mk.injEq] at read
      obtain ⟨rfl, rfl, rfl⟩ := read
      exact ⟨[], rfl, nofun, rfl⟩
  | cons character characters ih =>
      cases isDigit : character.isDigit with
      | false =>
          simp only [readWhole, digit?_eq_none isDigit, Prod.mk.injEq] at read
          obtain ⟨rfl, rfl, rfl⟩ := read
          exact ⟨[], rfl, nofun, rfl⟩
      | true =>
          simp only [readWhole, digit?_of_isDigit isDigit] at read
          split at read
          case isTrue =>
            obtain ⟨digits, rfl, each, rfl⟩ := ih read
            refine ⟨character :: digits, rfl, List.forall_mem_cons.2 ⟨isDigit, each⟩, ?_⟩
            rw [List.length_cons, Nat.add_assoc, Nat.add_comm 1]
          case isFalse =>
            simp only [Prod.mk.injEq] at read
            obtain ⟨rfl, rfl, rfl⟩ := read
            exact ⟨[], rfl, nofun, rfl⟩

/-- Behind digits of which those that fit are read, and the others passed over, stands what
follows the digits; how many there are of each does not depend on it. -/
theorem exists_counts (number count : Nat) {digits : List Char}
    (each : ∀ digit ∈ digits, digit.isDigit = true) :
    ∃ found taken dropped, taken + dropped = digits.length ∧ ∀ rest, EndsDigits rest →
      ∃ middle, readWhole number count (digits ++ rest) = (found, count + taken, middle) ∧
        passDigits 0 middle = (dropped, rest) := by
  obtain ⟨found, front, back, rfl, read⟩ := exists_fitting number count each
  have eachBack := (List.forall_mem_append.1 each).2
  refine ⟨found, front.length, back.length, List.length_append.symm, fun rest ends =>
    ⟨back ++ rest, read rest ends, ?_⟩⟩
  rw [passDigits_append 0 eachBack ends, Nat.zero_add]

theorem isDigits_of_counts {number found taken dropped : Nat} {characters middle rest : List Char}
    (read : readWhole number 0 characters = (found, taken, middle))
    (passed : passDigits 0 middle = (dropped, rest)) (some : taken + dropped ≠ 0) :
    ∃ digits, characters = digits ++ rest ∧ IsDigits digits := by
  obtain ⟨front, rfl, eachFront, rfl⟩ := digits_of_readWhole read
  obtain ⟨back, rfl, eachBack, rfl⟩ := digits_of_passDigits passed
  refine ⟨front ++ back, (List.append_assoc _ _ _).symm, ?_,
    List.forall_mem_append.2 ⟨eachFront, eachBack⟩⟩
  rw [← List.length_pos_iff, List.length_append]
  omega

/-! ## The parts of a number are taken -/

/-- A reader takes the characters where a number ends behind them.  What it makes of them
is whole, and does not depend on what follows. -/
def Takes (read : List Char → Step) (inner : List Char) : Prop :=
  ∃ draft : Draft, draft.Whole ∧
    ∀ rest, EndsNumber rest → read (inner ++ rest) = (draft, some rest)

variable {negative : Bool} {digits dropped : Nat} {scale : Int}

/-- The digits of an exponent are read as a number, wherever they end. -/
theorem digitsNumber_append (number : Nat) {inner rest : List Char}
    (each : ∀ digit ∈ inner, digit.isDigit = true) (ends : EndsDigits rest) :
    digitsNumber number (inner ++ rest) = digitsNumber number inner := by
  induction inner generalizing number with
  | nil =>
      cases rest with
      | nil => rfl
      | cons next rest => simp [digitsNumber, digit?_eq_none (endsDigits_cons.1 ends)]
  | cons digit inner ih =>
      obtain ⟨here, later⟩ := List.forall_mem_cons.1 each
      simp only [List.cons_append, digitsNumber, digit?_of_isDigit here, ih _ later]

theorem takes_readExponent {sign inner : List Char} (isSign : IsSign sign)
    (isDigits : IsDigits inner) :
    Takes (readExponent negative digits scale) (sign ++ inner) := by
  have some : (0 + inner.length == 0) = false := by
    simpa using isDigits.present
  have read : ∀ rest, EndsNumber rest → passDigits 0 (inner ++ rest) = (0 + inner.length, rest) ∧
      digitsNumber 0 (inner ++ rest) = digitsNumber 0 inner := fun rest ends =>
    ⟨passDigits_append 0 isDigits.each ends.endsDigits,
      digitsNumber_append 0 isDigits.each ends.endsDigits⟩
  rcases isSign with rfl | rfl | rfl
  · refine ⟨.real ⟨negative, digits, scale + digitsNumber 0 inner⟩, .real _, fun rest ends => ?_⟩
    obtain ⟨passed, number⟩ := read rest ends
    obtain ⟨first, others, rfl⟩ := List.exists_cons_of_ne_nil isDigits.present
    have isDigit := isDigits.each first List.mem_cons_self
    have noPlus : first ≠ '+' := ne_of_isDigit isDigit rfl
    have noMinus : first ≠ '-' := ne_of_isDigit isDigit rfl
    rw [List.cons_append] at passed number
    simp [readExponent, noPlus, noMinus, passed, number]
  · refine ⟨.real ⟨negative, digits, scale + digitsNumber 0 inner⟩, .real _, fun rest ends => ?_⟩
    obtain ⟨passed, number⟩ := read rest ends
    simp only [readExponent, List.cons_append, List.nil_append, passed, number, some,
      Bool.false_eq_true, if_false]
  · refine ⟨.real ⟨negative, digits, scale - digitsNumber 0 inner⟩, .real _, fun rest ends => ?_⟩
    obtain ⟨passed, number⟩ := read rest ends
    simp only [readExponent, List.cons_append, List.nil_append, passed, number, some,
      Bool.false_eq_true, if_false, if_true]

theorem takes_finishReal {exponent : List Char} (isExponent : IsExponent exponent) :
    Takes (finishReal negative digits scale) exponent := by
  cases isExponent with
  | none =>
      refine ⟨.real ⟨negative, digits, scale⟩, .real _, fun rest ends => ?_⟩
      cases rest with
      | nil => rfl
      | cons next rest =>
          obtain ⟨-, noSmall, noLarge⟩ := ends.ne_marks
          simp [finishReal, noSmall, noLarge]
  | digits isMark isSign isDigits =>
      obtain ⟨draft, whole, taken⟩ := takes_readExponent isSign isDigits
      refine ⟨draft, whole, fun rest ends => ?_⟩
      rcases isMark with rfl | rfl <;> exact taken rest ends

/-- Behind digits stands what ends digits: a number ends there, or the next part begins. -/
theorem endsDigits_exponent {exponent rest : List Char} (isExponent : IsExponent exponent)
    (ends : EndsNumber rest) : EndsDigits (exponent ++ rest) := by
  cases isExponent with
  | none => exact ends.endsDigits
  | digits isMark => rcases isMark with rfl | rfl <;> exact endsDigits_cons.2 rfl

theorem takes_readFraction {inner exponent : List Char} (isDigits : IsDigits inner)
    (isExponent : IsExponent exponent) :
    Takes (readFraction negative digits scale) (inner ++ exponent) := by
  obtain ⟨found, taken, dropped, all, read⟩ := exists_counts digits 0 isDigits.each
  have some : (0 + taken + dropped == 0) = false := by
    rw [Nat.zero_add, all]
    simpa using isDigits.present
  have finishes : Takes (finishReal negative found (scale - ((0 + taken : Nat) : Int))) exponent :=
    takes_finishReal isExponent
  obtain ⟨draft, whole, finished⟩ := finishes
  refine ⟨draft, whole, fun rest ends => ?_⟩
  obtain ⟨middle, readHere, passed⟩ := read (exponent ++ rest) (endsDigits_exponent isExponent ends)
  simp only [readFraction, List.append_assoc, readHere, passed, some, Bool.false_eq_true, if_false]
  exact finished rest ends

theorem takes_finishNumber {fraction exponent : List Char} (isFraction : IsFraction fraction)
    (isExponent : IsExponent exponent) :
    Takes (finishNumber negative digits dropped) (fraction ++ exponent) := by
  cases isFraction with
  | @digits inner isDigits =>
      have reads : Takes (readFraction negative digits dropped) (inner ++ exponent) :=
        takes_readFraction isDigits isExponent
      obtain ⟨draft, whole, taken⟩ := reads
      exact ⟨draft, whole, taken⟩
  | none =>
      cases isExponent with
      | @digits mark sign inner isMark isSign isDigits =>
          have reads : Takes (readExponent negative digits dropped) (sign ++ inner) :=
            takes_readExponent isSign isDigits
          obtain ⟨draft, whole, taken⟩ := reads
          refine ⟨draft, whole, fun rest ends => ?_⟩
          rcases isMark with rfl | rfl <;> exact taken rest ends
      | none =>
          have whole : (finishNumber negative digits dropped []).1.Whole := by
            simp only [finishNumber]
            split_ifs <;> constructor
          refine ⟨(finishNumber negative digits dropped []).1, whole, fun rest ends => ?_⟩
          cases rest with
          | nil =>
              simp only [List.append_nil, finishNumber]
              split_ifs <;> rfl
          | cons next rest =>
              obtain ⟨noPoint, noSmall, noLarge⟩ := ends.ne_marks
              simp only [finishNumber, List.nil_append, List.cons.injEq, noPoint, noSmall, noLarge,
                false_and, imp_self, implies_true]
              split_ifs <;> rfl

theorem endsDigits_fraction {fraction exponent rest : List Char} (isFraction : IsFraction fraction)
    (isExponent : IsExponent exponent) (ends : EndsNumber rest) :
    EndsDigits (fraction ++ exponent ++ rest) := by
  cases isFraction with
  | none => exact endsDigits_exponent isExponent ends
  | digits => exact endsDigits_cons.2 rfl

theorem takes_zero {behind : List Char}
    (stops : ∀ {rest}, EndsNumber rest → EndsDigits (behind ++ rest))
    (finishes : Takes (finishNumber negative 0 0) behind) :
    Takes (readMagnitude negative) ('0' :: behind) := by
  obtain ⟨draft, whole, finished⟩ := finishes
  refine ⟨draft, whole, fun rest ends => ?_⟩
  have read := finished rest ends
  have stopped := stops ends
  rw [List.cons_append]
  cases next : behind ++ rest with
  | nil => rwa [next] at read
  | cons first others =>
      rw [next] at read stopped
      simp [readMagnitude, isSome_digit?, endsDigits_cons.1 stopped, read]

/-- A digit fits in 64 bits, so that the first one of a number is always read. -/
theorem digit_le_greatestWord {digit : Char} (isDigit : digit.isDigit = true) :
    digit.toNat - '0'.toNat ≤ greatestWord := by
  simp only [Char.isDigit, Bool.and_eq_true, decide_eq_true_eq, UInt32.le_iff_toNat_le] at isDigit
  have small : digit.toNat ≤ 57 := isDigit.2
  exact Nat.le_trans (Nat.sub_le _ _) (Nat.le_trans small (by decide))

theorem takes_positive {first : Char} {others behind : List Char} (positive : first ≠ '0')
    (isDigits : IsDigits (first :: others))
    (stops : ∀ {rest}, EndsNumber rest → EndsDigits (behind ++ rest))
    (finishes : ∀ digits dropped, Takes (finishNumber negative digits dropped) behind) :
    Takes (readMagnitude negative) (first :: others ++ behind) := by
  obtain ⟨here, later⟩ := List.forall_mem_cons.1 isDigits.each
  obtain ⟨found, taken, dropped, -, read⟩ := exists_counts (first.toNat - '0'.toNat) 1 later
  obtain ⟨draft, whole, finished⟩ := finishes found dropped
  refine ⟨draft, whole, fun rest ends => ?_⟩
  obtain ⟨middle, readRest, passed⟩ := read _ (stops ends)
  have readHere : readWhole 0 0 (first :: (others ++ (behind ++ rest))) =
      (found, 1 + taken, middle) := by
    simp only [readWhole, digit?_of_isDigit here, Nat.zero_mul, Nat.zero_add,
      if_pos (digit_le_greatestWord here), readRest]
  have some : (1 + taken == 0) = false := by simp
  simp only [List.append_assoc, List.cons_append]
  unfold readMagnitude
  split
  case h_1 same => exact absurd (List.cons.inj same).1 positive
  case h_2 =>
    simp only [readHere, passed, some, Bool.false_eq_true, if_false]
    exact finished rest ends

theorem takes_readMagnitude {magnitude : List Char} (isMagnitude : IsMagnitude magnitude) :
    Takes (readMagnitude negative) magnitude := by
  cases isMagnitude with
  | @parts whole fraction exponent isWhole isFraction isExponent =>
      have stops {rest : List Char} (ends : EndsNumber rest) :
          EndsDigits (fraction ++ exponent ++ rest) :=
        endsDigits_fraction isFraction isExponent ends
      have finishes (digits dropped : Nat) :
          Takes (finishNumber negative digits dropped) (fraction ++ exponent) :=
        takes_finishNumber isFraction isExponent
      cases isWhole with
      | zero => exact takes_zero stops (finishes 0 0)
      | digits positive isDigits => exact takes_positive positive isDigits stops finishes

/-! ## What is taken for a number is one -/

variable {characters : List Char} {draft : Draft} {behind : Option (List Char)}

/-- Where a digit is missing nothing whole is found. -/
theorem not_whole_of_halt {breakage : Breakage} (halted : halt breakage = (draft, behind)) :
    ¬draft.Whole := by
  obtain ⟨rfl, -⟩ := Prod.mk.inj halted
  intro whole
  cases whole

theorem exists_of_readExponent (whole : draft.Whole)
    (read : readExponent negative digits scale characters = (draft, behind)) :
    ∃ sign inner rest, behind = some rest ∧ characters = sign ++ inner ++ rest ∧ IsSign sign ∧
      IsDigits inner := by
  unfold readExponent at read
  split at read
  rename_i down others signed
  split at read
  rename_i count rest passed
  obtain ⟨inner, rfl, each, rfl⟩ := digits_of_passDigits passed
  split at read
  case isTrue => exact absurd whole (not_whole_of_halt read)
  case isFalse present =>
    have isDigits : IsDigits inner := ⟨by simpa using present, each⟩
    obtain ⟨-, rfl⟩ := Prod.mk.inj read
    split at signed
    case h_1 =>
      obtain ⟨-, rfl⟩ := Prod.mk.inj signed
      exact ⟨['+'], inner, rest, rfl, rfl, .inr (.inl rfl), isDigits⟩
    case h_2 =>
      obtain ⟨-, rfl⟩ := Prod.mk.inj signed
      exact ⟨['-'], inner, rest, rfl, rfl, .inr (.inr rfl), isDigits⟩
    case h_3 =>
      obtain ⟨-, rfl⟩ := Prod.mk.inj signed
      exact ⟨[], inner, rest, rfl, rfl, .inl rfl, isDigits⟩

theorem exists_of_finishReal (whole : draft.Whole)
    (read : finishReal negative digits scale characters = (draft, behind)) :
    ∃ exponent rest, behind = some rest ∧ characters = exponent ++ rest ∧
      IsExponent exponent := by
  unfold finishReal at read
  split at read
  case h_1 =>
    obtain ⟨sign, inner, rest, rfl, rfl, isSign, isDigits⟩ := exists_of_readExponent whole read
    exact ⟨_, rest, rfl, rfl, .digits (.inl rfl) isSign isDigits⟩
  case h_2 =>
    obtain ⟨sign, inner, rest, rfl, rfl, isSign, isDigits⟩ := exists_of_readExponent whole read
    exact ⟨_, rest, rfl, rfl, .digits (.inr rfl) isSign isDigits⟩
  case h_3 =>
    obtain ⟨-, rfl⟩ := Prod.mk.inj read
    exact ⟨[], _, rfl, rfl, .none⟩

theorem exists_of_readFraction (whole : draft.Whole)
    (read : readFraction negative digits scale characters = (draft, behind)) :
    ∃ inner exponent rest, behind = some rest ∧ characters = inner ++ exponent ++ rest ∧
      IsDigits inner ∧ IsExponent exponent := by
  unfold readFraction at read
  split at read
  rename_i fraction taken middle readHere
  split at read
  rename_i dropped others passed
  split at read
  case isTrue => exact absurd whole (not_whole_of_halt read)
  case isFalse present =>
    obtain ⟨inner, rfl, isDigits⟩ := isDigits_of_counts readHere passed (by simpa using present)
    obtain ⟨exponent, rest, rfl, rfl, isExponent⟩ := exists_of_finishReal whole read
    exact ⟨inner, exponent, rest, rfl, (List.append_assoc _ _ _).symm, isDigits, isExponent⟩

theorem exists_of_finishNumber (whole : draft.Whole)
    (read : finishNumber negative digits dropped characters = (draft, behind)) :
    ∃ fraction exponent rest, behind = some rest ∧ characters = fraction ++ exponent ++ rest ∧
      IsFraction fraction ∧ IsExponent exponent := by
  unfold finishNumber at read
  split at read
  case h_1 =>
    obtain ⟨inner, exponent, rest, rfl, rfl, isDigits, isExponent⟩ :=
      exists_of_readFraction whole read
    exact ⟨_, _, rest, rfl, rfl, .digits isDigits, isExponent⟩
  case h_2 =>
    obtain ⟨sign, inner, rest, rfl, rfl, isSign, isDigits⟩ := exists_of_readExponent whole read
    exact ⟨[], _, rest, rfl, rfl, .none, .digits (.inl rfl) isSign isDigits⟩
  case h_3 =>
    obtain ⟨sign, inner, rest, rfl, rfl, isSign, isDigits⟩ := exists_of_readExponent whole read
    exact ⟨[], _, rest, rfl, rfl, .none, .digits (.inr rfl) isSign isDigits⟩
  case h_4 =>
    have same : behind = some characters := by
      split_ifs at read
      all_goals exact (Prod.mk.inj read).2.symm
    exact ⟨[], [], characters, same, rfl, .none, .none⟩

/-- What is read as a number without its sign is one. -/
theorem exists_of_readMagnitude (whole : draft.Whole)
    (read : readMagnitude negative characters = (draft, behind)) :
    ∃ magnitude rest, behind = some rest ∧ characters = magnitude ++ rest ∧
      IsMagnitude magnitude := by
  have finish {front others : List Char} {digits dropped : Nat} (isWhole : IsWhole front)
      (read : finishNumber negative digits dropped others = (draft, behind)) :
      ∃ magnitude rest, behind = some rest ∧ front ++ others = magnitude ++ rest ∧
        IsMagnitude magnitude := by
    obtain ⟨fraction, exponent, rest, rfl, rfl, isFraction, isExponent⟩ :=
      exists_of_finishNumber whole read
    exact ⟨_, rest, rfl, (List.append_assoc _ _ _).symm, .parts isWhole isFraction isExponent⟩
  unfold readMagnitude at read
  split at read
  case h_1 others =>
    split at read
    case h_1 next others =>
      split at read
      case isTrue => exact absurd whole (not_whole_of_halt read)
      case isFalse => exact finish .zero read
    case h_2 => exact finish .zero read
  case h_2 noZero =>
    split at read
    rename_i found taken middle readHere
    split at read
    case isTrue => exact absurd whole (not_whole_of_halt read)
    case isFalse present =>
      split at read
      rename_i dropped others passed
      have some : taken + dropped ≠ 0 := by
        simp only [beq_iff_eq] at present
        omega
      obtain ⟨front, rfl, isDigits⟩ := isDigits_of_counts readHere passed some
      obtain ⟨first, digits, rfl⟩ := List.exists_cons_of_ne_nil isDigits.present
      have positive : first ≠ '0' := fun zero => noZero (digits ++ others) (by rw [zero]; rfl)
      exact finish (.digits positive isDigits) read

end Draft

end PortTunnel.Json
