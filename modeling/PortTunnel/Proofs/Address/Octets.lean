import PortTunnel.Address.Text
import PortTunnel.Proofs.Number.Decimal

/-!
# Dotted octets read back

Octets are written without leading zeros and in at most three digits, which is
what the reader asks of them.
-/

namespace PortTunnel.Address

theorem digitValue?_of_isDigit {character : Char} (isDigit : character.isDigit = true) :
    digitValue? 10 character = some (character.toNat - '0'.toNat) := by
  simp only [Char.isDigit, Bool.and_eq_true, decide_eq_true_eq] at isDigit
  have low : 48 ≤ character.toNat := isDigit.1
  have high : character.toNat ≤ 57 := isDigit.2
  have small : character.toNat - 48 < 10 := by omega
  have zero : '0'.toNat = 48 := rfl
  simp [digitValue?, low, high, small, zero]

/-- A text that does not continue a decimal in front of it. -/
def EndsDecimal (rest : List Char) : Prop :=
  ∀ next ∈ rest.head?, digitValue? 10 next = none

/-- Decimal digits are read up to their end. -/
theorem readDigits_append {digits rest : List Char} (value count : Nat)
    (all : ∀ digit ∈ digits, digit.isDigit = true) (ends : EndsDecimal rest) :
    readDigits 10 value count (digits ++ rest) =
      (Nat.ofDigitChars 10 digits value, count + digits.length, rest) := by
  induction digits generalizing value count with
  | nil =>
      cases rest with
      | nil => rfl
      | cons next rest => simp [readDigits, ends next rfl]
  | cons digit digits ih =>
      simp only [List.cons_append, readDigits,
        digitValue?_of_isDigit (all digit List.mem_cons_self)]
      rw [ih _ _ fun other member => all other (List.mem_cons_of_mem _ member),
        Nat.ofDigitChars_cons, Nat.mul_comm, List.length_cons]
      simp only [Prod.mk.injEq, and_true, true_and]
      omega

/-- An octet is read from its digits. -/
theorem readOctet?_append (octet : UInt8) {rest : List Char} (ends : EndsDecimal rest) :
    readOctet? (octet.toNat.repr.toList ++ rest) = some (octet, rest) := by
  have small : octet.toNat < 256 := octet.toNat_lt
  have few : octet.toNat.repr.toList.length ≤ 3 := by
    rw [Nat.toList_repr, Nat.length_toDigits_le_iff (by decide) (by decide)]
    omega
  have read := readDigits_append 0 0
    (fun digit (member : digit ∈ octet.toNat.repr.toList) => Number.isDigit_of_mem_repr member) ends
  rw [Number.ofDigitChars_repr, Nat.zero_add] at read
  obtain ⟨first, others, spelled, -, zero⟩ := Number.exists_first_digit octet.toNat
  have noZero : ¬ (1 < octet.toNat.repr.toList.length ∧ first = '0') := by
    rintro ⟨long, rfl⟩
    rw [zero rfl] at long
    exact absurd long (by decide)
  rw [spelled, List.length_cons] at few noZero
  rw [spelled] at read ⊢
  have inRange : ¬ 3 < others.length + 1 := by omega
  have fits : ¬ 255 < octet.toNat := by omega
  simp only [readOctet?, read]
  simpa [inRange, fits] using fun long same => noZero ⟨Nat.lt_add_left_iff_pos.2 long, same⟩

/-- A point is no digit. -/
theorem endsDecimal_point (rest : List Char) : EndsDecimal ('.' :: rest) := by
  simp [EndsDecimal, digitValue?]

theorem endsDecimal_nil : EndsDecimal [] := by
  simp [EndsDecimal]

theorem readMark?_cons (mark : Char) (rest : List Char) :
    readMark? mark (mark :: rest) = some rest := by
  simp [readMark?]

theorem toList_text (octets : Octets) :
    octets.text.toList =
      octets.first.toNat.repr.toList ++ '.' :: (octets.second.toNat.repr.toList ++
        '.' :: (octets.third.toNat.repr.toList ++
          '.' :: (octets.fourth.toNat.repr.toList ++ []))) := by
  simp [Octets.text]

theorem readOctets?_text (octets : Octets) :
    readOctets? octets.text.toList = some (octets, []) := by
  simp only [readOctets?, toList_text, readOctet?_append _ (endsDecimal_point _), readMark?_cons,
    readOctet?_append _ endsDecimal_nil, Option.bind_eq_bind, Option.bind_some]
  rfl

/-- Octets are read from their text. -/
theorem ofOctetText?_text (octets : Octets) :
    ofOctetText? octets.text.toList = some octets := by
  simp only [ofOctetText?, readOctets?_text]

end PortTunnel.Address
