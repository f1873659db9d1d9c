import Mathlib.Data.List.Basic
import Mathlib.Tactic.IntervalCases

/-!
# Decimal digits

Every number has at least one digit, and only zero has a zero in front.
-/

namespace PortTunnel.Number

/-- The decimal digits of a number are digits. -/
theorem isDigit_of_mem_repr {number : Nat} {digit : Char} (member : digit ∈ number.repr.toList) :
    digit.isDigit = true := by
  rw [Nat.toList_repr] at member
  exact Nat.isDigit_of_mem_toDigits (by decide) (by decide) member

/-- Only zero starts with a zero. -/
theorem eq_zero_of_head?_repr {number : Nat} (starts : number.repr.toList.head? = some '0') :
    number = 0 := by
  rw [Nat.toList_repr] at starts
  induction number using Nat.strongRecOn with
  | ind number ih =>
    rw [Nat.toDigits_eq_if (by decide)] at starts
    split at starts
    case isTrue small => interval_cases number <;> simp_all
    case isFalse large =>
      -- The digits before the last one are those of a tenth of the number.
      rw [List.head?_append_of_ne_nil _ Nat.toDigits_ne_nil] at starts
      have isZero := ih (number / 10) (by omega) starts
      omega

/-- The first digit of a number, which is no zero unless the number is. -/
theorem exists_first_digit (number : Nat) :
    ∃ first rest, number.repr.toList = first :: rest ∧ first.isDigit = true ∧
      (first = '0' → number = 0) := by
  cases spelled : number.repr.toList with
  | nil => exact absurd (Nat.toList_repr ▸ spelled) Nat.toDigits_ne_nil
  | cons first rest =>
      refine ⟨first, rest, rfl, isDigit_of_mem_repr (spelled ▸ List.mem_cons_self), ?_⟩
      rintro rfl
      exact eq_zero_of_head?_repr (by rw [spelled, List.head?_cons])

/-- The digits of a number stand for it. -/
theorem ofDigitChars_repr (number : Nat) : Nat.ofDigitChars 10 number.repr.toList 0 = number := by
  rw [Nat.toList_repr, Nat.ofDigitChars_toDigits (by decide) (by decide)]

/-- More digits never make a number smaller. -/
theorem le_ofDigitChars (digits : List Char) (number : Nat) :
    number ≤ Nat.ofDigitChars 10 digits number := by
  induction digits generalizing number with
  | nil => exact Nat.le_refl number
  | cons digit rest ih =>
      rw [Nat.ofDigitChars_cons]
      exact Nat.le_trans (by omega) (ih _)

end PortTunnel.Number
