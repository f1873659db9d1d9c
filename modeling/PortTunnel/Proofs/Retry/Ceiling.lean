import PortTunnel.Retry.Policy

/-!
# Ceilings of delays

The ceiling of an attempt is the first one as many times over as the factor of the
attempt says, up to the cap.  Stopping at the longest span makes no difference,
because no cap is longer.

The factor is a power of two only for the first 32 attempts; from then on it is cut
to a word of 32 bits.  The main result says when the cap hides this: if the first
ceiling is empty, or if the cap is reached by the greatest factor.
-/

namespace PortTunnel

namespace Number

theorem twoTo_le_twoTo {first second : Nat} (le : first ≤ second) :
    twoTo first ≤ twoTo second :=
  Nat.pow_le_pow_right (Nat.succ_pos 1) le

theorem twoTo_pos (exponent : Nat) : 0 < twoTo exponent :=
  Nat.pow_pos (Nat.succ_pos 1)

end Number

theorem Span.nanos_least (first second : Span) :
    (first.least second).nanos = min first.nanos second.nanos := by
  unfold least
  by_cases shorter : first.nanos ≤ second.nanos
  · rw [if_pos shorter, Nat.min_eq_left shorter]
  · rw [if_neg shorter, Nat.min_eq_right (Nat.le_of_not_le shorter)]

namespace Retry.Policy

open Number

/-! ## Factors -/

/-- The factor of an attempt is a power of two, cut to a word. -/
theorem factor_eq (attempt : UInt32) :
    factor attempt = min (twoTo attempt.toNat) (twoTo 32 - 1) := by
  unfold factor
  split
  · rename_i early
    have below : twoTo attempt.toNat ≤ twoTo 31 := twoTo_le_twoTo (Nat.le_of_lt_succ early)
    have enough : twoTo 31 ≤ twoTo 32 - 1 := by decide
    exact (Nat.min_eq_left (Nat.le_trans below enough)).symm
  · rename_i late
    have beyond : twoTo 32 ≤ twoTo attempt.toNat := twoTo_le_twoTo (Nat.not_lt.1 late)
    exact (Nat.min_eq_right (Nat.le_trans (Nat.sub_le _ 1) beyond)).symm

/-- Factors do not decrease. -/
theorem factor_le_factor {earlier later : UInt32} (le : earlier ≤ later) :
    factor earlier ≤ factor later := by
  have grows : twoTo earlier.toNat ≤ twoTo later.toNat :=
    twoTo_le_twoTo (UInt32.le_iff_toNat_le.1 le)
  rw [factor_eq, factor_eq]
  omega

/-! ## Ceilings -/

/-- A ceiling is a multiple of the first one or the cap. -/
theorem nanos_ceiling (policy : Policy) (attempt : UInt32) :
    (policy.ceiling attempt).nanos =
      min policy.maxDelay.nanos (policy.initialDelay.nanos * factor attempt) := by
  have cap_le := policy.maxDelay.nanos_le
  rw [ceiling, Span.nanos_least, Span.times, Span.nanos_ofNanos]
  omega

/-- Ceilings do not decrease. -/
theorem ceiling_le_ceiling (policy : Policy) {earlier later : UInt32} (le : earlier ≤ later) :
    (policy.ceiling earlier).nanos ≤ (policy.ceiling later).nanos := by
  have grows : policy.initialDelay.nanos * factor earlier ≤
      policy.initialDelay.nanos * factor later :=
    Nat.mul_le_mul_left _ (factor_le_factor le)
  rw [nanos_ceiling, nanos_ceiling]
  omega

/-- No ceiling exceeds the cap. -/
theorem ceiling_le_maxDelay (policy : Policy) (attempt : UInt32) :
    (policy.ceiling attempt).nanos ≤ policy.maxDelay.nanos := by
  rw [nanos_ceiling]
  exact Nat.min_le_left _ _

/-- A ceiling is the first one times the cut power of two of its attempt, or the cap.  It is the
first one doubled with each attempt exactly if the power is not cut, or the cap hides that. -/
theorem ceiling_doubles_iff (policy : Policy) (attempt : UInt32) :
    (policy.ceiling attempt).nanos =
        min policy.maxDelay.nanos
          (policy.initialDelay.nanos * min (twoTo attempt.toNat) (twoTo 32 - 1)) ∧
      ((policy.ceiling attempt).nanos =
          min policy.maxDelay.nanos (policy.initialDelay.nanos * twoTo attempt.toNat) ↔
        attempt.toNat < 32 ∨ policy.initialDelay.nanos = 0 ∨
          policy.maxDelay.nanos ≤ policy.initialDelay.nanos * (twoTo 32 - 1)) := by
  have exact_eq := policy.nanos_ceiling attempt
  rw [factor_eq] at exact_eq
  refine ⟨exact_eq, ?_⟩
  rw [exact_eq]
  by_cases early : attempt.toNat < 32
  · have uncut : min (twoTo attempt.toNat) (twoTo 32 - 1) = twoTo attempt.toNat := by
      rw [← factor_eq, factor, if_pos early]
    simp [uncut, early]
  · have beyond : twoTo 32 ≤ twoTo attempt.toNat := twoTo_le_twoTo (Nat.not_lt.1 early)
    have greatest : twoTo 32 - 1 < twoTo attempt.toNat :=
      Nat.lt_of_lt_of_le (Nat.sub_lt (twoTo_pos 32) Nat.one_pos) beyond
    rw [Nat.min_eq_right (Nat.le_of_lt greatest)]
    rcases Nat.eq_zero_or_pos policy.initialDelay.nanos with none | some
    · simp [none]
    · -- The cut product is less than the whole one, so only a cap below it makes them equal.
      have less : policy.initialDelay.nanos * (twoTo 32 - 1) <
          policy.initialDelay.nanos * twoTo attempt.toNat :=
        Nat.mul_lt_mul_of_pos_left greatest some
      generalize policy.initialDelay.nanos * (twoTo 32 - 1) = cut at less ⊢
      generalize policy.initialDelay.nanos * twoTo attempt.toNat = whole at less ⊢
      omega

/-- A policy with a cap that takes 32 doublings to reach. -/
def farCap : Policy where
  initialDelay := .ofMillis 1
  maxDelay := .ofMillis 4294967296

/-- The ceiling of the last doubling misses the cap by the first delay. -/
theorem cut_factor_misses_cap :
    farCap.initialDelay.nanos * twoTo (32 : UInt32).toNat = farCap.maxDelay.nanos ∧
      (farCap.ceiling 32).nanos + farCap.initialDelay.nanos = farCap.maxDelay.nanos ∧
      (farCap.ceiling 32).nanos ≠
        min farCap.maxDelay.nanos
          (farCap.initialDelay.nanos * twoTo (32 : UInt32).toNat) := by
  decide

end Retry.Policy

end PortTunnel
