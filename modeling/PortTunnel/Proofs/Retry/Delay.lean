import PortTunnel.Retry.Policy

/-!
# Delays stay below their ceilings

A delay is drawn in whole milliseconds, up to and including those of its ceiling,
whatever the random words are.
-/

namespace PortTunnel.Retry

/-- An outcome that is accepted does not exceed the limit. -/
theorem outcome?_le {limit word outcome : UInt64} (accepted : outcome? limit word = some outcome) :
    outcome ≤ limit := by
  have words : wordCount = 18446744073709551616 := rfl
  have word_lt : word.toNat < 18446744073709551616 := word.toNat_lt
  have limit_lt : limit.toNat < 18446744073709551616 := limit.toNat_lt
  rw [UInt64.le_iff_toNat_le]
  simp only [outcome?, words] at accepted
  split at accepted
  · cases accepted
    omega
  · split at accepted
    · cases accepted
      have product_lt : word.toNat * (limit.toNat + 1) <
          18446744073709551616 * (limit.toNat + 1) :=
        Nat.mul_lt_mul_of_pos_right word_lt (Nat.succ_pos _)
      have outcome_lt : word.toNat * (limit.toNat + 1) / 18446744073709551616 <
          limit.toNat + 1 :=
        Nat.div_lt_of_lt_mul product_lt
      rw [UInt64.toNat_ofNat_of_lt' (by rw [UInt64.size]; omega)]
      omega
    · cases accepted

/-- No draw exceeds the limit. -/
theorem draw_le (limit : UInt64) (words : List UInt64) : (draw limit words).1 ≤ limit := by
  induction words with
  | nil => exact UInt64.zero_le
  | cons word rest ih =>
      unfold draw
      split
      · rename_i outcome accepted
        exact outcome?_le accepted
      · exact ih

/-- No delay exceeds the ceiling of its attempt. -/
theorem Policy.delay_le (policy : Policy) (attempt : UInt32) (words : List UInt64) :
    (policy.delay attempt words).1.nanos ≤ (policy.ceiling attempt).nanos := by
  have drawn : (draw (policy.ceilingMillis attempt) words).1.toNat ≤
      (policy.ceiling attempt).millis := by
    calc (draw (policy.ceilingMillis attempt) words).1.toNat
        ≤ (policy.ceilingMillis attempt).toNat :=
          UInt64.le_iff_toNat_le.1 (draw_le _ _)
      _ ≤ min (policy.ceiling attempt).millis (Number.twoTo 64 - 1) := by
          simp only [ceilingMillis, UInt64.toNat_ofNat']
          exact Nat.mod_le _ _
      _ ≤ (policy.ceiling attempt).millis := Nat.min_le_left _ _
  have nanos_eq : (policy.delay attempt words).1.nanos =
      (draw (policy.ceilingMillis attempt) words).1.toNat * 1000000 :=
    Span.nanos_ofMillis _
  rw [nanos_eq]
  calc (draw (policy.ceilingMillis attempt) words).1.toNat * 1000000
      ≤ (policy.ceiling attempt).nanos / 1000000 * 1000000 :=
        Nat.mul_le_mul_right _ drawn
    _ ≤ (policy.ceiling attempt).nanos := Nat.div_mul_le_self _ _

end PortTunnel.Retry
