import Mathlib.Data.Set.Card
import Mathlib.Order.Interval.Finset.Nat
import PortTunnel.Proofs.Retry.Ceiling
import PortTunnel.Proofs.Retry.Delay

/-!
# Delays are drawn evenly

A word is accepted if the low half of its product with the number of outcomes lies in
the zone, and the high half is its outcome.  So the words of an outcome are those whose
products lie in a stretch that starts at a multiple of `2 ^ 64` and is as long as the
zone.  The zone is a multiple of the number of outcomes, so that every such stretch
holds equally many products, wherever it starts.

The main result is about the delays of a policy: their ceilings do not decrease and stay
below the cap, and each whole number of milliseconds up to the ceiling is drawn by
equally many words.
-/

namespace PortTunnel

/-- Different numbers of milliseconds are different spans. -/
theorem Span.ofMillis_injective : Function.Injective Span.ofMillis := by
  intro first second same
  have nanos_eq := congrArg Span.nanos same
  rw [nanos_ofMillis, nanos_ofMillis] at nanos_eq
  exact UInt64.toNat_inj.1 (Nat.eq_of_mul_eq_mul_right (by decide) nanos_eq)

namespace Retry

open Number

/-! ## Zones -/

/-- How many words are accepted for each outcome. -/
def share (outcomes : Nat) : Nat :=
  if outcomes = wordCount then 1 else twoTo (leadingZeros outcomes)

theorem share_pos (outcomes : Nat) : 0 < share outcomes := by
  unfold share
  split
  · exact Nat.one_pos
  · exact twoTo_pos _

theorem wordCount_pos : 0 < wordCount :=
  twoTo_pos 64

/-- The number of outcomes is shifted only as far as a word holds it. -/
theorem mul_share_lt {outcomes : Nat} (some_outcome : 0 < outcomes) (few : outcomes < wordCount) :
    outcomes * share outcomes < wordCount := by
  have digits : outcomes.log2 < 64 := (Nat.log2_lt (Nat.ne_of_gt some_outcome)).2 few
  have below : outcomes < twoTo (outcomes.log2 + 1) := Nat.lt_log2_self
  rw [share, if_neg (Nat.ne_of_lt few), leadingZeros]
  calc outcomes * twoTo (63 - outcomes.log2)
      < twoTo (outcomes.log2 + 1) * twoTo (63 - outcomes.log2) :=
        Nat.mul_lt_mul_of_pos_right below (twoTo_pos _)
    _ = twoTo (outcomes.log2 + 1 + (63 - outcomes.log2)) := (Nat.pow_add 2 _ _).symm
    _ = wordCount := by
        rw [wordCount]
        congr 1
        omega

/-- The zone of some outcomes is a multiple of their number. -/
theorem zone_eq {outcomes : Nat} (some_outcome : 0 < outcomes) (few : outcomes < wordCount) :
    zone outcomes = outcomes * share outcomes - 1 := by
  have fits := mul_share_lt some_outcome few
  rw [share, if_neg (Nat.ne_of_lt few)] at fits ⊢
  rw [zone, Nat.mod_eq_of_lt fits]

/-- A word has an outcome if its product lies in the zone behind that multiple of the number of
words. -/
theorem outcome?_eq_some_iff {limit word outcome : UInt64} (few : limit.toNat + 1 < wordCount) :
    outcome? limit word = some outcome ↔
      outcome.toNat * wordCount ≤ word.toNat * (limit.toNat + 1) ∧
        word.toNat * (limit.toNat + 1) <
          outcome.toNat * wordCount + (limit.toNat + 1) * share (limit.toNat + 1) := by
  have some_outcome : 0 < limit.toNat + 1 := Nat.succ_pos _
  have stretch_pos : 0 < (limit.toNat + 1) * share (limit.toNat + 1) :=
    Nat.mul_pos some_outcome (share_pos _)
  have stretch_lt := mul_share_lt some_outcome few
  have product_lt : word.toNat * (limit.toNat + 1) < wordCount * (limit.toNat + 1) :=
    Nat.mul_lt_mul_of_pos_right word.toNat_lt some_outcome
  have high_lt : word.toNat * (limit.toNat + 1) / wordCount < UInt64.size :=
    (Nat.div_lt_of_lt_mul product_lt).trans few
  have parts := Nat.div_add_mod (word.toNat * (limit.toNat + 1)) wordCount
  have low_lt := Nat.mod_lt (word.toNat * (limit.toNat + 1)) wordCount_pos
  simp only [outcome?, if_neg (Nat.ne_of_lt few), zone_eq some_outcome few]
  generalize (limit.toNat + 1) * share (limit.toNat + 1) = stretch at *
  generalize word.toNat * (limit.toNat + 1) = product at *
  constructor
  · intro accepted
    split at accepted
    · rename_i low
      obtain rfl := Option.some.inj accepted
      rw [UInt64.toNat_ofNat_of_lt' high_lt, Nat.mul_comm]
      omega
    · cases accepted
  · rintro ⟨reaches, ends⟩
    have high_eq : product / wordCount = outcome.toNat :=
      Nat.div_eq_of_lt_le reaches (by rw [Nat.succ_mul]; omega)
    rw [high_eq, Nat.mul_comm] at parts
    rw [if_pos (by omega), high_eq, UInt64.ofNat_toNat]

/-! ## Counting words -/

/-- The least number whose product with a unit reaches a start. -/
def firstReaching (unit start : Nat) : Nat :=
  (start + unit - 1) / unit

theorem firstReaching_le_iff {unit : Nat} (positive : 0 < unit) (start number : Nat) :
    firstReaching unit start ≤ number ↔ start ≤ number * unit := by
  rw [firstReaching, Nat.div_le_iff_le_mul_add_pred positive, Nat.mul_comm]
  omega

/-- A stretch of `count` times a unit holds `count` multiples of the unit one behind the other,
wherever it starts. -/
theorem multiple_in_stretch_iff {unit : Nat} (positive : 0 < unit) (start count number : Nat) :
    start ≤ number * unit ∧ number * unit < start + unit * count ↔
      number ∈ Finset.Ico (firstReaching unit start) (firstReaching unit start + count) := by
  rw [Finset.mem_Ico, firstReaching_le_iff positive]
  refine and_congr_right fun _ => ?_
  by_cases early : number < count
  · have less : number * unit < unit * count := by
      rw [Nat.mul_comm unit]
      exact Nat.mul_lt_mul_of_pos_right early positive
    omega
  · obtain ⟨rest, rfl⟩ := Nat.exists_eq_add_of_le (Nat.not_lt.1 early)
    have rest_iff := firstReaching_le_iff positive start rest
    rw [Nat.add_mul, Nat.mul_comm count]
    omega

/-- The words of an outcome are numbers one behind the other. -/
theorem exists_accepted_iff {limit outcome : UInt64} (few : limit.toNat + 1 < wordCount)
    (within : outcome ≤ limit) (number : Nat) :
    (∃ word, outcome? limit word = some outcome ∧ word.toNat = number) ↔
      number ∈ Finset.Ico (firstReaching (limit.toNat + 1) (outcome.toNat * wordCount))
        (firstReaching (limit.toNat + 1) (outcome.toNat * wordCount) +
          share (limit.toNat + 1)) := by
  have unit_pos : 0 < limit.toNat + 1 := Nat.succ_pos _
  rw [← multiple_in_stretch_iff unit_pos]
  constructor
  · rintro ⟨word, accepted, rfl⟩
    exact (outcome?_eq_some_iff few).1 accepted
  · rintro ⟨reaches, ends⟩
    have stretch_lt := mul_share_lt unit_pos few
    have within_lt : outcome.toNat < limit.toNat + 1 :=
      Nat.lt_succ_of_le (UInt64.le_iff_toNat_le.1 within)
    -- The stretch of the last outcome ends below the product of the number of words.
    have number_lt : number < UInt64.size := by
      apply Nat.lt_of_mul_lt_mul_right
      calc number * (limit.toNat + 1)
          < outcome.toNat * wordCount + wordCount := ends.trans (by omega)
        _ = (outcome.toNat + 1) * wordCount := (Nat.succ_mul _ _).symm
        _ ≤ (limit.toNat + 1) * wordCount := Nat.mul_le_mul_right _ within_lt
        _ = UInt64.size * (limit.toNat + 1) := Nat.mul_comm _ _
    have held := UInt64.toNat_ofNat_of_lt' number_lt
    refine ⟨UInt64.ofNat number, (outcome?_eq_some_iff few).2 ?_, held⟩
    rw [held]
    exact ⟨reaches, ends⟩

/-- Each outcome up to the limit has the same number of words, and no other outcome has any. -/
theorem ncard_accepted (limit outcome : UInt64) :
    {word | outcome? limit word = some outcome}.ncard =
      if outcome ≤ limit then share (limit.toNat + 1) else 0 := by
  split
  · rename_i within
    have limit_lt : limit.toNat < wordCount := limit.toNat_lt
    rcases Nat.eq_or_lt_of_le (Nat.succ_le_of_lt limit_lt) with all | few
    · have own : {word | outcome? limit word = some outcome} = {outcome} := by
        ext word
        simp only [Set.mem_ofPred_eq, outcome?, if_pos all, Option.some.injEq,
          Set.mem_singleton_iff]
      rw [own, Set.ncard_singleton, share, if_pos all]
    · have injective : Function.Injective UInt64.toNat := fun _ _ => UInt64.toNat_inj.1
      rw [← Set.ncard_image_of_injective _ injective]
      calc (UInt64.toNat '' {word | outcome? limit word = some outcome}).ncard
          = (Finset.Ico (firstReaching (limit.toNat + 1) (outcome.toNat * wordCount))
              (firstReaching (limit.toNat + 1) (outcome.toNat * wordCount) +
                share (limit.toNat + 1)) : Set Nat).ncard :=
            congrArg Set.ncard (Set.ext (exists_accepted_iff few within))
        _ = share (limit.toNat + 1) := by
            rw [Set.ncard_coe_finset, Nat.card_Ico, Nat.add_sub_cancel_left]
  · rename_i beyond
    have none_accepted : {word | outcome? limit word = some outcome} = ∅ :=
      Set.eq_empty_of_forall_notMem fun _ accepted => beyond (outcome?_le accepted)
    rw [none_accepted, Set.ncard_empty]

/-! ## Delays -/

theorem draw_cons_of_accepted {limit word outcome : UInt64}
    (accepted : outcome? limit word = some outcome) (rest : List UInt64) :
    draw limit (word :: rest) = (outcome, 1) := by
  rw [draw, accepted]

theorem draw_cons_of_refused {limit word : UInt64} (refused : outcome? limit word = none)
    (rest : List UInt64) :
    draw limit (word :: rest) = ((draw limit rest).1, (draw limit rest).2 + 1) := by
  rw [draw, refused]

/-- At least one word is drawn. -/
theorem draw_count_pos (limit : UInt64) (words : List UInt64) : 0 < (draw limit words).2 := by
  cases words with
  | nil => exact Nat.one_pos
  | cons word rest =>
      cases accepted : outcome? limit word with
      | none =>
          rw [draw_cons_of_refused accepted]
          exact Nat.succ_pos _
      | some outcome =>
          rw [draw_cons_of_accepted accepted]
          exact Nat.one_pos

namespace Policy

/-- A word decides by itself that a delay has some milliseconds. -/
def Settles (policy : Policy) (attempt : UInt32) (word millis : UInt64) : Prop :=
  ∀ rest, policy.delay attempt (word :: rest) = (.ofMillis millis, 1)

/-- A word is passed over: the delay is that of the words behind it. -/
def PassesOver (policy : Policy) (attempt : UInt32) (word : UInt64) : Prop :=
  ∀ rest, policy.delay attempt (word :: rest) =
    ((policy.delay attempt rest).1, (policy.delay attempt rest).2 + 1)

theorem settles_iff {policy : Policy} {attempt : UInt32} {word millis : UInt64} :
    policy.Settles attempt word millis ↔
      outcome? (policy.ceilingMillis attempt) word = some millis := by
  constructor
  · intro settles
    have alone := settles []
    unfold delay at alone
    cases accepted : outcome? (policy.ceilingMillis attempt) word with
    | none =>
        rw [draw_cons_of_refused accepted] at alone
        have count_eq := congrArg Prod.snd alone
        have count_pos := draw_count_pos (policy.ceilingMillis attempt) []
        simp only at count_eq
        omega
    | some outcome =>
        rw [draw_cons_of_accepted accepted] at alone
        exact congrArg some (Span.ofMillis_injective (congrArg Prod.fst alone))
  · intro accepted rest
    unfold delay
    rw [draw_cons_of_accepted accepted]

/-- What a policy makes of random words for an attempt. -/
structure DrawsEvenly (policy : Policy) (attempt : UInt32) : Prop where
  /-- The limit is the ceiling in whole milliseconds, as far as a word holds them. -/
  limit_eq : (policy.ceilingMillis attempt).toNat =
    min ((policy.ceiling attempt).nanos / 1000000) (twoTo 64 - 1)
  /-- A delay has whole milliseconds up to the limit, and it is not cut. -/
  whole : ∀ words, ∃ millis ≤ policy.ceilingMillis attempt,
    (policy.delay attempt words).1.nanos = millis.toNat * 1000000
  within : ∀ words, (policy.delay attempt words).1.nanos ≤ (policy.ceiling attempt).nanos
  /-- The first word that is not passed over settles the delay. -/
  settles : ∀ word, policy.PassesOver attempt word ∨ ∃ millis, policy.Settles attempt word millis
  /-- All milliseconds up to the limit have equally many words, and no others have any. -/
  even : ∃ share, 0 < share ∧ ∀ millis,
    {word | policy.Settles attempt word millis}.ncard =
      if millis ≤ policy.ceilingMillis attempt then share else 0

/-- Ceilings do not decrease from attempt to attempt and stay below the cap, and the delay of
each attempt is drawn evenly from the whole milliseconds of its ceiling. -/
theorem delays_are_even_below_ceilings (policy : Policy) :
    (∀ earlier later : UInt32, earlier ≤ later →
      (policy.ceiling earlier).nanos ≤ (policy.ceiling later).nanos ∧
        (policy.ceiling later).nanos ≤ policy.maxDelay.nanos) ∧
      ∀ attempt, policy.DrawsEvenly attempt := by
  refine ⟨fun earlier later le => ⟨policy.ceiling_le_ceiling le,
    policy.ceiling_le_maxDelay later⟩, fun attempt => ?_⟩
  constructor
  case limit_eq =>
    have fits : min (policy.ceiling attempt).millis (twoTo 64 - 1) < UInt64.size :=
      (Nat.min_le_right _ _).trans_lt (by decide)
    exact UInt64.toNat_ofNat_of_lt' fits
  case whole =>
    intro words
    exact ⟨_, draw_le _ words, Span.nanos_ofMillis _⟩
  case within => exact policy.delay_le attempt
  case settles =>
    intro word
    cases accepted : outcome? (policy.ceilingMillis attempt) word with
    | none =>
        left
        intro rest
        unfold delay
        rw [draw_cons_of_refused accepted]
    | some millis => exact .inr ⟨millis, settles_iff.2 accepted⟩
  case even =>
    refine ⟨share ((policy.ceilingMillis attempt).toNat + 1), share_pos _, fun millis => ?_⟩
    simp only [settles_iff]
    exact ncard_accepted _ _

end Policy

end Retry

end PortTunnel
