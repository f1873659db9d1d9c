import PortTunnel.Proofs.Tunnel.Streak

/-!
# What becomes of a failure

After each failure of its connection a session schedules a retry or closes.  The
failure must be retryable, and the budget must not be used up.  The number of the
retry is the number of failures in a row, and the delay is at most the ceiling
for the retries before.
-/

namespace PortTunnel.Tunnel

open Session

/-- After so many failures in a row, the last of them still leads to a retry. -/
def Bearable (policy : Retry.Policy) (failure : Failure) (number : UInt32) : Prop :=
  failure.isRetryable = true ∧ ∀ most, policy.maxRetries = some most → number ≤ most

theorem Session.givesUp_eq_false_iff {session : Session} {failure : Failure} :
    session.givesUp failure = false ↔ Bearable session.policy failure session.failures := by
  unfold givesUp Bearable Retry.Policy.isExhausted
  cases session.policy.maxRetries <;> simp

/-- What a session makes of a failure, with the reports that it has made since it reported
the failure.  It is torn down, or it schedules a retry, or it closes with that failure. -/
inductive Verdict (policy : Retry.Policy) (failure : Failure) (number : UInt32) (last : Session) :
    List Report → Prop
  | judging (stage_eq : last.stage = .judging failure) (failures_eq : last.failures = number) :
      Verdict policy failure number last []
  | retried {delay : Span} {later : List Report} (bearable : Bearable policy failure number)
      (delay_le : delay.nanos ≤ (policy.ceiling (number - 1)).nanos) :
      Verdict policy failure number last (.retry number delay :: later)
  | ending (stage_eq : last.stage = .ending (some failure))
      (unbearable : ¬ Bearable policy failure number) : Verdict policy failure number last []
  | closed (stage_eq : last.stage = .closed) (unbearable : ¬ Bearable policy failure number) :
      Verdict policy failure number last [.state .closed (some failure)]
  | dropped (stage_eq : last.stage = .dropped) : Verdict policy failure number last []

section Verdicts

variable {failure : Failure} {number : UInt32} {session next : Session} {label : Label}
  {report : Option Report} {reports : List Report}

theorem Verdict.move (verdict : Verdict session.policy failure number session reports)
    (moves : Moves session label next report) :
    Verdict session.policy failure number next (reports ++ report.toList) := by
  cases verdict with
  | judging stage_eq failures_eq =>
      subst failures_eq
      rcases moves.of_judging stage_eq with ⟨-, rfl, rfl⟩ | ⟨-, rfl, rfl⟩ | ⟨tooMuch, rfl, rfl⟩ |
        ⟨bearable, -, words, rfl⟩
      · exact .judging stage_eq rfl
      · exact .dropped rfl
      · refine .ending rfl fun bearable => ?_
        rw [← givesUp_eq_false_iff, tooMuch] at bearable
        cases bearable
      · exact .retried (givesUp_eq_false_iff.1 bearable) (session.policy.delay_le _ _)
  | retried bearable delay_le => exact .retried bearable delay_le
  | ending stage_eq unbearable =>
      rcases moves.of_ending stage_eq with ⟨-, rfl, rfl⟩ | ⟨-, rfl, rfl⟩ | ⟨rfl, rfl⟩
      · exact .ending stage_eq unbearable
      · exact .dropped rfl
      · exact .closed rfl unbearable
  | closed stage_eq unbearable =>
      obtain ⟨-, rfl, rfl⟩ := moves.of_isOver (by rw [isOver, stage_eq])
      exact .closed stage_eq unbearable
  | dropped stage_eq =>
      obtain ⟨-, rfl, rfl⟩ := moves.of_isOver (by rw [isOver, stage_eq])
      exact .dropped stage_eq

/-- While a session judges a failure, it can go on by itself: it schedules a retry with the
number of failures in a row if that is to be, and closes with the failure otherwise. -/
theorem goesOn_of_judging (stage_eq : session.stage = .judging failure) :
    (Bearable session.policy failure session.failures ∧
        ∀ words, ∃ delay next, Goes session (.schedule words, some (.retry session.failures delay))
          next) ∨
      (¬ Bearable session.policy failure session.failures ∧
        ∃ last, Trail Goes session
          [(.giveUp, none), (.close, some (.state .closed (some failure)))] last) := by
  rw [← givesUp_eq_false_iff]
  cases tooMuch : session.givesUp failure with
  | false =>
      refine .inl ⟨rfl, fun words => ?_⟩
      have schedules : Moves session (.schedule words) _ _ := .schedule stage_eq tooMuch
      exact ⟨_, _, schedules.step⟩
  | true =>
      refine .inr ⟨nofun, ?_⟩
      have givesUp := Moves.giveUp stage_eq tooMuch
      have closes : Moves { session with stage := .ending (some failure) } .close _ _ := .close rfl
      exact ⟨_, .cons givesUp.step (.single closes.step)⟩

end Verdicts

/-- After each failure the verdict is the one for the number of failures in a row. -/
theorem verdict_of_trail {forward : Forward} {policy : Retry.Policy} {asked : Bool}
    {before after : List Entry} {failure : Failure} {session : Session}
    (trail : Trail Goes (fresh forward policy asked)
      (before ++ (.degrade, some (.state .degraded (some failure))) :: after) session) :
    Verdict policy failure
      (capped (streak (before ++ [(.degrade, some (.state .degraded (some failure)))]))) session
      (reports after) := by
  obtain ⟨middle, judge, first, step, rest⟩ := trail.step_at
  have reached := first.onward step
  have policy_eq : judge.policy = policy := (forward_eq_and_policy_eq_of_trail reached).2
  have counted := counted_of_trail reached
  have begins : Verdict policy failure
      (capped (streak (before ++ [(.degrade, some (.state .degraded (some failure)))]))) judge
      [] := by
    cases step_eq_some_iff.1 step with
    | degrade stage_eq => exact .judging rfl (counted.failures_eq rfl)
  clear trail
  induction rest with
  | here => exact begins
  | @onward labels late entry stop rest step' ih =>
      have late_policy_eq : late.policy = policy :=
        (forward_eq_and_policy_eq_of_trail rest).2.trans policy_eq
      rw [reports_concat]
      rw [← late_policy_eq] at ih ⊢
      exact ih.move (step_eq_some_iff.1 step')

end PortTunnel.Tunnel
