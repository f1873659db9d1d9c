import PortTunnel.Proofs.Tunnel.Budget

/-!
# Why sessions close

A session closes because its listener is refused, because it gives up on a failure, or
because it was asked to stop.  It gives up on a failure that is not worth another
attempt, or when its budget is used up.  Which of these it was can be read off the
history: the report of the failure is the last one before that of closing, and the
verdict on it counts the failures in a row up to then.

All failures that a session reports are its own: it was told of them in answer to its
calls, or it lost a channel to its destination.
-/

namespace PortTunnel.Tunnel

open Session

/-! ## Refused listeners -/

/-- A session was refused its listener, and it has reported nothing else. -/
structure Refused (forward : Forward) (history : List Entry) (refusal : BindRefusal) : Prop where
  told : .refused refusal ∈ history.map (·.1)
  reports_eq : reports history =
    [.state .closed (some (.ofBind forward.localEndpoint.text refusal))]

section Trails

variable {forward : Forward} {policy : Retry.Policy} {asked : Bool} {history : List Entry}
  {session : Session}

/-- A session that is refused its listener closes at once. -/
theorem bound_or_refused_of_trail
    (trail : Trail Goes (fresh forward policy asked) history session) :
    (∀ entry ∈ history, entry.1.isRefused = false) ∨
      (session.stage = .closed ∧ ∃ refusal, Refused forward history refusal) := by
  induction trail with
  | here => exact .inl (List.forall_mem_nil _)
  | @onward history middle entry last trail step ih =>
      have moves := step_eq_some_iff.1 step
      rcases ih with bound | ⟨closed, refusal, refused⟩
      · cases refusedNow : entry.1.isRefused with
        | false => exact .inl (List.forall_mem_append.2 ⟨bound, by simpa using refusedNow⟩)
        | true =>
            have story := story_of_trail trail
            have forward_eq : middle.forward = forward := (forward_eq_and_policy_eq_of_trail trail).1
            obtain ⟨label, report⟩ := entry
            cases moves with
            | @refused refusal stage_eq =>
                rw [stage_eq] at story
                have nothing : reports history = [] := story
                refine .inr ⟨rfl, refusal, by simp, ?_⟩
                rw [reports_concat, nothing, forward_eq]
                rfl
            | _ => cases refusedNow
      · obtain ⟨-, rfl, report_eq⟩ := moves.of_isOver (by rw [isOver, closed])
        refine .inr ⟨closed, refusal, ?_, ?_⟩
        · rw [List.map_append]
          exact List.mem_append_left _ refused.told
        · rw [reports_concat, report_eq, refused.reports_eq]
          rfl

/-! ## Reported failures -/

/-- All failures that a session reports are expected ones, unless its listener was refused. -/
theorem expected_of_reported {expected : Failure → Prop}
    (trail : Trail Goes (fresh forward policy asked) history session)
    (lost : ∀ reason, expected (Pair.lost forward.destination reason))
    (told : ∀ entry ∈ history, ∀ failure, entry.1.failure? = some failure → expected failure)
    {state : Status.State} {failure : Failure}
    (reported : .state state (some failure) ∈ reports history) :
    expected failure ∨ ∃ refusal, Refused forward history refusal := by
  rcases bound_or_refused_of_trail trail with bound | ⟨-, refused⟩
  · left
    induction trail with
    | here => exact (List.not_mem_nil reported).elim
    | @onward history middle entry last trail step ih =>
        rw [List.forall_mem_append] at told bound
        rw [reports_concat, List.mem_append] at reported
        rcases reported with before | now
        · exact ih told.1 before bound.1
        · have faces := faces_of_trail trail lost told.1
          have boundNow := bound.2 entry (List.mem_singleton_self entry)
          obtain ⟨label, report⟩ := entry
          obtain rfl : report = some (.state state (some failure)) := by simpa using now
          cases step_eq_some_iff.1 step with
          | refused => cases boundNow
          | joinUnopened stage_eq join_eq =>
              have waited := (waits_iff_of_serving stage_eq).2 (join?_eq_some join_eq).1
              exact faces.waiting _ _ waited
          | degrade stage_eq => exact faces.faced _ (by rw [stage_eq]; rfl)
          | close stage_eq => exact faces.faced _ (by rw [stage_eq]; rfl)
  · exact .inr refused

/-! ## Reasons -/

/-- A session has reported a failure of its connection after the first part of its history, and
no more than these reports since then. -/
def ReportedLast (history : List Entry) (failure : Failure) (since : List Report)
    (before : List Entry) : Prop :=
  ∃ after, history = before ++ (.degrade, some (.state .degraded (some failure))) :: after ∧
    reports after = since

theorem ReportedLast.onward {failure : Failure} {since : List Report} {before : List Entry}
    (reported : ReportedLast history failure since before) (entry : Entry) :
    ReportedLast (history ++ [entry]) failure (since ++ entry.2.toList) before := by
  obtain ⟨after, rfl, rfl⟩ := reported
  exact ⟨after ++ [entry], by simp, reports_concat after entry⟩

theorem ReportedLast.reports_eq {failure : Failure} {since : List Report} {before : List Entry}
    (reported : ReportedLast history failure since before) :
    reports history = reports before ++ .state .degraded (some failure) :: since := by
  obtain ⟨after, rfl, rfl⟩ := reported
  simp [reports]

/-- How a session comes to its end, as its stage and its history tell. -/
def Ends (forward : Forward) (asked : Prop) (history : List Entry) : Stage → Prop
  | .judging failure | .ending (some failure) => ∃ before, ReportedLast history failure [] before
  | .closed =>
      asked ∨ (∃ refusal, Refused forward history refusal) ∨
        ∃ failure before, ReportedLast history failure [.state .closed (some failure)] before
  | _ => True

theorem Ends.move {next : Session} {label : Label} {report : Option Report}
    (ends : Ends forward (session.stopRequested = true) history session.stage)
    (endsAsked : EndsAsked session) (bound : label.isRefused = false)
    (moves : Moves session label next report) :
    Ends forward (next.stopRequested = true) (history ++ [(label, report)]) next.stage := by
  cases moves with
  | stop =>
      cases stage_eq : session.stage with
      | judging failure =>
          rw [stage_eq] at ends
          obtain ⟨before, reported⟩ := ends
          exact ⟨before, reported.onward _⟩
      | ending failure =>
          rw [stage_eq] at ends
          cases failure with
          | none => trivial
          | some failure =>
              obtain ⟨before, reported⟩ := ends
              exact ⟨before, reported.onward _⟩
      | closed => exact .inl rfl
      | _ => trivial
  | refused => cases bound
  | degrade => exact ⟨history, [], rfl, rfl⟩
  | giveUp stage_eq =>
      rw [stage_eq] at ends
      obtain ⟨before, reported⟩ := ends
      exact ⟨before, reported.onward _⟩
  | @close failure stage_eq =>
      cases failure with
      | none => exact .inl (endsAsked (.inr stage_eq))
      | some failure =>
          rw [stage_eq] at ends
          obtain ⟨before, reported⟩ := ends
          exact .inr (.inr ⟨failure, before, reported.onward _⟩)
  | _ => trivial

theorem ends_of_trail (trail : Trail Goes (fresh forward policy asked) history session) :
    Ends forward (session.stopRequested = true) history session.stage := by
  induction trail with
  | here => trivial
  | @onward history middle entry last trail step ih =>
      rcases bound_or_refused_of_trail (trail.onward step) with bound | ⟨closed, refused⟩
      · have boundNow := bound entry (List.mem_append_right _ (List.mem_singleton_self _))
        exact ih.move (endsAsked_of_trail trail) boundNow (step_eq_some_iff.1 step)
      · rw [closed]
        exact .inr (.inl refused)

/-- Why a session that nobody asked to stop has closed, with the failure that it closed with. -/
inductive Reason (forward : Forward) (policy : Retry.Policy) (history : List Entry) :
    Failure → Prop
  /-- Its listener was refused. -/
  | refused {refusal : BindRefusal} (refused : Refused forward history refusal) :
      Reason forward policy history (.ofBind forward.localEndpoint.text refusal)
  /-- Its last failure was not worth another attempt. -/
  | unretryable {failure : Failure} {before : List Entry}
      (reported : ReportedLast history failure [.state .closed (some failure)] before)
      (unretryable : failure.isRetryable = false) : Reason forward policy history failure
  /-- It had failed more often in a row than its budget allows. -/
  | exhausted {failure : Failure} {before : List Entry} {most : UInt32}
      (reported : ReportedLast history failure [.state .closed (some failure)] before)
      (limited : policy.maxRetries = some most)
      (exceeded : most < capped (streak before + 1)) : Reason forward policy history failure

/-- A session that closes without being asked to does so for one of these reasons, and reports
the failure. -/
theorem reason_of_trail (trail : Trail Goes (fresh forward policy asked) history session)
    (closed : session.stage = .closed) (unasked : session.stopRequested = false) :
    ∃ failure, Reason forward policy history failure ∧
      (reports history).getLast? = some (.state .closed (some failure)) := by
  have ends := ends_of_trail trail
  rw [closed, unasked] at ends
  rcases ends with asked | ⟨refusal, refused⟩ | ⟨failure, before, after, history_eq, after_eq⟩
  · cases asked
  · exact ⟨_, .refused refused, by rw [refused.reports_eq]; rfl⟩
  · have reported : ReportedLast history failure [.state .closed (some failure)] before :=
      ⟨after, history_eq, after_eq⟩
    have reports_eq := reported.reports_eq
    refine ⟨failure, ?_, by rw [reports_eq]; simp⟩
    subst history_eq
    have verdict := verdict_of_trail trail
    rw [after_eq, streak_concat, if_neg nofun, if_pos rfl] at verdict
    cases verdict with
    | closed _ unbearable =>
        by_cases retryable : failure.isRetryable = true
        · rw [Bearable, not_and] at unbearable
          have overdrawn := unbearable retryable
          push Not at overdrawn
          obtain ⟨most, limited, exceeded⟩ := overdrawn
          exact .exhausted reported limited (UInt32.not_le.1 exceeded)
        · exact .unretryable reported (Bool.eq_false_iff.2 retryable)

/-- A session that has reported that it closed stays closed. -/
theorem closed_of_reported (trail : Trail Goes (fresh forward policy asked) history session)
    {failure : Option Failure} (reported : .state .closed failure ∈ reports history) :
    session.stage = .closed := by
  induction trail with
  | here => exact (List.not_mem_nil reported).elim
  | @onward history middle entry last trail step ih =>
      have moves := step_eq_some_iff.1 step
      rw [reports_concat, List.mem_append, Option.mem_toList] at reported
      apply moves.closed_iff.2
      exact reported.imp ih fun now => ⟨failure, now⟩

end Trails

end PortTunnel.Tunnel
