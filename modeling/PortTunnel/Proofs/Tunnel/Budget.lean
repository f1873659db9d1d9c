import PortTunnel.Proofs.Tunnel.Loss
import PortTunnel.Proofs.Tunnel.Reports
import PortTunnel.Proofs.Tunnel.Verdicts

/-!
# Budgets

A cluster that never opens a channel uses up the budget of a session: each call
fails, and each failure but the last leads to a retry.  Then the session closes.
Without a budget a session goes on for ever, as long as its failures are
retryable.

Both are shown by what a session has spent at each stage.  A session is never
more than one call ahead of its failures and never more than one failure ahead of
its retries.
-/

namespace PortTunnel.Tunnel

open Session

/-! ## Calls, retries and failures -/

/-- The calls that a session made to connect. -/
def callsMade (history : List Entry) : Nat :=
  (history.filter (·.1 == .call)).length

/-- The retries that a session announced. -/
def retriesMade (history : List Entry) : Nat :=
  ((reports history).filterMap Report.retry?).length

/-- Whether a label tells that the listener could not be bound. -/
def Session.Label.isRefused : Label → Bool
  | .refused _ => true
  | _ => false

/-- Whether a label does not tell of a call with a failure that is not worth another attempt. -/
def Session.Label.failsRetryably : Label → Bool
  | .openFailed failure | .pair _ (.openFailed failure) => failure.isRetryable
  | _ => true

/-- The failure that a label tells a session. -/
def Session.Label.failure? : Label → Option Failure
  | .openFailed failure | .pair _ (.openFailed failure) => some failure
  | _ => none

theorem Session.Label.failsRetryably_iff {label : Label} :
    label.failsRetryably = true ↔
      ∀ failure, label.failure? = some failure → failure.isRetryable = true := by
  cases label with
  | pair client label => cases label <;> simp [failsRetryably, failure?]
  | _ => simp [failsRetryably, failure?]

/-- Failures are told as answers to calls. -/
theorem Session.Label.isAnswer_of_failure? {label : Label} {failure : Failure}
    (failure_eq : label.failure? = some failure) : label.isAnswer = true := by
  cases label with
  | openFailed => rfl
  | pair client label =>
      cases label with
      | openFailed => rfl
      | _ => cases failure_eq
  | _ => cases failure_eq

theorem callsMade_append (first second : List Entry) :
    callsMade (first ++ second) = callsMade first + callsMade second := by
  simp [callsMade]

theorem retriesMade_append (first second : List Entry) :
    retriesMade (first ++ second) = retriesMade first + retriesMade second := by
  simp [retriesMade, reports]

theorem callsMade_concat (history : List Entry) (entry : Entry) :
    callsMade (history ++ [entry]) =
      if entry.1 = .call then callsMade history + 1 else callsMade history := by
  rw [callsMade_append]
  by_cases called : entry.1 = .call <;> simp [callsMade, called]

theorem retriesMade_concat (history : List Entry) (entry : Entry) :
    retriesMade (history ++ [entry]) =
      retriesMade history + (entry.2.bind Report.retry?).toList.length := by
  rw [retriesMade_append]
  cases told : entry.2 with
  | none => simp [retriesMade, reports, told]
  | some report => cases number : report.retry? <;> simp [retriesMade, reports, told, number]

/-- The failure that a session is about to report, or has just reported. -/
def Stage.failure? : Stage → Option Failure
  | .draining _ failure | .ending failure => failure
  | .failed failure | .judging failure => some failure
  | _ => none

/-- All failures that a session has to do with are expected ones. -/
structure Faces (expected : Failure → Prop) (session : Session) : Prop where
  faced : ∀ failure, session.stage.failure? = some failure → expected failure
  waiting : ∀ client failure, session.Waits client (.openFailed failure) → expected failure

section Facing

variable {expected : Failure → Prop}

/-- A failure that a session faces was told to it or is the loss of a channel. -/
theorem Faces.move {session next : Session} {label : Label} {report : Option Report}
    (faces : Faces expected session) (names : NamesLosses session)
    (lost : ∀ reason, expected (Pair.lost session.forward.destination reason))
    (told : ∀ failure, label.failure? = some failure → expected failure)
    (moves : Moves session label next report) : Faces expected next := by
  constructor
  case waiting =>
    intro client failure waits
    rcases moves.waits waits with before | ⟨own, isCancelled, stage, rfl, step⟩
    · exact faces.waiting client failure before
    · obtain rfl := eq_openFailed_of_step step
      exact told failure rfl
  case faced =>
    intro failure faced
    cases moves with
    | stop => exact faces.faced failure faced
    | openFailed =>
        cases faced
        exact told failure rfl
    | joinLost stage_eq join_eq =>
        cases faced
        have waited := (waits_iff_of_serving stage_eq).2 (join?_eq_some join_eq).1
        obtain ⟨reason, rfl⟩ := names _ _ waited
        exact lost reason
    | joinLastUnopened stage_eq join_eq =>
        cases faced
        have waited := (waits_iff_of_serving stage_eq).2 (join?_eq_some join_eq).1
        exact faces.waiting _ _ waited
    | pairDraining stage_eq | joinDraining stage_eq | drainedFailed stage_eq | degrade stage_eq
    | giveUp stage_eq =>
        refine faces.faced failure ?_
        rw [stage_eq]
        exact faced
    | _ => cases faced

theorem faces_of_trail {forward : Forward} {policy : Retry.Policy} {asked : Bool}
    {history : List Entry} {session : Session}
    (trail : Trail Goes (fresh forward policy asked) history session)
    (lost : ∀ reason, expected (Pair.lost forward.destination reason))
    (told : ∀ entry ∈ history, ∀ failure, entry.1.failure? = some failure → expected failure) :
    Faces expected session := by
  induction trail with
  | here =>
      constructor
      · exact nofun
      · rintro client failure ⟨phase, ⟨⟩, -⟩
  | @onward history middle entry last trail step ih =>
      rw [List.forall_mem_append] at told
      have toldNow := told.2 entry (List.mem_singleton_self entry)
      have forward_eq : middle.forward = forward := (forward_eq_and_policy_eq_of_trail trail).1
      exact (ih told.1).move (namesLosses_of_trail trail) (forward_eq ▸ lost) toldNow
        (step_eq_some_iff.1 step)

end Facing

/-- All failures that a session has to do with are worth another attempt. -/
def FacesRetryable (session : Session) : Prop :=
  Faces (fun failure => failure.isRetryable = true) session

theorem facesRetryable_of_trail {forward : Forward} {policy : Retry.Policy} {asked : Bool}
    {history : List Entry} {session : Session}
    (trail : Trail Goes (fresh forward policy asked) history session)
    (mild : ∀ entry ∈ history, entry.1.failsRetryably = true) : FacesRetryable session :=
  faces_of_trail trail (fun _ => rfl) fun entry member =>
    Label.failsRetryably_iff.1 (mild entry member)

/-! ## Without a budget -/

/-- A session neither gives up nor closes unless it was asked to stop. -/
def Persists (session : Session) : Prop :=
  (∀ failure, session.stage ≠ .ending (some failure)) ∧
    (session.stage = .closed → session.stopRequested = true)

theorem Persists.move {session next : Session} {label : Label} {report : Option Report}
    (persists : Persists session) (faces : FacesRetryable session) (endsAsked : EndsAsked session)
    (unbounded : session.policy.maxRetries = none) (bound : label.isRefused = false)
    (moves : Moves session label next report) : Persists next := by
  cases moves with
  | stop => exact ⟨persists.1, fun _ => rfl⟩
  | refused => cases bound
  | @giveUp failure stage_eq tooMuch =>
      have bearable : session.givesUp failure = false := by
        rw [givesUp_eq_false_iff]
        refine ⟨faces.faced _ (by rw [stage_eq]; rfl), ?_⟩
        intro most limited
        rw [unbounded] at limited
        cases limited
      rw [bearable] at tooMuch
      cases tooMuch
  | @close failure stage_eq =>
      cases failure with
      | none => exact ⟨nofun, fun _ => endsAsked (.inr stage_eq)⟩
      | some failure => exact (persists.1 failure stage_eq).elim
  | _ => exact ⟨nofun, nofun⟩

/-- With retryable failures only and no budget a session closes only after it was asked to. -/
theorem persists_of_trail {forward : Forward} {policy : Retry.Policy} {asked : Bool}
    {history : List Entry} {session : Session}
    (trail : Trail Goes (fresh forward policy asked) history session)
    (unbounded : policy.maxRetries = none)
    (bound : ∀ entry ∈ history, entry.1.isRefused = false)
    (mild : ∀ entry ∈ history, entry.1.failsRetryably = true) : Persists session := by
  induction trail with
  | here => exact ⟨nofun, nofun⟩
  | @onward history middle entry last trail step ih =>
      rw [List.forall_mem_append] at bound mild
      have policy_eq := (forward_eq_and_policy_eq_of_trail trail).2
      have boundNow := bound.2 entry (List.mem_singleton_self entry)
      exact (ih bound.1 mild.1).move (facesRetryable_of_trail trail mild.1)
        (endsAsked_of_trail trail) (policy_eq ▸ unbounded) boundNow (step_eq_some_iff.1 step)

/-! ## With a budget -/

/-- What a session has spent of its budget when no channel was ever opened: its failures in a
row, its calls and its retries. -/
def Spent (most : Nat) (asked : Bool) : Stage → (failures calls retries : Nat) → Prop
  | .unbound, failures, calls, retries | .announcing, failures, calls, retries
  | .connecting none, failures, calls, retries | .resting, failures, calls, retries =>
      failures ≤ most ∧ calls = failures ∧ retries = failures
  | .connecting (some _), failures, calls, retries | .failed _, failures, calls, retries =>
      failures ≤ most ∧ calls = failures + 1 ∧ retries = failures
  | .judging _, failures, calls, retries =>
      failures ≤ most + 1 ∧ calls = failures ∧ retries + 1 = failures
  | .ending (some _), failures, calls, retries =>
      failures = most + 1 ∧ calls = most + 1 ∧ retries = most
  | .ending none, _, calls, retries | .dropped, _, calls, retries =>
      calls ≤ most + 1 ∧ retries ≤ most
  | .closed, _, calls, retries =>
      calls ≤ most + 1 ∧ retries ≤ most ∧ (asked = false → calls = most + 1 ∧ retries = most)
  | .connected _, _, _, _ | .serving _ _, _, _, _ | .draining _ _, _, _, _ => False

theorem Spent.le {most failures calls retries : Nat} {asked : Bool} {stage : Stage}
    (spent : Spent most asked stage failures calls retries) :
    calls ≤ most + 1 ∧ retries ≤ most := by
  cases stage with
  | connecting call => cases call <;> simp only [Spent] at spent <;> omega
  | ending failure => cases failure <;> simp only [Spent] at spent <;> omega
  | _ => simp only [Spent] at spent <;> omega

theorem Spent.asked {most failures calls retries : Nat} {asked : Bool} {stage : Stage}
    (spent : Spent most asked stage failures calls retries) :
    Spent most true stage failures calls retries := by
  cases stage with
  | connecting call => cases call <;> exact spent
  | ending failure => cases failure <;> exact spent
  | closed => exact ⟨spent.1, spent.2.1, nofun⟩
  | _ => exact spent

/-- A session has spent as much as its history tells. -/
def HasSpent (most : Nat) (session : Session) (history : List Entry) : Prop :=
  Spent most session.stopRequested session.stage session.failures.toNat (callsMade history)
    (retriesMade history)

/-- A step that neither calls nor announces a retry nor counts a failure spends nothing. -/
theorem HasSpent.idle {most : Nat} {session next : Session} {history : List Entry} {label : Label}
    {report : Option Report} (spent : HasSpent most session history) (uncalled : label ≠ .call)
    (unnumbered : report.bind Report.retry? = none) (failures_eq : next.failures = session.failures)
    (carried : ∀ failures calls retries,
      Spent most session.stopRequested session.stage failures calls retries →
        Spent most next.stopRequested next.stage failures calls retries) :
    HasSpent most next (history ++ [(label, report)]) := by
  unfold HasSpent at spent ⊢
  rw [callsMade_concat, if_neg uncalled, retriesMade_concat, unnumbered, failures_eq]
  exact carried _ _ _ spent

theorem HasSpent.move {most : UInt32} {session next : Session} {label : Label}
    {report : Option Report} {history : List Entry}
    (spent : HasSpent most.toNat session history) (faces : FacesRetryable session)
    (endsAsked : EndsAsked session) (limited : session.policy.maxRetries = some most)
    (countable : most.toNat < 4294967295) (bound : label.isRefused = false)
    (unopened : label.opensChannel = false) (moves : Moves session label next report) :
    HasSpent most.toNat next (history ++ [(label, report)]) := by
  cases moves with
  | stop =>
      refine spent.idle nofun rfl rfl ?_
      exact fun _ _ _ => Spent.asked
  | refused => cases bound
  | opened => cases unopened
  | bound stage_eq | announce stage_eq | openFailed stage_eq | wake stage_eq =>
      refine spent.idle nofun rfl rfl ?_
      rw [stage_eq]
      exact fun _ _ _ => id
  | drop =>
      refine spent.idle nofun rfl rfl ?_
      exact fun _ _ _ => Spent.le
  | heedConnecting stage_eq | heedResting stage_eq =>
      refine spent.idle nofun rfl rfl ?_
      exact fun _ _ _ => Spent.le
  | call stage_eq =>
      unfold HasSpent at spent ⊢
      rw [stage_eq] at spent
      obtain ⟨failures_le, calls_eq, retries_eq⟩ := spent
      rw [callsMade_concat, if_pos rfl, retriesMade_concat]
      exact ⟨failures_le, congrArg (· + 1) calls_eq, retries_eq⟩
  | degrade stage_eq =>
      unfold HasSpent at spent ⊢
      rw [stage_eq] at spent
      obtain ⟨failures_le, calls_eq, retries_eq⟩ := spent
      have failures_eq : (oneMore session.failures).toNat = session.failures.toNat + 1 := by
        rw [toNat_oneMore]
        omega
      rw [callsMade_concat, if_neg nofun, retriesMade_concat, failures_eq]
      exact ⟨Nat.succ_le_succ failures_le, calls_eq, congrArg (· + 1) retries_eq⟩
  | @giveUp failure stage_eq tooMuch =>
      unfold HasSpent at spent ⊢
      rw [stage_eq] at spent
      obtain ⟨failures_le, calls_eq, retries_eq⟩ := spent
      have exceeded : most.toNat < session.failures.toNat := by
        have retryable := faces.faced failure (by rw [stage_eq]; rfl)
        by_contra notExceeded
        have bearable : session.givesUp failure = false := by
          rw [givesUp_eq_false_iff]
          refine ⟨retryable, fun other limited' => ?_⟩
          cases limited.symm.trans limited'
          exact UInt32.le_iff_toNat_le.2 (Nat.le_of_not_lt notExceeded)
        rw [bearable] at tooMuch
        cases tooMuch
      have failures_eq : session.failures.toNat = most.toNat + 1 := by omega
      rw [callsMade_concat, if_neg nofun, retriesMade_concat]
      exact ⟨failures_eq, calls_eq.trans failures_eq, Nat.succ.inj (retries_eq.trans failures_eq)⟩
  | schedule stage_eq bearable =>
      unfold HasSpent at spent ⊢
      rw [stage_eq] at spent
      obtain ⟨-, calls_eq, retries_eq⟩ := spent
      have within : session.failures ≤ most := (givesUp_eq_false_iff.1 bearable).2 most limited
      rw [callsMade_concat, if_neg nofun, retriesMade_concat]
      exact ⟨UInt32.le_iff_toNat_le.1 within, calls_eq, retries_eq⟩
  | @close failure stage_eq =>
      refine spent.idle nofun rfl rfl fun failures calls retries spent => ?_
      rw [stage_eq] at spent
      cases failure with
      | none =>
          have asked : session.stopRequested = true := endsAsked (.inr stage_eq)
          refine ⟨spent.1, spent.2, fun unasked => ?_⟩
          rw [asked] at unasked
          cases unasked
      | some failure =>
          obtain ⟨-, rfl, rfl⟩ := spent
          exact ⟨Nat.le_refl _, Nat.le_refl _, fun _ => ⟨rfl, rfl⟩⟩
  | activate stage_eq | heedServing stage_eq | accept stage_eq | acceptFailed stage_eq
  | resume stage_eq | joinLost stage_eq | joinLastUnopened stage_eq | joinUnopened stage_eq
  | joinEnded stage_eq | recover stage_eq | pairServing stage_eq | pairDraining stage_eq
  | joinDraining stage_eq | drainedFailed stage_eq | drainedAsked stage_eq =>
      unfold HasSpent at spent
      rw [stage_eq] at spent
      exact spent.elim

/-- The labels of a session that has its listener and a cluster that never opens a channel,
and whose failures are all worth another attempt. -/
def Session.Label.isBarren (label : Label) : Bool :=
  !label.isRefused && !label.opensChannel && label.failsRetryably

theorem Session.Label.isBarren_iff {label : Label} :
    label.isBarren = true ↔
      label.isRefused = false ∧ label.opensChannel = false ∧ label.failsRetryably = true := by
  simp [isBarren, and_assoc]

section Barren

variable {forward : Forward} {policy : Retry.Policy} {asked : Bool} {history : List Entry}
  {session : Session} {most : UInt32}

theorem hasSpent_of_trail (trail : Trail Goes (fresh forward policy asked) history session)
    (limited : policy.maxRetries = some most) (countable : most.toNat < 4294967295)
    (barren : ∀ entry ∈ history, entry.1.isBarren = true) :
    HasSpent most.toNat session history := by
  induction trail with
  | here => exact ⟨Nat.zero_le _, rfl, rfl⟩
  | @onward history middle entry last trail step ih =>
      rw [List.forall_mem_append] at barren
      have policy_eq := (forward_eq_and_policy_eq_of_trail trail).2
      have mild : ∀ entry ∈ history, entry.1.failsRetryably = true := fun entry member =>
        (Label.isBarren_iff.1 (barren.1 entry member)).2.2
      obtain ⟨bound, unopened, -⟩ :=
        Label.isBarren_iff.1 (barren.2 entry (List.mem_singleton_self entry))
      exact (ih barren.1).move (facesRetryable_of_trail trail mild) (endsAsked_of_trail trail)
        (policy_eq ▸ limited) countable bound unopened (step_eq_some_iff.1 step)

/-- The session can close when the cluster goes on refusing channels and nobody interferes. -/
def CanClose (session : Session) : Prop :=
  ∃ later last, Trail Goes session later last ∧ last.stage = .closed ∧
    ∀ entry ∈ later, entry.1.isBarren = true ∧ entry.1 ≠ .stop

theorem CanClose.cons {next : Session} {entry : Entry} (canClose : CanClose next)
    (step : Goes session entry next) (barren : entry.1.isBarren = true)
    (unasked : entry.1 ≠ .stop) : CanClose session := by
  obtain ⟨later, last, trail, closed, all⟩ := canClose
  exact ⟨entry :: later, last, .cons step trail, closed,
    List.forall_mem_cons.2 ⟨⟨barren, unasked⟩, all⟩⟩

/-- A bound on the steps to the end of a budget.  The failures that are left count most, and
the stages between two failures count down. -/
def stepsLeft (most : Nat) (session : Session) : Nat :=
  (most + 1 - session.failures.toNat) * 6 +
    match session.stage with
    | .judging _ => 7
    | .unbound | .resting => 6
    | .announcing => 5
    | .connecting none => 4
    | .connecting (some _) => 3
    | .failed _ => 2
    | .ending _ => 1
    | _ => 0

/-- Until it is over, a session with a budget can come to its end when no channel is opened. -/
theorem canClose_of_trail (trail : Trail Goes (fresh forward policy asked) history session)
    (limited : policy.maxRetries = some most) (countable : most.toNat < 4294967295)
    (barren : ∀ entry ∈ history, entry.1.isBarren = true) (present : session.stage ≠ .dropped) :
    CanClose session := by
  induction left_eq : stepsLeft most.toNat session using Nat.strongRecOn
    generalizing history session with
  | _ left ih =>
      subst left_eq
      have spent := hasSpent_of_trail trail limited countable barren
      -- One step by which less is left.
      have onward {label : Label} {report : Option Report} {next : Session}
          (moves : Moves session label next report) (barrenNow : label.isBarren = true)
          (unasked : label ≠ .stop) (stays : next.stage ≠ .dropped)
          (less : stepsLeft most.toNat next < stepsLeft most.toNat session) : CanClose session := by
        have step : Goes session (label, report) next := moves.step
        have barren : ∀ entry ∈ history ++ [(label, report)], entry.1.isBarren = true :=
          List.forall_mem_append.2 ⟨barren, List.forall_mem_singleton.2 barrenNow⟩
        exact (ih _ less (trail.onward step) barren stays rfl).cons step barrenNow unasked
      unfold HasSpent at spent
      cases stage_eq : session.stage with
      | unbound =>
          refine onward (.bound stage_eq) rfl nofun nofun ?_
          simp [stepsLeft, stage_eq]
      | announcing =>
          refine onward (.announce stage_eq) rfl nofun nofun ?_
          simp [stepsLeft, stage_eq]
      | connecting call =>
          cases call with
          | none =>
              refine onward (.call stage_eq) rfl nofun nofun ?_
              simp [stepsLeft, stage_eq]
          | some call =>
              have fails : Moves session (.openFailed (.connectFailed "")) _ _ :=
                .openFailed stage_eq
              refine onward fails rfl nofun nofun ?_
              simp [stepsLeft, stage_eq]
      | failed failure =>
          rw [stage_eq] at spent
          have failures_le : session.failures.toNat ≤ most.toNat := spent.1
          refine onward (.degrade stage_eq) rfl nofun nofun ?_
          simp only [stepsLeft, stage_eq, toNat_oneMore]
          omega
      | judging failure =>
          cases tooMuch : session.givesUp failure with
          | true =>
              refine onward (.giveUp stage_eq tooMuch) rfl nofun nofun ?_
              simp [stepsLeft, stage_eq]
          | false =>
              have schedules : Moves session (.schedule []) _ _ := .schedule stage_eq tooMuch
              refine onward schedules rfl nofun nofun ?_
              simp [stepsLeft, stage_eq]
      | resting =>
          refine onward (.wake stage_eq) rfl nofun nofun ?_
          simp [stepsLeft, stage_eq]
      | ending failure =>
          refine onward (.close stage_eq) rfl nofun nofun ?_
          simp [stepsLeft, stage_eq]
      | closed => exact ⟨[], session, .here, stage_eq, List.forall_mem_nil _⟩
      | dropped => exact (present stage_eq).elim
      | connected | serving | draining =>
          rw [stage_eq] at spent
          exact spent.elim

end Barren

end PortTunnel.Tunnel
