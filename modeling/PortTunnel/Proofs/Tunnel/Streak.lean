import PortTunnel.Proofs.Retry.Delay
import PortTunnel.Proofs.Tunnel.Moves

/-!
# Failures in a row

A session counts its failures since it was last connected, as far as a word of 32
bits can count.  The count numbers the retries, and the policy compares it with
its budget.

Here the count is told from the history: it is the number of failures that were
reported since a channel was last opened.  The numbers of the retries since the
session was last active are one, two, three and so on.
-/

namespace PortTunnel.Tunnel

open Session

/-! ## Counting as far as it goes -/

/-- A number as far as it can be counted. -/
def capped (count : Nat) : UInt32 :=
  UInt32.ofNat (min count 4294967295)

/-- One, two, three and so on, as far as it can be counted. -/
def counting (length : Nat) : List UInt32 :=
  (List.range length).map fun index => capped (index + 1)

@[simp]
theorem toNat_capped (count : Nat) : (capped count).toNat = min count 4294967295 := by
  unfold capped
  rw [UInt32.toNat_ofNat_of_lt']
  rw [UInt32.size]
  omega

/-- Counting stops at the greatest word. -/
theorem toNat_oneMore (failures : UInt32) :
    (oneMore failures).toNat = min (failures.toNat + 1) 4294967295 := by
  have last : (0xffffffff : UInt32).toNat = 4294967295 := rfl
  have one : (1 : UInt32).toNat = 1 := rfl
  have bound : failures.toNat < 4294967296 := failures.toNat_lt
  unfold oneMore
  split
  · rename_i full
    rw [full, last]
    rfl
  · rename_i notFull
    have notLast : failures.toNat ≠ 4294967295 := fun same =>
      notFull (UInt32.toNat_inj.1 (same.trans last.symm))
    rw [UInt32.toNat_add, one]
    omega

theorem oneMore_capped (count : Nat) : oneMore (capped count) = capped (count + 1) := by
  rw [← UInt32.toNat_inj, toNat_oneMore, toNat_capped, toNat_capped]
  omega

@[simp]
theorem counting_succ (length : Nat) :
    counting (length + 1) = counting length ++ [capped (length + 1)] := by
  simp [counting, List.range_succ]

/-! ## What a history tells -/

/-- The failures that were reported since the session last opened a channel to connect. -/
def streak (history : List Entry) : Nat :=
  ((history.reverse.takeWhile (·.1 != .opened)).filter (·.1 == .degrade)).length

/-- Whether a label changes the number of failures in a row. -/
def Session.Label.counts : Label → Bool
  | .opened | .degrade => true
  | _ => false

/-- The number of a retry that a report announces. -/
def Report.retry? : Report → Option UInt32
  | .retry number _ => some number
  | .state _ _ => none

/-- Whether a report says that the forward is active. -/
def Report.isActive : Report → Bool
  | .state .active _ => true
  | _ => false

/-- The numbers of the retries that were announced since the forward was last active. -/
def numbers (reports : List Report) : List UInt32 :=
  ((reports.reverse.takeWhile (!·.isActive)).reverse).filterMap Report.retry?

theorem streak_concat (history : List Entry) (entry : Entry) :
    streak (history ++ [entry]) =
      if entry.1 = .opened then 0
      else if entry.1 = .degrade then streak history + 1 else streak history := by
  by_cases opens : entry.1 = .opened
  · simp [streak, opens]
  · by_cases degrades : entry.1 = .degrade
    · simp [streak, degrades]
    · simp [streak, opens, degrades]

theorem streak_concat_of_not_counts (history : List Entry) {entry : Entry}
    (uncounted : entry.1.counts = false) : streak (history ++ [entry]) = streak history := by
  rw [streak_concat, if_neg, if_neg]
  · intro degrades
    simp [degrades, Label.counts] at uncounted
  · intro opens
    simp [opens, Label.counts] at uncounted

theorem numbers_concat (reports : List Report) (report : Report) :
    numbers (reports ++ [report]) =
      if report.isActive = true then [] else numbers reports ++ report.retry?.toList := by
  cases active : report.isActive with
  | true => simp [numbers, active]
  | false => cases number : report.retry? <;> simp [numbers, active, number]

/-! ## The count of a session -/

/-- How the failures in a row relate to the retries announced since the session was active.
A failure is one ahead until its retry is announced. -/
def Balanced : Stage → (failures announced : Nat) → Prop
  | .connected _, failures, _ => failures = 0
  | .serving _ _, failures, announced => failures = 0 ∧ announced = 0
  | .judging _, failures, announced | .ending (some _), failures, announced =>
      failures = announced + 1
  | .closed, _, _ | .dropped, _, _ => True
  | _, failures, announced => failures = announced

/-- Whether the count is up to date.  It is reset after a channel has been opened. -/
def Stage.isCounting : Stage → Bool
  | .connected _ | .dropped => false
  | _ => true

/-- A session has counted its failures and has numbered its retries. -/
structure Counted (session : Session) (history : List Entry) : Prop where
  failures_eq : session.stage.isCounting = true → session.failures = capped (streak history)
  balanced : Balanced session.stage (streak history) (numbers (reports history)).length
  numbers_eq : numbers (reports history) = counting (numbers (reports history)).length

/-- A step changes no count if it neither opens a channel nor reports a failure nor a retry
nor that the session is active. -/
theorem Counted.idle {session next : Session} {history : List Entry} {label : Label}
    {report : Option Report} (counted : Counted session history) (uncounted : label.counts = false)
    (idle : ∀ told, report = some told → told.isActive = false ∧ told.retry? = none)
    (counting : next.stage.isCounting = true →
      session.stage.isCounting = true ∧ next.failures = session.failures)
    (balanced : ∀ failures announced, Balanced session.stage failures announced →
      Balanced next.stage failures announced) : Counted next (history ++ [(label, report)]) := by
  have streak_eq : streak (history ++ [(label, report)]) = streak history :=
    streak_concat_of_not_counts history uncounted
  have numbers_eq : numbers (reports (history ++ [(label, report)])) =
      numbers (reports history) := by
    cases report with
    | none => simp
    | some told =>
        obtain ⟨inactive, unnumbered⟩ := idle told rfl
        simp [numbers_concat, inactive, unnumbered]
  constructor
  case failures_eq =>
    intro isCounting
    obtain ⟨wasCounting, failures_eq⟩ := counting isCounting
    rw [streak_eq, failures_eq]
    exact counted.failures_eq wasCounting
  case balanced =>
    rw [streak_eq, numbers_eq]
    exact balanced _ _ counted.balanced
  case numbers_eq =>
    rw [numbers_eq]
    exact counted.numbers_eq

theorem Counted.move {session next : Session} {history : List Entry} {label : Label}
    {report : Option Report} (counted : Counted session history)
    (moves : Moves session label next report) : Counted next (history ++ [(label, report)]) := by
  have silent : ∀ told, (none : Option Report) = some told →
      told.isActive = false ∧ told.retry? = none := nofun
  cases moves with
  | stop => exact counted.idle rfl silent (fun isCounting => ⟨isCounting, rfl⟩) fun _ _ => id
  | drop => exact counted.idle rfl silent nofun fun _ _ _ => trivial
  | bound stage_eq | call stage_eq | openFailed stage_eq | heedConnecting stage_eq
  | accept stage_eq | acceptFailed stage_eq | resume stage_eq | joinEnded stage_eq
  | pairServing stage_eq | pairDraining stage_eq | joinDraining stage_eq
  | drainedFailed stage_eq | drainedAsked stage_eq | giveUp stage_eq | wake stage_eq
  | heedResting stage_eq =>
      refine counted.idle rfl silent (fun _ => ⟨by rw [stage_eq]; rfl, rfl⟩) ?_
      rw [stage_eq]
      exact fun _ _ => id
  | heedServing stage_eq | joinLost stage_eq | joinLastUnopened stage_eq =>
      refine counted.idle rfl silent (fun _ => ⟨by rw [stage_eq]; rfl, rfl⟩) ?_
      rw [stage_eq]
      exact fun _ _ both => both.1.trans both.2.symm
  | announce stage_eq | joinUnopened stage_eq =>
      refine counted.idle rfl ?_ (fun _ => ⟨by rw [stage_eq]; rfl, rfl⟩) ?_
      · rintro _ ⟨⟩
        exact ⟨rfl, rfl⟩
      · rw [stage_eq]
        exact fun _ _ => id
  | refused stage_eq | close stage_eq =>
      refine counted.idle rfl ?_ (fun _ => ⟨by rw [stage_eq]; rfl, rfl⟩) ?_
      · rintro _ ⟨⟩
        exact ⟨rfl, rfl⟩
      · exact fun _ _ _ => trivial
  | opened stage_eq =>
      have streak_eq : streak (history ++ [(.opened, none)]) = 0 := by simp [streak_concat]
      have reports_eq : reports (history ++ [(.opened, none)]) = reports history := by simp
      constructor
      case failures_eq => exact nofun
      case balanced => exact streak_eq
      case numbers_eq =>
        rw [reports_eq]
        exact counted.numbers_eq
  | activate stage_eq =>
      have streak_eq : streak (history ++ [(.activate, some (.state .active none))]) = 0 := by
        have balanced := counted.balanced
        rw [stage_eq] at balanced
        rw [streak_concat_of_not_counts history rfl]
        exact balanced
      have numbers_eq :
          numbers (reports (history ++ [(.activate, some (.state .active none))])) = [] := by
        simp [numbers_concat, Report.isActive]
      constructor
      case failures_eq =>
        intro _
        rw [streak_eq]
        rfl
      case balanced =>
        rw [streak_eq, numbers_eq]
        exact ⟨rfl, rfl⟩
      case numbers_eq =>
        rw [numbers_eq]
        rfl
  | recover stage_eq =>
      have balanced := counted.balanced
      have failures_eq := counted.failures_eq (by rw [stage_eq]; rfl)
      rw [stage_eq] at balanced
      have streak_eq :
          streak (history ++ [(.recover, some (.state .active none))]) = streak history :=
        streak_concat_of_not_counts history rfl
      have numbers_eq :
          numbers (reports (history ++ [(.recover, some (.state .active none))])) = [] := by
        simp [numbers_concat, Report.isActive]
      constructor
      case failures_eq =>
        rw [streak_eq]
        exact fun _ => failures_eq
      case balanced =>
        rw [streak_eq, numbers_eq]
        exact ⟨balanced.1, rfl⟩
      case numbers_eq =>
        rw [numbers_eq]
        rfl
  | @degrade failure stage_eq =>
      have balanced := counted.balanced
      have failures_eq := counted.failures_eq (by rw [stage_eq]; rfl)
      rw [stage_eq] at balanced
      have streak_eq : streak (history ++ [(.degrade, some (.state .degraded (some failure)))]) =
          streak history + 1 := by
        simp [streak_concat]
      have numbers_eq :
          numbers (reports (history ++ [(.degrade, some (.state .degraded (some failure)))])) =
            numbers (reports history) := by
        simp [numbers_concat, Report.isActive, Report.retry?]
      constructor
      case failures_eq =>
        intro _
        rw [streak_eq, ← oneMore_capped, ← failures_eq]
      case balanced =>
        rw [streak_eq, numbers_eq]
        exact congrArg (· + 1) balanced
      case numbers_eq =>
        rw [numbers_eq]
        exact counted.numbers_eq
  | @schedule failure words stage_eq =>
      have balanced := counted.balanced
      have failures_eq := counted.failures_eq (by rw [stage_eq]; rfl)
      rw [stage_eq] at balanced
      let report := Report.retry session.failures
        (session.policy.delay (session.failures - 1) words).1
      have streak_eq : streak (history ++ [(.schedule words, some report)]) = streak history :=
        streak_concat_of_not_counts history rfl
      have numbers_eq : numbers (reports (history ++ [(.schedule words, some report)])) =
          numbers (reports history) ++ [session.failures] := by
        simp [report, numbers_concat, Report.isActive, Report.retry?]
      constructor
      case failures_eq =>
        rw [streak_eq]
        exact fun _ => failures_eq
      case balanced =>
        rw [streak_eq, numbers_eq, List.length_append]
        exact balanced
      case numbers_eq =>
        rw [numbers_eq, List.length_append, List.length_singleton, counting_succ,
          ← counted.numbers_eq, failures_eq, balanced]

/-- Along every trail of a session that has not begun, the failures are counted. -/
theorem counted_of_trail {forward : Forward} {policy : Retry.Policy} {asked : Bool}
    {history : List Entry} {session : Session}
    (trail : Trail Goes (fresh forward policy asked) history session) :
    Counted session history := by
  induction trail with
  | here => exact ⟨fun _ => rfl, rfl, rfl⟩
  | onward _ step ih => exact ih.move (step_eq_some_iff.1 step)

end PortTunnel.Tunnel
