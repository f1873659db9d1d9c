import Mathlib.Data.List.Induction
import PortTunnel.Proofs.Supervisor.Fleet
import PortTunnel.Proofs.Tunnel.Budget

/-!
# Retries and the status of a forward

A session reports its retries to the board, which keeps the number of the last
one until the forward is active again.  So the board and the session count in
different places, and they agree all the same.

The main result puts together what sessions make of their failures: which retries
they schedule, with which numbers and delays, when they close, and what the board
shows of it.
-/

namespace PortTunnel

open Tunnel

/-! ## The entry of a forward -/

namespace Status.Entry

/-- The status after a report of a session, as long as the forward is open. -/
def told (entry : Entry) : Report → Entry
  | .state state failure => entry.reported state failure
  | .retry attempt _ => { entry with retryCount := attempt }

/-- The number of the last retry is kept until the forward is active. -/
theorem told_retryCount (entry : Entry) (report : Report) :
    (entry.told report).retryCount =
      if report.isActive = true then 0 else report.retry?.getD entry.retryCount := by
  cases report with
  | state state failure => cases state <;> rfl
  | retry number delay => rfl

/-- Only the report of it closes a forward. -/
theorem told_state (entry : Entry) (report : Report) :
    (entry.told report).state = report.state?.getD entry.state := by
  cases report with
  | state state failure => exact Board.reported_state entry state failure
  | retry number delay => rfl

end Status.Entry

namespace Supervisor.Fleet

/-- Pass all reports on to the board, the oldest first. -/
def reportAll (fleet : Fleet) (id : String) (reports : List Report) : Fleet :=
  reports.foldl (fun fleet report => fleet.report id (some report)) fleet

@[simp]
theorem reportAll_concat (fleet : Fleet) (id : String) (reports : List Report) (report : Report) :
    fleet.reportAll id (reports ++ [report]) =
      (fleet.reportAll id reports).report id (some report) := by
  simp [reportAll]

theorem get?_report_of_open {fleet : Fleet} {id : String} {entry : Status.Entry}
    (found : fleet.board.entries.get? id = some entry) (open_ : entry.state ≠ .closed)
    (report : Report) :
    (fleet.report id (some report)).board.entries.get? id = some (entry.told report) := by
  have accepted : fleet.board.isOpen id = true := Status.Board.isOpen_iff.2 ⟨entry, found, open_⟩
  rw [report_board]
  cases report with
  | state state failure =>
      rw [Status.Board.get?_report, if_pos ⟨rfl, accepted⟩, found]
      rfl
  | retry attempt delay =>
      rw [Status.Board.get?_reportRetry, if_pos ⟨rfl, accepted⟩, found]
      rfl

/-- While a forward has not been reported closed, its entry is open and has the number of the
last retry since it was active. -/
theorem exists_entry_of_unclosed {fleet : Fleet} {id : String} {first : Status.Entry}
    (found : fleet.board.entries.get? id = some first) (open_ : first.state ≠ .closed)
    (unnumbered : first.retryCount = 0) {reports : List Report} (unclosed : Unclosed reports) :
    ∃ entry, (fleet.reportAll id reports).board.entries.get? id = some entry ∧
      entry.state ≠ .closed ∧ entry.retryCount = (numbers reports).getLast?.getD 0 := by
  induction reports using List.reverseRecOn with
  | nil => exact ⟨first, found, open_, unnumbered⟩
  | append_singleton reports report ih =>
      obtain ⟨before, now⟩ := unclosed_append_iff.1 unclosed
      obtain ⟨entry, found, open_, count_eq⟩ := ih before
      have reported := get?_report_of_open found open_ report
      rw [← reportAll_concat] at reported
      refine ⟨entry.told report, reported, ?_, ?_⟩
      · rw [Status.Entry.told_state]
        have notClosing : report.state? ≠ some .closed := now report (List.mem_singleton_self _)
        cases shown : report.state? with
        | none => exact open_
        | some state =>
            rw [shown] at notClosing
            exact fun same => notClosing (congrArg some same)
      · rw [Status.Entry.told_retryCount, numbers_concat, count_eq]
        cases active : report.isActive with
        | true => simp
        | false => cases number : report.retry? <;> simp

end Supervisor.Fleet

namespace Tunnel

open Session Supervisor

section Trails

variable {forward : Forward} {policy : Retry.Policy} {asked : Bool} {history : List Entry}
  {session : Session}

/-- A session reports that it closed at most once, and last. -/
theorem unclosed_or_closing_last (trail : Trail Goes (fresh forward policy asked) history session) :
    Unclosed (reports history) ∨
      ∃ before failure, reports history = before ++ [.state .closed failure] ∧ Unclosed before := by
  obtain ⟨rest, chronicle⟩ := (story_of_trail trail).continues
  obtain ⟨before, failure, all_eq, unclosed⟩ := chronicle.closing_last
  rcases List.eq_nil_or_concat rest with rfl | ⟨front, last, rfl⟩
  · rw [List.append_nil] at all_eq
    exact .inr ⟨before, failure, all_eq, unclosed⟩
  · rw [List.concat_eq_append, ← List.append_assoc] at all_eq
    obtain ⟨rfl, -⟩ := List.append_inj' all_eq rfl
    exact .inl (unclosed_append_iff.1 unclosed).1

/-- The board shows the number of the last retry since the forward was active, and the failure
with which it was closed. -/
theorem exists_entry_of_trail (trail : Trail Goes (fresh forward policy asked) history session)
    (fleet : Fleet) :
    ∃ entry,
      ((fleet.start policy asked forward).reportAll forward.id
        (reports history)).board.entries.get? forward.id = some entry ∧
      entry.retryCount = (numbers (reports history)).getLast?.getD 0 ∧
      ∀ failure, (reports history).getLast? = some (.state .closed (some failure)) →
        entry.lastFailure = some failure := by
  have found : (fleet.start policy asked forward).board.entries.get? forward.id =
      some { forward := forward } := by
    simp [Fleet.start, Status.Board.get?_register]
  have begins : ({ forward := forward } : Status.Entry).state ≠ .closed := by simp
  rcases unclosed_or_closing_last trail with unclosed | ⟨before, failure, reports_eq, unclosed⟩
  · obtain ⟨entry, found, -, count_eq⟩ :=
      Fleet.exists_entry_of_unclosed found begins rfl unclosed
    refine ⟨entry, found, count_eq, fun failure last => ?_⟩
    exact (unclosed _ (List.mem_of_getLast? last) rfl).elim
  · obtain ⟨entry, found, open_, count_eq⟩ :=
      Fleet.exists_entry_of_unclosed found begins rfl unclosed
    have reported := Fleet.get?_report_of_open found open_ (.state .closed failure)
    rw [← Fleet.reportAll_concat, ← reports_eq] at reported
    refine ⟨_, reported, ?_, ?_⟩
    · rw [Status.Entry.told_retryCount, reports_eq, numbers_concat, count_eq]
      simp [Report.isActive, Report.retry?]
    · intro last last_eq
      rw [reports_eq, List.getLast?_concat] at last_eq
      cases last_eq
      rfl

/-! ## Policies are followed -/

/-- What a session makes of its failures, as its history tells it. -/
structure FollowsPolicy (forward : Forward) (policy : Retry.Policy) (asked : Bool)
    (history : List Entry) (session : Session) : Prop where
  /-- After each failure comes the verdict for the number of failures in a row. -/
  verdict : ∀ before failure after,
    history = before ++ (.degrade, some (.state .degraded (some failure))) :: after →
      Verdict policy failure
        (capped (streak (before ++ [(.degrade, some (.state .degraded (some failure)))]))) session
        (reports after)
  /-- The session comes to that verdict by itself. -/
  goesOn : ∀ failure, session.stage = .judging failure →
    (Bearable policy failure (capped (streak history)) ∧
        ∀ words, ∃ delay next,
          Goes session (.schedule words, some (.retry (capped (streak history)) delay)) next) ∨
      (¬ Bearable policy failure (capped (streak history)) ∧
        ∃ last, Trail Goes session
          [(.giveUp, none), (.close, some (.state .closed (some failure)))] last)
  /-- When no channel is ever opened, a budget allows for one call more than retries; a session
  that closes unasked has used it up, and one that is still there can come to that. -/
  budget : ∀ most, policy.maxRetries = some most → most.toNat < 4294967295 →
    (∀ entry ∈ history, entry.1.isBarren = true) →
      callsMade history ≤ most.toNat + 1 ∧ retriesMade history ≤ most.toNat ∧
        (session.stage = .closed → asked = false → .stop ∉ history.map (·.1) →
          callsMade history = most.toNat + 1 ∧ retriesMade history = most.toNat) ∧
        (session.stage ≠ .dropped → CanClose session)
  /-- Without a budget a session whose failures are retryable closes only when asked to. -/
  unbounded : policy.maxRetries = none →
    (∀ entry ∈ history, entry.1.failsRetryably = true) → session.stage = .closed →
      asked = true ∨ .stop ∈ history.map (·.1)
  /-- The retries since the forward was active are numbered one by one. -/
  numbered : numbers (reports history) = counting (numbers (reports history)).length
  /-- The board shows the last of these numbers, and the failure with which a session closed. -/
  shown : ∀ fleet : Fleet, ∃ entry,
    ((fleet.start policy asked forward).reportAll forward.id
      (reports history)).board.entries.get? forward.id = some entry ∧
    entry.retryCount = (numbers (reports history)).getLast?.getD 0 ∧
    ∀ failure, (reports history).getLast? = some (.state .closed (some failure)) →
      entry.lastFailure = some failure

/-- Every session that has its listener follows its policy. -/
theorem bound_session_follows_policy
    (trail : Trail Goes (fresh forward policy asked) history session)
    (bound : ∀ entry ∈ history, entry.1.isRefused = false) :
    FollowsPolicy forward policy asked history session := by
  have policy_eq : session.policy = policy := (forward_eq_and_policy_eq_of_trail trail).2
  have counted := counted_of_trail trail
  have asked_iff := stopRequested_iff_of_trail trail
  constructor
  case verdict =>
    rintro before failure after rfl
    exact verdict_of_trail trail
  case goesOn =>
    intro failure stage_eq
    have goesOn := goesOn_of_judging stage_eq
    rwa [policy_eq, counted.failures_eq (by rw [stage_eq]; rfl)] at goesOn
  case budget =>
    intro most limited countable barren
    have spent := hasSpent_of_trail trail limited countable barren
    refine ⟨spent.le.1, spent.le.2, fun closed unasked unstopped => ?_,
      canClose_of_trail trail limited countable barren⟩
    unfold HasSpent at spent
    rw [closed] at spent
    apply spent.2.2
    rw [Bool.eq_false_iff, ne_eq, asked_iff, unasked]
    rintro (same | stopped)
    · cases same
    · exact unstopped stopped
  case unbounded =>
    intro unbounded mild closed
    exact asked_iff.1 ((persists_of_trail trail unbounded bound mild).2 closed)
  case numbered => exact counted.numbers_eq
  case shown => exact exists_entry_of_trail trail

end Trails

/-- A session that may retry once and never gets a channel. -/
def refusedTwiceLabels : List Label :=
  [.bound, .announce, .call, .openFailed (.connectFailed "refused"), .degrade, .schedule [], .wake,
    .announce, .call, .openFailed (.connectFailed "refused"), .degrade, .giveUp, .close]

theorem refused_session_follows_policy :
    ∃ history session,
      Trail Goes (fresh sampleForward { maxRetries := some 1 } false) history session ∧
        (∀ entry ∈ history, entry.1.isRefused = false) ∧ session.stage = .closed ∧
          callsMade history = 2 ∧ retriesMade history = 1 ∧
            FollowsPolicy sampleForward { maxRetries := some 1 } false history session := by
  obtain ⟨history, session, played, bound, barren, closed, unstopped⟩ :
      ∃ history session,
        (fresh sampleForward { maxRetries := some 1 } false).play refusedTwiceLabels =
          some (history, session) ∧ (∀ entry ∈ history, entry.1.isRefused = false) ∧
            (∀ entry ∈ history, entry.1.isBarren = true) ∧ session.stage = .closed ∧
              .stop ∉ history.map (·.1) :=
    ⟨_, _, rfl, by decide, by decide, rfl, by decide⟩
  have trail := trail_of_play played
  have follows := bound_session_follows_policy trail bound
  have exhausted := (follows.budget 1 rfl (by decide) barren).2.2.1 closed rfl unstopped
  exact ⟨history, session, trail, bound, closed, exhausted.1, exhausted.2, follows⟩

/-- Where the budget is as great as the count of failures can become, each failed call leads to
another one. -/
theorem exists_round {session : Session} (stage_eq : session.stage = .announcing)
    (limited : session.policy.maxRetries = some 4294967295) :
    ∃ later next, Trail Goes session later next ∧ next.stage = .announcing ∧
      (∀ entry ∈ later, entry.1.isBarren = true ∧ entry.1 ≠ .stop) ∧
        callsMade later = 1 ∧ retriesMade later = 1 := by
  let failure := Failure.connectFailed "refused"
  let called :=
    { session with stage := .connecting (some session.calls), calls := session.calls + 1 }
  let judging :=
    { called with stage := .judging failure, failures := oneMore session.failures }
  have bearable : judging.givesUp failure = false := by
    refine givesUp_eq_false_iff.2 ⟨rfl, fun most limited' => ?_⟩
    cases limited.symm.trans limited'
    exact UInt32.le_iff_toNat_le.2 (Nat.le_of_lt_succ (oneMore session.failures).toNat_lt)
  have announces := Moves.announce stage_eq
  have calls : Moves { session with stage := .connecting none } .call called none := .call rfl
  have fails : Moves called (.openFailed failure) { called with stage := .failed failure } none :=
    .openFailed rfl
  have degrades : Moves { called with stage := .failed failure } .degrade judging
      (some (.state .degraded (some failure))) := .degrade rfl
  have schedules : Moves judging (.schedule []) { judging with stage := .resting } _ :=
    .schedule rfl bearable
  have wakes : Moves { judging with stage := .resting } .wake
      { judging with stage := .announcing } none := .wake rfl
  refine ⟨_, _, .cons announces.goes (.cons calls.goes (.cons fails.goes (.cons degrades.goes
    (.cons schedules.goes (.single wakes.goes))))), rfl, ?_, rfl, rfl⟩
  intro entry member
  simp only [List.mem_cons, List.not_mem_nil, or_false] at member
  rcases member with rfl | rfl | rfl | rfl | rfl | rfl <;> exact ⟨rfl, nofun⟩

/-- The greatest budget is never used up.  The count of failures stops there, so a session that
never gets a channel makes more calls and retries than the budget allows. -/
theorem greatest_budget_is_never_spent :
    ∃ history session,
      Trail Goes (fresh sampleForward { maxRetries := some 4294967295 } false) history session ∧
        (∀ entry ∈ history, entry.1.isBarren = true ∧ entry.1 ≠ .stop) ∧
          session.stage ≠ .closed ∧ callsMade history = 4294967297 ∧
            retriesMade history = 4294967297 := by
  have rounds (count : Nat) :
      ∃ history session,
        Trail Goes (fresh sampleForward { maxRetries := some 4294967295 } false) history session ∧
          session.stage = .announcing ∧
            (∀ entry ∈ history, entry.1.isBarren = true ∧ entry.1 ≠ .stop) ∧
              callsMade history = count ∧ retriesMade history = count := by
    induction count with
    | zero =>
        have binds : Moves (fresh sampleForward { maxRetries := some 4294967295 } false)
            .bound _ _ := .bound rfl
        exact ⟨_, _, .single binds.goes, rfl, List.forall_mem_singleton.2 ⟨rfl, nofun⟩, rfl, rfl⟩
    | succ count ih =>
        obtain ⟨history, session, trail, stage_eq, barren, calls_eq, retries_eq⟩ := ih
        have policy_eq := (forward_eq_and_policy_eq_of_trail trail).2
        obtain ⟨later, next, onward, next_eq, barrenLater, oneCall, oneRetry⟩ :=
          exists_round stage_eq (by rw [policy_eq]; rfl)
        refine ⟨history ++ later, next, trail.trans onward, next_eq,
          List.forall_mem_append.2 ⟨barren, barrenLater⟩, ?_, ?_⟩
        · rw [callsMade_append, calls_eq, oneCall]
        · rw [retriesMade_append, retries_eq, oneRetry]
  obtain ⟨history, session, trail, stage_eq, barren, calls_eq, retries_eq⟩ := rounds 4294967297
  refine ⟨history, session, trail, barren, ?_, calls_eq, retries_eq⟩
  rw [stage_eq]
  exact nofun

end Tunnel

end PortTunnel
