import PortTunnel.Proofs.Tunnel.Clients
import PortTunnel.Proofs.Tunnel.Recovery

/-!
# Channels opened and refused while serving

While a session serves, channels are opened for its clients in any order, and
some calls fail.  The pair of a client without a channel ends, and the session
learns of it only when it joins the pair.  A channel that was opened is counted,
and the session compares the count with what it has seen.

When the session joins a failure it takes all channels opened so far as seen.
One that was opened after the failure but before the join is seen as well, and
then it does not restore the session.  The main result says that this is the only
way in which the state that is shown differs from the order of the calls.
-/

namespace PortTunnel.Tunnel

open Session

/-! ## Turns -/

/-- What happens to the clients of a serving phase and bears on the state that is shown. -/
inductive Turn where
  /-- A channel was opened afresh. -/
  | opened
  /-- A call failed. -/
  | failed
  /-- The session joined the pair of a failed call and reported the failure. -/
  | noticed
  deriving DecidableEq

/-- The turn that an entry of a history stands for. -/
def turn? : Entry → Option Turn
  | (.pair _ .opened, _) => some .opened
  | (.pair _ (.openFailed _), _) => some .failed
  | (.join _, some (.state .degraded _)) => some .noticed
  | _ => none

/-- The part of a history since the session began to serve. -/
def sinceActivation (history : List Entry) : List Entry :=
  (history.reverse.takeWhile (·.1 != .activate)).reverse

/-- The turns of the latest serving phase in their order. -/
def turns (history : List Entry) : List Turn :=
  (sinceActivation history).filterMap turn?

@[simp]
theorem turns_activate (history : List Entry) (report : Option Report) :
    turns (history ++ [(.activate, report)]) = [] := by
  simp [turns, sinceActivation]

theorem turns_concat (history : List Entry) {entry : Entry}
    (other : (entry.1 != .activate) = true) :
    turns (history ++ [entry]) = turns history ++ (turn? entry).toList := by
  cases turned : turn? entry <;> simp [turns, sinceActivation, other, turned]

/-- After each turn of a kind, and so after the last one, a channel was opened. -/
def Restored (turn : Turn) (turns : List Turn) : Prop :=
  ∀ early late, turns = early ++ turn :: late → .opened ∈ late

/-- The last channel was opened after the last failed call, but a failure was noticed later. -/
def Overtaken (turns : List Turn) : Prop :=
  ∃ early late, turns = early ++ .opened :: late ∧ .opened ∉ late ∧ .failed ∉ late ∧
    .noticed ∈ late

theorem restored_nil (turn : Turn) : Restored turn [] := by
  intro early late turns_eq
  simp at turns_eq

/-- A channel restores what came before, and a turn of the kind undoes it. -/
theorem restored_concat_iff {turn next : Turn} {turns : List Turn} (kind : turn ≠ .opened) :
    Restored turn (turns ++ [next]) ↔ next = .opened ∨ next ≠ turn ∧ Restored turn turns := by
  constructor
  · intro restored
    by_cases opens : next = .opened
    · exact .inl opens
    refine .inr ⟨?_, ?_⟩
    · rintro rfl
      have after : Turn.opened ∈ [] := restored turns [] rfl
      cases after
    · rintro early late rfl
      have after : .opened ∈ late ++ [next] := restored early (late ++ [next]) (by simp)
      rcases List.mem_append.1 after with before | last
      · exact before
      · exact (opens (List.mem_singleton.1 last).symm).elim
  · intro cases_ early late turns_eq
    rcases concat_eq_append_cons turns_eq with ⟨-, rfl, rfl⟩ | ⟨rest, front_eq, rfl⟩
    · rcases cases_ with opens | ⟨different, -⟩
      · exact (kind opens).elim
      · exact (different rfl).elim
    · rw [List.mem_append, List.mem_singleton]
      rcases cases_ with rfl | ⟨-, restored⟩
      · exact .inr rfl
      · exact .inl (restored early rest front_eq)

/-- What is in a list has a last occurrence. -/
theorem exists_last_of_mem {turn : Turn} {turns : List Turn} (member : turn ∈ turns) :
    ∃ early late, turns = early ++ turn :: late ∧ turn ∉ late := by
  obtain ⟨late, early, reverse_eq, absent⟩ :=
    List.eq_append_cons_of_mem (List.mem_reverse.2 member)
  refine ⟨early.reverse, late.reverse, ?_, by simpa using absent⟩
  rw [← List.reverse_reverse turns, reverse_eq]
  simp

/-- Where each failed call has been noticed later, the notices are restored exactly if the
failures are and no channel was overtaken. -/
theorem restored_noticed_iff {turns : List Turn}
    (noticed : Restored .noticed turns → Restored .failed turns)
    (caused : .noticed ∈ turns → .failed ∈ turns) :
    Restored .noticed turns ↔ Restored .failed turns ∧ ¬ Overtaken turns := by
  constructor
  · intro restored
    refine ⟨noticed restored, ?_⟩
    rintro ⟨early, late, rfl, lastOpened, -, later⟩
    obtain ⟨between, rest, rfl⟩ := List.append_of_mem later
    have after : .opened ∈ rest := restored (early ++ .opened :: between) rest (by simp)
    exact lastOpened (by simp [after])
  · rintro ⟨restored, notOvertaken⟩ before after turns_eq
    by_contra unopened
    have failed : .failed ∈ turns := caused (by simp [turns_eq])
    obtain ⟨first, rest, failed_eq⟩ := List.append_of_mem failed
    have opened : .opened ∈ turns := by simp [failed_eq, restored first rest failed_eq]
    obtain ⟨early, late, opened_eq, last⟩ := exists_last_of_mem opened
    refine notOvertaken ⟨early, late, opened_eq, last, ?_, ?_⟩
    · intro failedLater
      obtain ⟨between, end_, rfl⟩ := List.append_of_mem failedLater
      have after : .opened ∈ end_ :=
        restored (early ++ .opened :: between) end_ (by simp [opened_eq])
      exact last (by simp [after])
    · -- The notice without a channel after it comes after the last channel.
      rw [turns_eq] at opened_eq
      rcases List.append_eq_append_iff.1 opened_eq with
        ⟨between, early_eq, rest_eq⟩ | ⟨between, before_eq, rest_eq⟩
      · rcases List.cons_eq_append_iff.1 rest_eq with ⟨rfl, rest_eq⟩ | ⟨tail, -, after_eq⟩
        · cases rest_eq
        · exact (unopened (by simp [after_eq])).elim
      · rcases List.cons_eq_append_iff.1 rest_eq with ⟨rfl, rest_eq⟩ | ⟨tail, -, late_eq⟩
        · cases rest_eq
        · simp [late_eq]

/-! ## The turns of a pair -/

/-- The pair of a failed call waits to be joined. -/
def Phase.HasUnopened (phase : Phase) : Prop :=
  ∃ client failure, (client, .openFailed failure) ∈ phase.ended

/-- A step of a pair that neither opens a channel nor fails to do so is no turn. -/
theorem turn?_pair_eq_none {destination : Destination} {nextCall client : Nat}
    {isCancelled : Bool} {stage : PairStage} {label : Pair.Label} {outcome : Pair.Outcome}
    (step : Pair.step destination nextCall isCancelled stage label = some outcome)
    (unopened : ∀ stage', outcome ≠ .continues stage' .opened)
    (unfailed : ∀ failure, outcome ≠ .ends (.openFailed failure)) (report : Option Report) :
    turn? (.pair client label, report) = none := by
  cases label with
  | opened =>
      cases stage with
      | opening call =>
          cases step
          exact (unopened _ rfl).elim
      | waiting channel => cases channel <;> cases step
      | relaying channel outbound inbound => cases step
  | openFailed failure =>
      cases stage with
      | opening call =>
          cases step
          exact (unfailed _ rfl).elim
      | waiting channel => cases channel <;> cases step
      | relaying channel outbound inbound => cases step
  | start | relay | cancelled => rfl

/-- What a step of a pair means for the turns of its phase. -/
inductive Session.PairTurns (phase : Phase) (client : Nat) : Pair.Label → Phase → Prop
  | opened {phase' : Phase} (opened_eq : phase'.opened = phase.opened + 1)
      (ended_eq : phase'.ended = phase.ended) : PairTurns phase client .opened phase'
  | failed {phase' : Phase} {failure : Failure} (opened_eq : phase'.opened = phase.opened)
      (ended_eq : phase'.ended = phase.ended ++ [(client, .openFailed failure)]) :
      PairTurns phase client (.openFailed failure) phase'
  | other {phase' : Phase} {label : Pair.Label}
      (turn?_eq : ∀ report, turn? (.pair client label, report) = none)
      (opened_eq : phase'.opened = phase.opened)
      (unopened_iff : phase'.HasUnopened ↔ phase.HasUnopened) :
      PairTurns phase client label phase'

theorem Session.PairMoves.turns {session : Session} {phase phase' : Phase} {isCancelled : Bool}
    {client calls : Nat} {label : Pair.Label} {counters : Status.Counters}
    (moves : PairMoves session phase isCancelled client label phase' calls counters) :
    PairTurns phase client label phase' := by
  cases moves with
  | @ended _ exit _ step =>
      cases exit with
      | openFailed failure =>
          obtain rfl := eq_openFailed_of_step step
          exact .failed rfl rfl
      | closed | localFailed | remoteFailed | cancelled =>
          refine .other (turn?_pair_eq_none step (by simp) (by simp)) rfl ?_
          simp [Phase.HasUnopened, Phase.finish]
  | silent _ step | called _ step | carried _ step =>
      exact .other (turn?_pair_eq_none step (by simp) (by simp)) rfl Iff.rfl
  | opened _ step =>
      obtain rfl := eq_opened_of_step step
      exact .opened rfl rfl

/-! ## What the session makes of the turns -/

/-- A serving phase agrees with its turns.  A session is degraded while the last failure that
it noticed is not restored or has been restored by channels that it has not seen yet. -/
structure Tally (phase : Phase) (turns : List Turn) : Prop where
  seen_le : phase.seen ≤ phase.opened
  healthy : phase.degraded = false → Restored .noticed turns
  degraded : phase.degraded = true → (phase.seen ≠ phase.opened ↔ Restored .noticed turns)
  noticed : ¬ phase.HasUnopened → Restored .noticed turns → Restored .failed turns
  caused : phase.HasUnopened ∨ .noticed ∈ turns → .failed ∈ turns

namespace Tally

variable {phase phase' : Phase} {turns : List Turn}

theorem begin (channel : Nat) : Tally { standby := some channel } [] where
  seen_le := Nat.le_refl 0
  healthy _ := restored_nil _
  degraded degraded := by cases degraded
  noticed _ _ := restored_nil _
  caused := by
    rintro (⟨client, failure, waiting⟩ | member)
    · cases waiting
    · cases member

/-- The tally stays as it is when nothing happens that it speaks of. -/
theorem same (tally : Tally phase turns) (degraded_eq : phase'.degraded = phase.degraded)
    (opened_eq : phase'.opened = phase.opened) (seen_eq : phase'.seen = phase.seen)
    (unopened_iff : phase'.HasUnopened ↔ phase.HasUnopened) : Tally phase' turns := by
  obtain ⟨seen_le, healthy, degraded, noticed, caused⟩ := tally
  rw [← degraded_eq] at healthy degraded
  rw [← seen_eq, ← opened_eq] at seen_le degraded
  rw [← unopened_iff] at noticed caused
  exact ⟨seen_le, healthy, degraded, noticed, caused⟩

theorem opened (tally : Tally phase turns) (opened_eq : phase'.opened = phase.opened + 1)
    (seen_eq : phase'.seen = phase.seen) (ended_eq : phase'.ended = phase.ended) :
    Tally phase' (turns ++ [.opened]) := by
  have restored {turn : Turn} (kind : turn ≠ .opened) : Restored turn (turns ++ [.opened]) :=
    (restored_concat_iff kind).2 (.inl rfl)
  have seen_lt : phase'.seen < phase'.opened := by
    rw [seen_eq, opened_eq]
    exact Nat.lt_succ_of_le tally.seen_le
  constructor
  case seen_le => exact Nat.le_of_lt seen_lt
  case healthy => exact fun _ => restored (by decide)
  case degraded => exact fun _ => iff_of_true (Nat.ne_of_lt seen_lt) (restored (by decide))
  case noticed => exact fun _ _ => restored (by decide)
  case caused =>
    intro reason
    refine List.mem_append_left _ (tally.caused ?_)
    simpa [Phase.HasUnopened, ended_eq] using reason

theorem failed (tally : Tally phase turns) (degraded_eq : phase'.degraded = phase.degraded)
    (opened_eq : phase'.opened = phase.opened) (seen_eq : phase'.seen = phase.seen)
    (unopened : phase'.HasUnopened) : Tally phase' (turns ++ [.failed]) := by
  have restored_iff : Restored .noticed (turns ++ [.failed]) ↔ Restored .noticed turns := by
    simp [restored_concat_iff]
  constructor
  case seen_le =>
    rw [seen_eq, opened_eq]
    exact tally.seen_le
  case healthy =>
    intro healthy
    rw [restored_iff]
    exact tally.healthy (degraded_eq ▸ healthy)
  case degraded =>
    intro degraded
    rw [restored_iff, seen_eq, opened_eq]
    exact tally.degraded (degraded_eq ▸ degraded)
  case noticed => exact fun joined => (joined unopened).elim
  case caused => exact fun _ => by simp

/-- A failure that is noticed has been waiting, and no channel restores it yet. -/
theorem notice (tally : Tally phase turns) (unopened : phase.HasUnopened)
    (degraded_eq : phase'.degraded = true) (seen_eq : phase'.seen = phase'.opened) :
    Tally phase' (turns ++ [.noticed]) := by
  have unrestored : ¬ Restored .noticed (turns ++ [.noticed]) := by simp [restored_concat_iff]
  constructor
  case seen_le => exact Nat.le_of_eq seen_eq
  case healthy =>
    intro healthy
    rw [degraded_eq] at healthy
    cases healthy
  case degraded => exact fun _ => iff_of_false (fun fresh => fresh seen_eq) unrestored
  case noticed => exact fun _ restored => (unrestored restored).elim
  case caused => exact fun _ => List.mem_append_left _ (tally.caused (.inl unopened))

theorem recovered (tally : Tally phase turns) (degraded : phase.degraded = true)
    (fresh : phase.seen ≠ phase.opened) :
    Tally { phase with degraded := false, seen := phase.opened } turns where
  seen_le := Nat.le_refl _
  healthy _ := (tally.degraded degraded).1 fresh
  degraded degraded := by cases degraded
  noticed := tally.noticed
  caused := tally.caused

end Tally

/-- While a session serves, its phase agrees with the turns. -/
def Tallied : Stage → List Turn → Prop
  | .serving phase _, turns => Tally phase turns
  | _, _ => True

/-- Joining a pair that had a channel leaves the pairs that had none. -/
theorem Phase.Tidy.hasUnopened_iff {phase joined : Phase} {connections client : Nat} {exit : Exit}
    (tidy : phase.Tidy connections) (join_eq : phase.join? client = some (exit, joined))
    (harmless : exit = .closed ∨ exit = .localFailed ∨ exit = .cancelled) :
    joined.HasUnopened ↔ phase.HasUnopened := by
  constructor
  · rintro ⟨other, failure, waiting⟩
    obtain ⟨-, rfl⟩ := join?_eq_some join_eq
    exact ⟨other, failure, List.mem_of_mem_filter waiting⟩
  · rintro ⟨other, failure, waiting⟩
    rcases tidy.eq_or_mem_ended join_eq waiting with same | still
    · cases same
      simp at harmless
    · exact ⟨other, failure, still⟩

theorem Tallied.move {session next : Session} {label : Label} {report : Option Report}
    {history : List Entry} (tallied : Tallied session.stage (turns history))
    (tidy : session.Tidy) (moves : Moves session label next report) :
    Tallied next.stage (turns (history ++ [(label, report)])) := by
  have turned (other : (label != .activate) = true) :
      turns (history ++ [(label, report)]) = turns history ++ (turn? (label, report)).toList :=
    turns_concat history other
  -- Most labels are no turns.
  have idle (other : (label != .activate) = true) (none_ : turn? (label, report) = none) :
      turns (history ++ [(label, report)]) = turns history := by
    rw [turned other, none_, Option.toList_none, List.append_nil]
  cases moves with
  | stop =>
      rw [idle rfl rfl]
      exact tallied
  | activate =>
      rw [turns_activate]
      exact Tally.begin _
  | accept stage_eq | acceptFailed stage_eq | resume stage_eq =>
      rw [stage_eq] at tallied
      rw [idle rfl rfl]
      exact Tally.same tallied rfl rfl rfl Iff.rfl
  | @joinUnopened _ _ client failure stage_eq join_eq =>
      rw [stage_eq] at tallied
      obtain ⟨waiting, rfl⟩ := join?_eq_some join_eq
      rw [turned rfl]
      exact Tally.notice tallied ⟨client, failure, waiting⟩ rfl rfl
  | joinEnded stage_eq join_eq harmless =>
      rw [stage_eq] at tallied
      have unopened_iff := (tidy _ (by simp [phase?, stage_eq])).hasUnopened_iff join_eq harmless
      obtain ⟨-, rfl⟩ := join?_eq_some join_eq
      rw [idle rfl rfl]
      exact Tally.same tallied rfl rfl rfl unopened_iff
  | recover stage_eq degraded fresh =>
      rw [stage_eq] at tallied
      rw [idle rfl rfl]
      exact Tally.recovered tallied degraded fresh
  | @pairServing _ _ _ client _ _ _ stage_eq moves =>
      rw [stage_eq] at tallied
      rw [turned rfl]
      cases moves.turns with
      | opened opened_eq ended_eq =>
          exact Tally.opened tallied opened_eq moves.seen_eq ended_eq
      | @failed _ failure opened_eq ended_eq =>
          exact Tally.failed tallied moves.degraded_eq opened_eq moves.seen_eq
            ⟨client, failure, by simp [ended_eq]⟩
      | other turn?_eq opened_eq unopened_iff =>
          rw [turn?_eq, Option.toList_none, List.append_nil]
          exact Tally.same tallied moves.degraded_eq opened_eq moves.seen_eq unopened_iff
  | _ => trivial

/-! ## Along a trail -/

section Trails

variable {forward : Forward} {policy : Retry.Policy} {asked : Bool} {history : List Entry}
  {session : Session} {phase : Phase} {pausing : Bool}

theorem tallied_of_trail (trail : Trail Goes (fresh forward policy asked) history session) :
    Tallied session.stage (turns history) := by
  induction trail with
  | here => trivial
  | onward trail step ih => exact ih.move (tidy_of_trail trail) (step_eq_some_iff.1 step)

/-- While a session serves, the state that it shows tells whether it is degraded. -/
theorem shownState?_of_serving (trail : Trail Goes (fresh forward policy asked) history session)
    (stage_eq : session.stage = .serving phase pausing) :
    shownState? (reports history) = some (if phase.degraded then .degraded else .active) := by
  have story := story_of_trail trail
  rw [stage_eq] at story
  obtain ⟨past, service, -, served, reports_eq⟩ := story
  rw [reports_eq, served.shownState?_eq]

/-- Take a session that serves, has joined every pair that ended and has seen every channel
that can restore it.  It shows that it is active exactly if no call has failed in this phase
or a channel was opened after the last failed one, unless the session noticed a failure only
after the last channel was opened; and it shows that it is degraded otherwise. -/
theorem shows_active_iff_restored
    (trail : Trail Goes (fresh forward policy asked) history session)
    (stage_eq : session.stage = .serving phase pausing) (joined : phase.ended = [])
    (seen : phase.degraded = true → phase.seen = phase.opened) :
    (shownState? (reports history) = some .active ↔
        Restored .failed (turns history) ∧ ¬ Overtaken (turns history)) ∧
      (shownState? (reports history) = some .degraded ↔
        ¬ Restored .failed (turns history) ∨ Overtaken (turns history)) := by
  have tally : Tally phase (turns history) := by
    have tallied := tallied_of_trail trail
    rwa [stage_eq] at tallied
  have none_waits : ¬ phase.HasUnopened := by
    rintro ⟨client, failure, waiting⟩
    rw [joined] at waiting
    cases waiting
  have active_iff : shownState? (reports history) = some .active ↔
      Restored .noticed (turns history) := by
    rw [shownState?_of_serving trail stage_eq]
    cases flag : phase.degraded with
    | false => simp [tally.healthy flag]
    | true => simp [← tally.degraded flag, seen flag]
  have degraded_iff : shownState? (reports history) = some .degraded ↔
      shownState? (reports history) ≠ some .active := by
    rw [shownState?_of_serving trail stage_eq]
    cases phase.degraded <;> simp
  have noticed_iff := restored_noticed_iff (tally.noticed none_waits)
    fun member => tally.caused (.inr member)
  refine ⟨active_iff.trans noticed_iff, ?_⟩
  rw [degraded_iff, ne_eq, active_iff, noticed_iff, not_and_or, not_not]

end Trails

/-- After a failed call was noticed, a channel is opened for another client. -/
theorem recovered_session_shows_active :
    ∃ history session phase, Trail Goes (fresh sampleForward {} false) history session ∧
      session.stage = .serving phase false ∧ phase.ended = [] ∧
        (phase.degraded = true → phase.seen = phase.opened) ∧
          turns history = [.failed, .noticed, .opened] ∧
            shownState? (reports history) = some .active ∧
              Restored .failed (turns history) ∧ ¬ Overtaken (turns history) := by
  obtain ⟨history, session, phase, played, stage_eq, joined, seen, turns_eq, shown⟩ :
      ∃ history session phase, (fresh sampleForward {} false).play
          (degradingLabels ++ [.accept, .pair 2 .start, .pair 2 .opened, .recover]) =
        some (history, session) ∧ session.stage = .serving phase false ∧ phase.ended = [] ∧
          (phase.degraded = true → phase.seen = phase.opened) ∧
            turns history = [.failed, .noticed, .opened] ∧
              shownState? (reports history) = some .active :=
    ⟨_, _, _, rfl, rfl, rfl, by decide, rfl, rfl⟩
  have trail := trail_of_play played
  exact ⟨history, session, phase, trail, stage_eq, joined, seen, turns_eq, shown,
    (shows_active_iff_restored trail stage_eq joined seen).1.1 shown⟩

/-- The last channel was opened after the only failed call, but before the session joined the
pair of that call. -/
theorem overtaken_session_shows_degraded :
    ∃ history session phase, Trail Goes (fresh sampleForward {} false) history session ∧
      session.stage = .serving phase false ∧ phase.ended = [] ∧ phase.seen = phase.opened ∧
        turns history = [.failed, .opened, .noticed] ∧ Restored .failed (turns history) ∧
          shownState? (reports history) = some .degraded := by
  obtain ⟨history, session, phase, played, stage_eq, joined, seen, turns_eq, shown⟩ :
      ∃ history session phase, (fresh sampleForward {} false).play
          [.bound, .announce, .call, .opened, .activate, .accept, .pair 0 .start, .accept,
            .pair 1 .start, .accept, .pair 2 .start,
            .pair 1 (.openFailed (.connectFailed "refused")), .pair 2 .opened, .join 1] =
        some (history, session) ∧ session.stage = .serving phase false ∧ phase.ended = [] ∧
          phase.seen = phase.opened ∧ turns history = [.failed, .opened, .noticed] ∧
            shownState? (reports history) = some .degraded :=
    ⟨_, _, _, rfl, rfl, rfl, rfl, rfl, rfl⟩
  have kind : Turn.failed ≠ .opened := by decide
  have opened : Restored .failed ([.failed] ++ [.opened]) :=
    (restored_concat_iff kind).2 (.inl rfl)
  have restored : Restored .failed ([.failed] ++ [.opened] ++ [.noticed]) :=
    (restored_concat_iff kind).2 (.inr ⟨by decide, opened⟩)
  exact ⟨history, session, phase, trail_of_play played, stage_eq, joined, seen, turns_eq,
    turns_eq ▸ restored, shown⟩

end PortTunnel.Tunnel
