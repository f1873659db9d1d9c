import PortTunnel.Proofs.Tunnel.Pumps
import PortTunnel.Proofs.Tunnel.Stopping

/-!
# The loss of a channel

A pair that ends because its channel is lost ends the serving phase, once the
session joins it.  The session then cancels all pairs, waits for them, reports
the failure and tries again, as far as its policy lets it.

`Aftermath` says how far a session has come with that and what it has reported.
`Noticing` adds what comes before, as long as the pair waits to be joined.
-/

namespace PortTunnel.Tunnel

open Session

/-! ## Lost channels -/

/-- A pair loses its channel by a read that fails, and then it names the destination. -/
theorem Pair.eq_readFailed_of_step {destination : Destination} {nextCall : Nat}
    {isCancelled : Bool} {stage : PairStage} {label : Label} {failure : Failure} :
    Pair.step destination nextCall isCancelled stage label =
        some (.ends (.remoteFailed failure)) →
      ∃ reason, label = .relay .inbound (.readFailed reason) ∧ failure = lost destination reason := by
  fun_cases Pair.step destination nextCall isCancelled stage label <;> intro step
  case case5 channel outbound inbound direction label =>
    have relayed {outbound inbound : Pump} {effect : Effect} :
        relayOutcome channel outbound inbound effect ≠ .ends (.remoteFailed failure) := by
      intro same
      unfold relayOutcome at same
      split at same <;> cases same
    simp only [relayStep] at step
    split at step
    · cases step
    · rename_i reason broke
      cases direction with
      | outbound => cases step
      | inbound =>
          cases step
          exact ⟨reason, congrArg _ (Pump.eq_readFailed_of_step broke), rfl⟩
    · cases direction <;> cases step
    · cases direction <;> exact (relayed (Option.some.inj step)).elim
  all_goals cases step

/-- The losses that wait to be joined name the destination of the session. -/
def NamesLosses (session : Session) : Prop :=
  ∀ client failure, session.Waits client (.remoteFailed failure) →
    ∃ reason, failure = Pair.lost session.forward.destination reason

theorem NamesLosses.move {session next : Session} {label : Label} {report : Option Report}
    (names : NamesLosses session) (moves : Moves session label next report) :
    NamesLosses next := by
  intro client failure waits
  rw [moves.forward_eq_and_policy_eq.1]
  rcases moves.waits waits with before | ⟨own, isCancelled, stage, -, step⟩
  · exact names client failure before
  · rcases Pair.eq_readFailed_of_step step with ⟨reason, -, failure_eq⟩
    exact ⟨reason, failure_eq⟩

theorem namesLosses_of_trail {forward : Forward} {policy : Retry.Policy} {asked : Bool}
    {history : List Entry} {session : Session}
    (trail : Trail Goes (fresh forward policy asked) history session) : NamesLosses session := by
  refine trail.preserves ?_ ?_
  · rintro client failure ⟨phase, ⟨⟩, -⟩
  intro state entry later names step
  exact names.move (step_eq_some_iff.1 step)

/-! ## What follows a loss -/

/-- A session has left its serving phase because of a failure and has made these reports
since.  It reports the failure once all its pairs have ended and have been joined, and then
it schedules a retry or gives up as its policy says. -/
inductive Aftermath (failure : Failure) (session : Session) : List Report → Prop
  | closing {phase : Phase} (stage_eq : session.stage = .draining phase (some failure)) :
      Aftermath failure session []
  | closed (stage_eq : session.stage = .failed failure) : Aftermath failure session []
  | reported (stage_eq : session.stage = .judging failure) :
      Aftermath failure session [.state .degraded (some failure)]
  | retried (number : UInt32) (delay : Span) (later : List Report) :
      Aftermath failure session (.state .degraded (some failure) :: .retry number delay :: later)
  | gaveUp (stage_eq : session.stage = .ending (some failure))
      (tooMuch : session.givesUp failure = true) :
      Aftermath failure session [.state .degraded (some failure)]
  | finished (stage_eq : session.stage = .closed) (tooMuch : session.givesUp failure = true) :
      Aftermath failure session [.state .degraded (some failure), .state .closed (some failure)]

section Following

variable {session next : Session} {label : Label} {report : Option Report}
  {reports : List Report} {failure : Failure}

theorem Aftermath.move (aftermath : Aftermath failure session reports)
    (moves : Moves session label next report) (kept : label ≠ .drop) :
    Aftermath failure next (reports ++ report.toList) := by
  cases aftermath with
  | closing stage_eq =>
      cases moves with
      | stop => exact .closing stage_eq
      | pairDraining other_eq | joinDraining other_eq =>
          cases stage_eq.symm.trans other_eq
          exact .closing rfl
      | drainedFailed other_eq =>
          cases stage_eq.symm.trans other_eq
          exact .closed rfl
      | drop => exact (kept rfl).elim
      | _ => simp_all
  | closed stage_eq =>
      cases moves with
      | stop => exact .closed stage_eq
      | degrade other_eq =>
          cases stage_eq.symm.trans other_eq
          exact .reported rfl
      | drop => exact (kept rfl).elim
      | _ => simp_all
  | reported stage_eq =>
      rcases moves.of_judging stage_eq with ⟨-, rfl, rfl⟩ | ⟨dropped, -⟩ | ⟨tooMuch, rfl, rfl⟩ |
        ⟨-, rfl, words, rfl⟩
      · exact .reported stage_eq
      · exact (kept dropped).elim
      · exact .gaveUp rfl tooMuch
      · exact .retried _ _ []
  | retried number delay later => exact .retried number delay (later ++ report.toList)
  | gaveUp stage_eq tooMuch =>
      rcases moves.of_ending stage_eq with ⟨-, rfl, rfl⟩ | ⟨dropped, -⟩ | ⟨rfl, rfl⟩
      · exact .gaveUp stage_eq tooMuch
      · exact (kept dropped).elim
      · exact .finished rfl tooMuch
  | finished stage_eq tooMuch =>
      obtain ⟨-, rfl, rfl⟩ := moves.of_isOver (by rw [isOver, stage_eq])
      exact .finished stage_eq tooMuch

/-- A session goes on after the pair of a client has ended with a loss while it served, and
has made these reports since.  The pair waits to be joined, or the session was asked to stop,
or it has left its serving phase because of this loss or another one. -/
inductive Noticing (client : Nat) (failure : Failure) (session : Session) : List Report → Prop
  | waiting {phase : Phase} {pausing : Bool} {reports : List Report}
      (stage_eq : session.stage = .serving phase pausing)
      (waits : (client, .remoteFailed failure) ∈ phase.ended) :
      Noticing client failure session reports
  | asked {reports : List Report} (asked : session.stopRequested = true) :
      Noticing client failure session reports
  | left {before after : List Report} (reason : String)
      (aftermath : Aftermath (Pair.lost session.forward.destination reason) session after) :
      Noticing client failure session (before ++ after)

/-- Only the join of the pair takes it off the list, and that ends the serving phase. -/
theorem Noticing.move {client : Nat} (noticing : Noticing client failure session reports)
    (tidy : session.Tidy) (names : NamesLosses session)
    (moves : Moves session label next report) (kept : label ≠ .drop) :
    Noticing client failure next (reports ++ report.toList) := by
  cases noticing with
  | asked asked => exact .asked (moves.stopRequested_iff.2 (.inl asked))
  | @left before after reason aftermath =>
      rw [← moves.forward_eq_and_policy_eq.1] at aftermath
      rw [List.append_assoc]
      exact .left reason (aftermath.move moves kept)
  | @waiting phase _ _ stage_eq waits =>
      have served : phase.Tidy session.counters.connections :=
        tidy phase (by simp [phase?, stage_eq])
      cases moves with
      | stop => exact .asked rfl
      | heedServing other_eq asked => exact .asked asked
      | accept other_eq | acceptFailed other_eq | resume other_eq | recover other_eq =>
          cases stage_eq.symm.trans other_eq
          exact .waiting rfl waits
      | joinLost other_eq join_eq =>
          cases stage_eq.symm.trans other_eq
          have waited := (waits_iff_of_serving stage_eq).2 (join?_eq_some join_eq).1
          obtain ⟨reason, rfl⟩ := names _ _ waited
          exact .left reason (.closing rfl)
      | joinLastUnopened other_eq join_eq quiet =>
          cases stage_eq.symm.trans other_eq
          rcases served.eq_or_mem_ended join_eq waits with same | still
          · cases same
          · simp [Phase.isQuiet, List.ne_nil_of_mem still] at quiet
      | joinUnopened other_eq join_eq =>
          cases stage_eq.symm.trans other_eq
          rcases served.eq_or_mem_ended join_eq waits with same | still
          · cases same
          · exact .waiting rfl still
      | joinEnded other_eq join_eq harmless =>
          cases stage_eq.symm.trans other_eq
          rcases served.eq_or_mem_ended join_eq waits with same | still
          · cases same
            simp at harmless
          · exact .waiting rfl still
      | pairServing other_eq moves =>
          cases stage_eq.symm.trans other_eq
          refine .waiting rfl ?_
          cases moves with
          | ended => exact List.mem_append_left _ waits
          | silent | called | opened | carried => exact waits
      | drop => exact (kept rfl).elim
      | _ => simp_all

end Following

/-! ## Coming to the report -/

/-- By steps of its own the session comes to report the failure and nothing before it, and then
to decide about a retry. -/
def Reporting (session : Session) (failure : Failure) : Prop :=
  ∃ history last, Trail Goes session history last ∧ (∀ entry ∈ history, entry.1.isOwn = true) ∧
    last.stage = .judging failure ∧ reports history = [.state .degraded (some failure)]

theorem Reporting.cons {session next : Session} {label : Label} {failure : Failure}
    (reporting : Reporting next failure) (moves : Moves session label next none)
    (own : label.isOwn = true) : Reporting session failure := by
  obtain ⟨history, last, trail, allOwn, stage_eq, reports_eq⟩ := reporting
  have goes : Goes session (label, none) next := step_eq_some_iff.2 moves
  exact ⟨(label, none) :: history, last, .cons goes trail, List.forall_mem_cons.2 ⟨own, allOwn⟩,
    stage_eq, reports_eq⟩

/-- A session that leaves its serving phase because of a failure ends its pairs one by one and
joins them, and then it reports the failure. -/
theorem reporting_of_draining {session : Session} {phase : Phase} {failure : Failure}
    (stage_eq : session.stage = .draining phase (some failure)) : Reporting session failure := by
  induction burden_eq : phase.burden using Nat.strongRecOn generalizing session phase with
  | _ burden ih =>
      subst burden_eq
      cases running : phase.running with
      | cons pair pairs =>
          have member : pair ∈ phase.running := by simp [running]
          obtain ⟨phase', calls, counters, moves, less⟩ := PairMoves.of_mem session member
          exact (ih _ less rfl rfl).cons (.pairDraining stage_eq moves) rfl
      | nil =>
          cases ended : phase.ended with
          | cons first rest =>
              obtain ⟨client, exit⟩ := first
              have member : (client, exit) ∈ phase.ended := by simp [ended]
              obtain ⟨exit', joined, join_eq, less⟩ := join?_of_mem member
              exact (ih _ less rfl rfl).cons (.joinDraining stage_eq join_eq) rfl
          | nil =>
              have quiet : phase.isQuiet = true := by simp [Phase.isQuiet, running, ended]
              have reports : Goes { session with stage := .failed failure }
                  (.degrade, some (.state .degraded (some failure))) _ :=
                step_eq_some_iff.2 (.degrade rfl)
              have reporting : Reporting { session with stage := .failed failure } failure :=
                ⟨_, _, .single reports, by simp [Label.isOwn, Label.isAnswer], rfl, rfl⟩
              exact reporting.cons (.drainedFailed stage_eq quiet) rfl

/-- A session with a lost channel that waits to be noticed can go on to report it. -/
theorem reporting_of_waiting {session : Session} {phase : Phase} {pausing : Bool} {client : Nat}
    {failure : Failure} (tidy : session.Tidy) (stage_eq : session.stage = .serving phase pausing)
    (waits : (client, .remoteFailed failure) ∈ phase.ended) : Reporting session failure := by
  have served : phase.Tidy session.counters.connections := tidy phase (by simp [phase?, stage_eq])
  obtain ⟨exit, joined, join_eq, -⟩ := join?_of_mem waits
  obtain rfl : exit = .remoteFailed failure := by
    rcases served.eq_or_mem_ended join_eq waits with same | still
    · cases same
      rfl
    · obtain ⟨-, rfl⟩ := join?_eq_some join_eq
      simp at still
  have accepting {session : Session} (stage_eq : session.stage = .serving phase false) :
      Reporting session failure :=
    (reporting_of_draining rfl).cons (.joinLost stage_eq join_eq) rfl
  cases pausing with
  | false => exact accepting stage_eq
  | true => exact (accepting rfl).cons (.resume stage_eq) rfl

end PortTunnel.Tunnel
