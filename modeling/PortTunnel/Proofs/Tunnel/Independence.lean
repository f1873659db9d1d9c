import PortTunnel.Proofs.Tunnel.Breakage
import PortTunnel.Proofs.Tunnel.Reports

/-!
# Independent clients

The clients of a session share its serving phase, and leaving the phase cancels them all.
So it matters what makes a session leave it.  A pair that ends is no reason, unless it lost
its channel, or no channel was opened for it and nobody else is left to be served.

`cancelsPairs` says whether the pairs of a session have been cancelled.  It changes by
requests to stop and by leaving the phase, and never by a step of a pair.
-/

namespace PortTunnel.Tunnel

open Session

/-! ## Cancelling -/

/-- Whether a session serves clients. -/
def Stage.isServing : Stage → Bool
  | .serving _ _ => true
  | _ => false

/-- Whether the pairs of a session have been cancelled. -/
def Session.cancelsPairs (session : Session) : Bool :=
  match session.stage with
  | .serving _ _ => session.stopRequested
  | .draining _ _ => true
  | _ => false

section Steps

variable {session next : Session} {label : Label} {report : Option Report} {client : Nat}

/-- A pair can be cancelled while it is at work, if the session has cancelled its pairs. -/
theorem exists_cancelled_iff :
    (∃ report next, Goes session (.pair client .cancelled, report) next) ↔
      session.cancelsPairs = true ∧ ∃ stage, session.Runs client stage := by
  have cancelled {phase phase' : Phase} {isCancelled : Bool} {calls : Nat}
      {counters : Status.Counters}
      (moves : PairMoves session phase isCancelled client .cancelled phase' calls counters) :
      isCancelled = true := by
    obtain ⟨pair, found⟩ := moves.exists_pair
    obtain ⟨outcome, step, -⟩ := moves.outcome found
    rw [Pair.step_cancelled] at step
    cases isCancelled with
    | true => rfl
    | false => cases step
  constructor
  · rintro ⟨report, next, step⟩
    have moves : Moves session (.pair client .cancelled) next report := step_eq_some_iff.1 step
    refine ⟨?_, moves.exists_runs⟩
    cases moves with
    | pairServing stage_eq moves =>
        rw [cancelsPairs, stage_eq]
        exact cancelled moves
    | pairDraining stage_eq => rw [cancelsPairs, stage_eq]
  · rintro ⟨cancels, stage, phase, pair, phase_eq, found, -⟩
    have moves : PairMoves session phase true client .cancelled (phase.finish client .cancelled)
        session.calls _ := .ended found (Pair.step_cancelled _ _ _ _)
    cases stage_eq : session.stage with
    | serving served pausing =>
        rw [phase?, stage_eq] at phase_eq
        cases phase_eq
        rw [cancelsPairs, stage_eq] at cancels
        rw [← cancels] at moves
        exact ⟨_, _, (Moves.pairServing stage_eq moves).goes⟩
    | draining drained failure =>
        rw [phase?, stage_eq] at phase_eq
        cases phase_eq
        exact ⟨_, _, (Moves.pairDraining stage_eq moves).goes⟩
    | _ => simp [phase?, stage_eq] at phase_eq

/-- A step spares the other clients: their pairs stay where they are, none is cancelled because
of it, and a session that serves goes on to serve. -/
structure Session.Spares (session : Session) (client : Nat) (next : Session) : Prop where
  cancels_eq : next.cancelsPairs = session.cancelsPairs
  serving_eq : next.stage.isServing = session.stage.isServing
  runs_iff : ∀ other, other ≠ client → ∀ stage, next.Runs other stage ↔ session.Runs other stage

theorem Session.Spares.of_serving {phase phase' : Phase} {pausing pausing' : Bool}
    (stage_eq : session.stage = .serving phase pausing)
    (stage_eq' : next.stage = .serving phase' pausing')
    (asked_eq : next.stopRequested = session.stopRequested)
    (runs_iff : ∀ other, other ≠ client → ∀ stage, next.Runs other stage ↔ session.Runs other stage) :
    session.Spares client next := by
  constructor
  · rw [cancelsPairs, cancelsPairs, stage_eq, stage_eq', asked_eq]
  · rw [stage_eq, stage_eq', Stage.isServing, Stage.isServing]
  · exact runs_iff

theorem Session.Spares.of_draining {phase phase' : Phase} {failure failure' : Option Failure}
    (stage_eq : session.stage = .draining phase failure)
    (stage_eq' : next.stage = .draining phase' failure')
    (runs_iff : ∀ other, other ≠ client → ∀ stage, next.Runs other stage ↔ session.Runs other stage) :
    session.Spares client next := by
  constructor
  · rw [cancelsPairs, cancelsPairs, stage_eq, stage_eq']
  · rw [stage_eq, stage_eq']
    rfl
  · exact runs_iff

theorem Session.Moves.runs_iff {stage : PairStage} (moves : Moves session label next report)
    (others : ∀ own, label ≠ .pair client own) (kept : label ≠ .drop)
    (unaccepted : label ≠ .accept) : next.Runs client stage ↔ session.Runs client stage := by
  constructor
  · intro runs
    rcases moves.runs_before others runs with before | ⟨accepted, -⟩
    · exact before
    · exact (unaccepted accepted).elim
  · exact moves.runs kept others

/-- A pair takes its steps without a report, and it spares the other clients. -/
theorem Session.Moves.spares_of_pair {own : Pair.Label}
    (moves : Moves session (.pair client own) next report) :
    report = none ∧ session.Spares client next := by
  have kept (other : Nat) (different : other ≠ client) (stage : PairStage) :
      next.Runs other stage ↔ session.Runs other stage := by
    refine moves.runs_iff ?_ nofun nofun
    rintro own' ⟨⟩
    exact different rfl
  cases moves with
  | pairServing stage_eq => exact ⟨rfl, .of_serving stage_eq rfl rfl kept⟩
  | pairDraining stage_eq => exact ⟨rfl, .of_draining stage_eq rfl kept⟩

/-- A client is the last of its phase: no other pair is at work or waits to be joined. -/
def Session.Alone (session : Session) (client : Nat) : Prop :=
  (∀ other, other ≠ client → ∀ stage, ¬ session.Runs other stage) ∧
    ∀ other, other ≠ client → ∀ exit, ¬ session.Waits other exit

/-- Once a pair has been joined that was the last one, the phase is quiet. -/
theorem isQuiet_iff_alone {phase joined : Phase} {exit : Exit} {pausing : Bool}
    (tidy : session.Tidy) (stage_eq : session.stage = .serving phase pausing)
    (join_eq : phase.join? client = some (exit, joined)) :
    joined.isQuiet = true ↔ session.Alone client := by
  have waits := (waits_iff_of_serving stage_eq).2 (join?_eq_some join_eq).1
  rw [Phase.isQuiet, Bool.and_eq_true, List.isEmpty_iff, List.isEmpty_iff]
  obtain ⟨waiting, rfl⟩ := join?_eq_some join_eq
  constructor
  · rintro ⟨nobody, none_⟩
    constructor
    · intro other _ stage runs
      rcases (runs_iff_of_serving stage_eq).1 runs with ⟨pair, found, -⟩
      exact Phase.running_ne_nil found nobody
    · intro other different exit' waits'
      rw [waits_iff_of_serving stage_eq] at waits'
      have left : (other, exit') ∈ phase.ended.filter (·.1 != client) :=
        List.mem_filter.2 ⟨waits', bne_iff_ne.2 different⟩
      exact List.ne_nil_of_mem left none_
  · rintro ⟨nobody, none_⟩
    constructor
    · refine List.eq_nil_iff_forall_not_mem.2 fun pair running => ?_
      rcases Phase.exists_pair?_of_mem running with ⟨first, found⟩
      have runs := (runs_iff_of_serving stage_eq).2 ⟨first, found, rfl⟩
      by_cases same : pair.client = client
      · exact runs.not_waits tidy (same ▸ waits)
      · exact nobody pair.client same _ runs
    · refine List.eq_nil_iff_forall_not_mem.2 fun last left => ?_
      rcases List.mem_filter.1 left with ⟨waits', different⟩
      exact none_ last.1 (bne_iff_ne.1 different) last.2 ((waits_iff_of_serving stage_eq).2 waits')

/-- A client waits with one exit. -/
theorem eq_of_join? {phase joined : Phase} {exit exit' : Exit} (tidy : session.Tidy)
    (phase_eq : session.phase? = some phase)
    (join_eq : phase.join? client = some (exit, joined)) (waits : session.Waits client exit') :
    exit' = exit := by
  rcases waits with ⟨phase', phase_eq', waiting⟩
  cases phase_eq.symm.trans phase_eq'
  rcases (tidy phase phase_eq).eq_or_mem_ended join_eq waiting with same | still
  · exact congrArg Prod.snd same
  · obtain ⟨-, rfl⟩ := join?_eq_some join_eq
    simp at still

/-- A pair that is joined spares the other clients and changes no state, unless it lost its
channel or no channel was opened for it. -/
theorem Session.Moves.spares_of_join {exit : Exit}
    (moves : Moves session (.join client) next report) (tidy : session.Tidy)
    (waits : session.Waits client exit)
    (harmless : exit = .closed ∨ exit = .localFailed ∨ exit = .cancelled) :
    report = none ∧ session.Spares client next := by
  have kept (other : Nat) (_ : other ≠ client) (stage : PairStage) :
      next.Runs other stage ↔ session.Runs other stage :=
    moves.runs_iff nofun nofun nofun
  cases moves with
  | joinLost stage_eq join_eq | joinLastUnopened stage_eq join_eq
  | joinUnopened stage_eq join_eq =>
      cases eq_of_join? tidy (phase?_of_serving stage_eq) join_eq waits
      simp at harmless
  | joinEnded stage_eq => exact ⟨rfl, .of_serving stage_eq rfl rfl kept⟩
  | joinDraining stage_eq => exact ⟨rfl, .of_draining stage_eq rfl kept⟩

/-- A pair for which no channel was opened is reported when it is joined, and it spares the other
clients, if there are any. -/
theorem Session.Moves.spares_of_unopened {failure : Failure}
    (moves : Moves session (.join client) next report) (tidy : session.Tidy)
    (waits : session.Waits client (.openFailed failure)) (together : ¬ session.Alone client) :
    report = (if session.stage.isServing then some (.state .degraded (some failure)) else none) ∧
      session.Spares client next := by
  have kept (other : Nat) (_ : other ≠ client) (stage : PairStage) :
      next.Runs other stage ↔ session.Runs other stage :=
    moves.runs_iff nofun nofun nofun
  cases moves with
  | joinLost stage_eq join_eq =>
      cases eq_of_join? tidy (phase?_of_serving stage_eq) join_eq waits
  | joinEnded stage_eq join_eq harmless =>
      cases eq_of_join? tidy (phase?_of_serving stage_eq) join_eq waits
      simp at harmless
  | joinLastUnopened stage_eq join_eq quiet =>
      exact (together ((isQuiet_iff_alone tidy stage_eq join_eq).1 quiet)).elim
  | joinUnopened stage_eq join_eq =>
      cases eq_of_join? tidy (phase?_of_serving stage_eq) join_eq waits
      rw [stage_eq]
      exact ⟨rfl, .of_serving stage_eq rfl rfl kept⟩
  | joinDraining stage_eq =>
      rw [stage_eq]
      exact ⟨rfl, .of_draining stage_eq rfl kept⟩

/-- Why a session leaves its serving phase, if it is not torn down. -/
inductive Session.LeavesFor (session : Session) : Label → Prop
  /-- It was asked to stop. -/
  | asked (stopRequested : session.stopRequested = true) : LeavesFor session .heed
  /-- A pair has lost its channel. -/
  | lost {client : Nat} {failure : Failure} (waits : session.Waits client (.remoteFailed failure)) :
      LeavesFor session (.join client)
  /-- No channel was opened for the last pair. -/
  | unopened {client : Nat} {failure : Failure}
      (waits : session.Waits client (.openFailed failure)) (alone : session.Alone client) :
      LeavesFor session (.join client)

/-- A session leaves its serving phase for these reasons and for no others. -/
theorem Session.Moves.isServing_eq_false_iff (moves : Moves session label next report)
    (tidy : session.Tidy) (kept : label ≠ .drop) (serves : session.stage.isServing = true) :
    next.stage.isServing = false ↔ session.LeavesFor label := by
  constructor
  · intro left
    cases moves with
    | stop => exact nomatch serves.symm.trans left
    | heedServing stage_eq asked => exact .asked asked
    | joinLost stage_eq join_eq =>
        exact .lost ((waits_iff_of_serving stage_eq).2 (join?_eq_some join_eq).1)
    | joinLastUnopened stage_eq join_eq quiet =>
        exact .unopened ((waits_iff_of_serving stage_eq).2 (join?_eq_some join_eq).1)
          ((isQuiet_iff_alone tidy stage_eq join_eq).1 quiet)
    | drop => exact (kept rfl).elim
    | accept | acceptFailed | resume | joinUnopened | joinEnded | recover | pairServing | activate =>
        cases left
    | _ => simp_all [Stage.isServing]
  · intro reason
    cases reason with
    | asked => cases moves <;> rfl
    | lost waits =>
        cases moves with
        | joinEnded stage_eq join_eq harmless =>
            cases eq_of_join? tidy (phase?_of_serving stage_eq) join_eq waits
            simp at harmless
        | joinUnopened stage_eq join_eq =>
            cases eq_of_join? tidy (phase?_of_serving stage_eq) join_eq waits
        | _ => rfl
    | unopened waits alone =>
        cases moves with
        | joinEnded stage_eq join_eq harmless =>
            cases eq_of_join? tidy (phase?_of_serving stage_eq) join_eq waits
            simp at harmless
        | joinUnopened stage_eq join_eq busy =>
            cases ((isQuiet_iff_alone tidy stage_eq join_eq).2 alone).symm.trans busy
        | _ => rfl

end Steps

/-! ## Lost channels and cancelled pairs -/

/-- A pair has ended by a read from its channel that failed. -/
def HasLost (start : Session) (history : List Entry) : Prop :=
  ∃ early client reason late middle ended,
    history = early ++ (.pair client (.relay .inbound (.readFailed reason)), none) :: late ∧
      Trail Goes start early middle ∧
        Goes middle (.pair client (.relay .inbound (.readFailed reason)), none) ended ∧
          ended.Waits client (.remoteFailed (Pair.lost middle.forward.destination reason))

/-- The pairs of a session are cancelled for a reason, if there are any. -/
def Excused (start : Session) (history : List Entry) (session : Session) : Prop :=
  ∀ phase failure, session.stage = .draining phase (some failure) →
    HasLost start history ∨ phase.running = []

section Trails

variable {start session next : Session} {history : List Entry} {entry : Entry}

theorem HasLost.onward (lost : HasLost start history) (entry : Entry) :
    HasLost start (history ++ [entry]) := by
  rcases lost with ⟨early, client, reason, late, middle, ended, rfl, trail, step, waits⟩
  exact ⟨early, client, reason, late ++ [entry], middle, ended, by simp, trail, step, waits⟩

/-- A pair that waits to be joined, and that lost its channel, did so by a read that failed. -/
theorem hasLost_of_waits {client : Nat} {failure : Failure}
    (nobody : ¬ start.Waits client (.remoteFailed failure))
    (trail : Trail Goes start history session)
    (waits : session.Waits client (.remoteFailed failure)) : HasLost start history := by
  induction trail with
  | here => exact (nobody waits).elim
  | @onward history middle entry last trail step ih =>
      rcases entry with ⟨label, report⟩
      have moves : Moves middle label last report := step_eq_some_iff.1 step
      rcases moves.waits waits with before | ⟨own, isCancelled, stage, rfl, pairStep⟩
      · exact (ih before).onward _
      · rcases Pair.eq_readFailed_of_step pairStep with ⟨reason, rfl, rfl⟩
        obtain ⟨rfl, -⟩ := moves.spares_of_pair
        exact ⟨history, client, reason, [], middle, last, rfl, trail, step, waits⟩

theorem Excused.move (excused : Excused start history session)
    (nobody : ∀ client failure, ¬ start.Waits client (.remoteFailed failure))
    (trail : Trail Goes start history session) (step : Goes session entry next) :
    Excused start (history ++ [entry]) next := by
  intro phase' failure' stage_eq'
  rcases entry with ⟨label, report⟩
  have moves : Moves session label next report := step_eq_some_iff.1 step
  cases moves with
  | joinLost stage_eq join_eq =>
      have waits := (waits_iff_of_serving stage_eq).2 (join?_eq_some join_eq).1
      exact .inl ((hasLost_of_waits (nobody _ _) trail waits).onward _)
  | joinLastUnopened stage_eq join_eq quiet =>
      cases stage_eq'
      rw [Phase.isQuiet, Bool.and_eq_true, List.isEmpty_iff] at quiet
      exact .inr quiet.1
  | pairDraining stage_eq moves =>
      cases stage_eq'
      rcases excused _ _ stage_eq with lost | nobody
      · exact .inl (lost.onward _)
      · -- There is no pair to take a step.
        rcases moves.exists_pair with ⟨pair, found⟩
        exact (Phase.running_ne_nil found nobody).elim
  | joinDraining stage_eq join_eq =>
      cases stage_eq'
      obtain ⟨-, rfl⟩ := join?_eq_some join_eq
      exact (excused _ _ stage_eq).imp_left fun lost => lost.onward _
  | stop => exact (excused _ _ stage_eq').imp_left fun lost => lost.onward _
  | _ => cases stage_eq'

end Trails

/-! ## The main statement -/

/-- What one client of a session can do to the others, by its history. -/
structure Independent (start : Session) (history : List Entry) (session : Session) : Prop where
  /-- A pair can be cancelled while it is at work, if the session has cancelled its pairs. -/
  cancellable : ∀ client,
    (∃ report next, Goes session (.pair client .cancelled, report) next) ↔
      session.cancelsPairs = true ∧ ∃ stage, session.Runs client stage
  /-- Pairs at work are cancelled only after a request to stop or the loss of a channel. -/
  excused : ∀ client stage, session.Runs client stage → session.cancelsPairs = true →
    session.stopRequested = true ∨ HasLost start history
  /-- Such a request or loss comes before the end of every pair that was cancelled. -/
  cancelled : ∀ early client report late,
    history = early ++ (.pair client .cancelled, report) :: late →
      (start.stopRequested = true ∨ .stop ∈ early.map (·.1)) ∨ HasLost start early
  /-- A pair loses its channel only by a read that fails. -/
  losses : ∀ client own report next failure, Goes session (.pair client own, report) next →
    next.Waits client (.remoteFailed failure) → ∃ reason, own = .relay .inbound (.readFailed reason)
  /-- A pair takes its steps, and ends in whatever way, without a report, and it spares the
  other clients. -/
  pairs : ∀ client own report next, Goes session (.pair client own, report) next →
    report = none ∧ session.Spares client next
  /-- So does its join, if it was closed or cancelled or its client failed. -/
  joins : ∀ client exit report next, Goes session (.join client, report) next →
    session.Waits client exit → exit = .closed ∨ exit = .localFailed ∨ exit = .cancelled →
      report = none ∧ session.Spares client next
  /-- If no channel was opened for it, its join spares the others too, if there are any.  The
  failure is reported by a session that serves. -/
  unopened : ∀ client failure report next, Goes session (.join client, report) next →
    session.Waits client (.openFailed failure) → ¬ session.Alone client →
      report = (if session.stage.isServing then some (.state .degraded (some failure)) else none) ∧
        session.Spares client next
  /-- The serving phase is left for three reasons, if the session is not torn down. -/
  left_iff : ∀ label report next, session.stage.isServing = true → label ≠ .drop →
    Goes session (label, report) next →
      (next.stage.isServing = false ↔ session.LeavesFor label)

section Main

variable {forward : Forward} {policy : Retry.Policy} {asked : Bool} {history : List Entry}
  {session : Session} {client : Nat}

theorem fresh_not_waits (exit : Exit) : ¬ (fresh forward policy asked).Waits client exit := by
  rintro ⟨phase, served, -⟩
  cases served

theorem excused_of_trail (trail : Trail Goes (fresh forward policy asked) history session) :
    Excused (fresh forward policy asked) history session := by
  induction trail with
  | here => exact nofun
  | onward trail step ih => exact ih.move (fun _ _ => fresh_not_waits _) trail step

/-- A pair at work is cancelled only after a request to stop or the loss of a channel. -/
theorem stopRequested_or_hasLost {stage : PairStage}
    (trail : Trail Goes (fresh forward policy asked) history session)
    (runs : session.Runs client stage) (cancels : session.cancelsPairs = true) :
    session.stopRequested = true ∨ HasLost (fresh forward policy asked) history := by
  cases stage_eq : session.stage with
  | serving phase pausing =>
      rw [cancelsPairs, stage_eq] at cancels
      exact .inl cancels
  | draining phase failure =>
      cases failure with
      | none => exact .inl (endsAsked_of_trail trail (.inl ⟨phase, stage_eq⟩))
      | some failure =>
          rcases excused_of_trail trail phase failure stage_eq with lost | nobody
          · exact .inr lost
          · rcases (runs_iff_of_draining stage_eq).1 runs with ⟨pair, found, -⟩
            exact (Phase.running_ne_nil found nobody).elim
  | _ => simp [cancelsPairs, stage_eq] at cancels

/-- In no run of a session does one client cost another its connection, unless a channel was
lost: its pair may end by the end of the streams, by a failure of its client, by a write to
its channel that fails or because no channel was opened for it. -/
theorem clients_are_independent (trail : Trail Goes (fresh forward policy asked) history session) :
    Independent (fresh forward policy asked) history session := by
  have tidy := tidy_of_trail trail
  constructor
  case cancellable => exact fun client => exists_cancelled_iff
  case excused => exact fun client stage runs cancels => stopRequested_or_hasLost trail runs cancels
  case cancelled =>
    rintro early client report late rfl
    rcases trail.step_at with ⟨middle, later, first, step, -⟩
    rcases exists_cancelled_iff.1 ⟨_, _, step⟩ with ⟨cancels, stage, runs⟩
    exact (stopRequested_or_hasLost first runs cancels).imp_left (stopRequested_iff_of_trail first).1
  case losses =>
    intro client own report next failure step waits
    have moves : Moves session (.pair client own) next report := step_eq_some_iff.1 step
    rcases moves.waits waits with before | ⟨own', _, _, label_eq, pairStep⟩
    · -- A pair that has ended takes no step.
      rcases moves.exists_runs with ⟨stage, runs⟩
      exact (runs.not_waits tidy before).elim
    · cases label_eq
      rcases Pair.eq_readFailed_of_step pairStep with ⟨reason, label_eq, -⟩
      exact ⟨reason, label_eq⟩
  case pairs =>
    intro client own report next step
    have moves : Moves session (.pair client own) next report := step_eq_some_iff.1 step
    exact moves.spares_of_pair
  case joins =>
    intro client exit report next step waits harmless
    have moves : Moves session (.join client) next report := step_eq_some_iff.1 step
    exact moves.spares_of_join tidy waits harmless
  case unopened =>
    intro client failure report next step waits together
    have moves : Moves session (.join client) next report := step_eq_some_iff.1 step
    exact moves.spares_of_unopened tidy waits together
  case left_iff =>
    intro label report next serves kept step
    have moves : Moves session label next report := step_eq_some_iff.1 step
    exact moves.isServing_eq_false_iff tidy kept serves

end Main

/-- A session with four clients.  Nobody opens a channel for the third, a write fails for the
first, and both are joined while the others go on.  Then the second loses its channel, and
the last is cancelled. -/
def crowdedLabels : List Label :=
  [.bound, .announce, .call, .opened, .activate, .accept, .accept, .accept, .pair 0 .start,
    .pair 1 .start, .pair 1 .opened, .pair 2 .start,
    .pair 2 (.openFailed (.connectFailed "refused")), .join 2,
    .pair 0 (.relay .outbound (.read [120])), .pair 0 (.relay .outbound (.writeFailed "reset")),
    .join 0, .accept, .pair 3 .start, .pair 1 (.relay .inbound (.readFailed "reset")), .join 1,
    .pair 3 .cancelled]

theorem crowded_clients_are_independent :
    ∃ history session, Trail Goes (fresh sampleForward {} false) history session ∧
      session.stopRequested = false ∧ session.Waits 3 .cancelled ∧
        Independent (fresh sampleForward {} false) history session := by
  obtain ⟨history, session, played, unasked, waits⟩ :
      ∃ history session, (fresh sampleForward {} false).play crowdedLabels =
        some (history, session) ∧ session.stopRequested = false ∧ session.Waits 3 .cancelled :=
    ⟨_, _, rfl, rfl, _, rfl, List.mem_singleton_self _⟩
  have trail := trail_of_play played
  exact ⟨history, session, trail, unasked, waits, clients_are_independent trail⟩

end PortTunnel.Tunnel
