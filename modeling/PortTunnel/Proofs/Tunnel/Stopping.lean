import PortTunnel.Proofs.Tunnel.Clients

/-!
# Sessions that are asked to stop

A session that has been asked to stop can always close by itself, wherever it is.
It needs no answer to a call for that and nobody has to tear it down.  The number
of steps that it is away from its end at most decreases with a suitable next step.
-/

namespace PortTunnel.Tunnel

open Session

/-- Whether a session may follow a label without the cluster and without the run. -/
def Session.Label.isOwn (label : Label) : Bool :=
  !label.isAnswer && label != .stop && label != .drop

/-- The steps that it takes to end the pairs of a phase and to join them. -/
def Phase.burden (phase : Phase) : Nat :=
  2 * phase.running.length + phase.ended.length

/-- A bound on the steps to the end from a stage. -/
def Stage.distance : Stage → Nat
  | .closed | .dropped => 0
  | .ending _ => 1
  | .connecting _ | .resting => 2
  | .announcing | .judging _ => 3
  | .unbound | .failed _ => 4
  | .draining phase _ => phase.burden + 5
  | .serving phase false => phase.burden + 6
  | .serving phase true => phase.burden + 7
  | .connected _ => 7

/-- A pair is cancelled at any stage, if it has been asked to end. -/
theorem Pair.step_cancelled (destination : Destination) (nextCall : Nat) (isCancelled : Bool)
    (stage : PairStage) :
    Pair.step destination nextCall isCancelled stage .cancelled =
      if isCancelled then some (.ends .cancelled) else none := by
  cases stage with
  | waiting channel => cases channel <;> rfl
  | opening | relaying => rfl

/-- A pair that is cancelled ends. -/
theorem Session.PairMoves.of_mem (session : Session) {phase : Phase} {pair : Pair}
    (running : pair ∈ phase.running) :
    ∃ phase' calls counters,
      PairMoves session phase true pair.client .cancelled phase' calls counters ∧
        phase'.burden < phase.burden := by
  obtain ⟨first, found⟩ := Phase.exists_pair?_of_mem running
  have cancelled := Pair.step_cancelled session.forward.destination session.calls true first.stage
  refine ⟨_, _, _, .ended found cancelled, ?_⟩
  have fewer : (phase.running.filter (·.client != pair.client)).length < phase.running.length :=
    List.length_filter_lt_length_iff_exists.2 ⟨pair, running, by simp⟩
  simp only [Phase.burden, Phase.finish, List.length_append, List.length_singleton]
  omega

/-- A pair that ended can be joined. -/
theorem join?_of_mem {phase : Phase} {client : Nat} {exit : Exit}
    (waiting : (client, exit) ∈ phase.ended) :
    ∃ exit' joined, phase.join? client = some (exit', joined) ∧ joined.burden < phase.burden := by
  obtain ⟨first, found⟩ : ∃ first, phase.ended.find? (·.1 == client) = some first := by
    refine Option.isSome_iff_exists.1 (List.find?_isSome.2 ⟨_, waiting, ?_⟩)
    exact beq_self_eq_true client
  refine ⟨first.2, _, by rw [Phase.join?, found], ?_⟩
  have fewer : (phase.ended.filter (·.1 != client)).length < phase.ended.length :=
    List.length_filter_lt_length_iff_exists.2 ⟨_, waiting, by simp⟩
  simp only [Phase.burden]
  omega

/-- A step of its own by which a session that is asked to stop comes nearer to its end. -/
structure Approaches (session : Session) (label : Label) (next : Session)
    (report : Option Report) : Prop where
  moves : Moves session label next report
  own : label.isOwn = true
  asked : next.stopRequested = true
  present : next.stage ≠ .dropped
  nearer : next.stage.distance < session.stage.distance

section Approaching

variable {session next : Session} {label : Label} {report : Option Report}

theorem Session.Moves.approaches (moves : Moves session label next report)
    (asked : session.stopRequested = true) (present : session.stage ≠ .dropped)
    (own : label.isOwn = true) (nearer : next.stage.distance < session.stage.distance) :
    Approaches session label next report := by
  have stays : next.stage ≠ .dropped := by
    intro dropped
    rcases moves.dropped_iff.1 dropped with already | rfl
    · exact present already
    · cases own
  exact ⟨moves, own, moves.stopRequested_iff.2 (.inl asked), stays, nearer⟩

/-- Wherever a session that is asked to stop may be, it has such a step until it is over. -/
theorem exists_approaches (asked : session.stopRequested = true)
    (notOver : session.isOver = false) :
    ∃ label next report, Approaches session label next report := by
  have present : session.stage ≠ .dropped := fun dropped => by simp [isOver, dropped] at notOver
  have nearer {label : Label} {next : Session} {report : Option Report}
      (moves : Moves session label next report) (own : label.isOwn = true)
      (less : next.stage.distance < session.stage.distance) :
      ∃ label next report, Approaches session label next report :=
    ⟨label, next, report, moves.approaches asked present own less⟩
  cases stage_eq : session.stage with
  | unbound => exact nearer (.bound stage_eq) rfl (by simp [stage_eq, Stage.distance])
  | announcing => exact nearer (.announce stage_eq) rfl (by simp [stage_eq, Stage.distance])
  | connecting call =>
      exact nearer (.heedConnecting stage_eq asked) rfl (by simp [stage_eq, Stage.distance])
  | connected channel =>
      exact nearer (.activate stage_eq) rfl (by simp [stage_eq, Stage.distance, Phase.burden])
  | serving phase pausing =>
      cases pausing with
      | true => exact nearer (.resume stage_eq) rfl (by simp [stage_eq, Stage.distance])
      | false =>
          exact nearer (.heedServing stage_eq asked) rfl (by simp [stage_eq, Stage.distance])
  | draining phase failure =>
      -- The pairs end one by one and are joined, and only then the session goes on.
      cases running : phase.running with
      | cons pair pairs =>
          have member : pair ∈ phase.running := by simp [running]
          obtain ⟨phase', calls, counters, moves, less⟩ := PairMoves.of_mem session member
          exact nearer (.pairDraining stage_eq moves) rfl
            (by simpa [stage_eq, Stage.distance] using less)
      | nil =>
          cases ended : phase.ended with
          | cons first rest =>
              obtain ⟨client, exit⟩ := first
              have member : (client, exit) ∈ phase.ended := by simp [ended]
              obtain ⟨exit', joined, join_eq, less⟩ := join?_of_mem member
              exact nearer (.joinDraining stage_eq join_eq) rfl
                (by simpa [stage_eq, Stage.distance] using less)
          | nil =>
              have quiet : phase.isQuiet = true := by simp [Phase.isQuiet, running, ended]
              cases failure with
              | none =>
                  exact nearer (.drainedAsked stage_eq quiet) rfl
                    (by simp [stage_eq, Stage.distance])
              | some failure =>
                  exact nearer (.drainedFailed stage_eq quiet) rfl
                    (by simp [stage_eq, Stage.distance])
  | failed failure => exact nearer (.degrade stage_eq) rfl (by simp [stage_eq, Stage.distance])
  | judging failure =>
      cases tooMuch : session.givesUp failure with
      | true => exact nearer (.giveUp stage_eq tooMuch) rfl (by simp [stage_eq, Stage.distance])
      | false =>
          have schedules : Moves session (.schedule []) _ _ := .schedule stage_eq tooMuch
          exact nearer schedules rfl (by simp [stage_eq, Stage.distance])
  | resting =>
      exact nearer (.heedResting stage_eq asked) rfl (by simp [stage_eq, Stage.distance])
  | ending failure => exact nearer (.close stage_eq) rfl (by simp [stage_eq, Stage.distance])
  | closed | dropped => simp [isOver, stage_eq] at notOver

end Approaching

end PortTunnel.Tunnel
