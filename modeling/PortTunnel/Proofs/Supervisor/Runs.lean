import PortTunnel.Proofs.Supervisor.Fleet
import PortTunnel.Proofs.Trail
import PortTunnel.Supervisor.Run

/-!
# The moves of a run

The steps of a run as a relation, with one rule for each way in which a run can
go on.  Its own steps change the stage and the registry.  The fleet changes when
one of its sessions or links goes on, when a session is started, when all are
asked to stop, and when the run reports a forward closed itself.
-/

namespace PortTunnel.Supervisor.Run

open Tunnel

/-- What a run reports of a forward that it closes itself. -/
def timeoutReport (run : Run) : Report :=
  .state .closed (some (.shutdownTimeout run.terms.grace))

/-- The steps of a run. -/
inductive Moves (run : Run) : Label → Run → Prop
  | requestShutdown : Moves run .requestShutdown { run with shutdownRequested := true }
  | cancelToken : Moves run .cancelToken run.stopAll
  | fleet {label : Fleet.Label} {fleet : Fleet} (permitted : run.permits label = true)
      (moves : Fleet.Moves run.fleet label fleet) :
      Moves run (.fleet label) { run with fleet := fleet }
  | startAgain {forward : Forward} {left : List Forward}
      (stage_eq : run.stage = .starting (forward :: left)) (known : forward.id ∈ run.registry) :
      Moves run .start { run with stage := .starting left }
  | start {forward : Forward} {left : List Forward}
      (stage_eq : run.stage = .starting (forward :: left)) (unknown : forward.id ∉ run.registry) :
      Moves run .start
        { run with
          stage := .starting left
          fleet := run.fleet.start run.terms.retry run.tokenCancelled forward
          registry := run.registry ++ [forward.id] }
  | started (stage_eq : run.stage = .starting []) :
      Moves run .started { run with stage := .watching }
  | heed (stage_eq : run.stage = .watching)
      (asked : run.shutdownRequested = true ∨ run.tokenCancelled = true) :
      Moves run .heed { run.stopAll with stage := .stopping }
  | join {id : String} (stage_eq : run.stage = .watching ∨ run.stage = .stopping)
      (listed : id ∈ run.registry) (ended : run.isOver id = true) :
      Moves run (.join id) { run with registry := run.registry.filter (· != id) }
  | allClosed (stage_eq : run.stage = .watching) (none_left : run.registry = []) :
      Moves run .allJoined { run with stage := .finishing .allSessionsClosed [] }
  | allStopped (stage_eq : run.stage = .stopping) (none_left : run.registry = []) :
      Moves run .allJoined { run with stage := .finishing .shutdownRequested [] }
  | deadline (stage_eq : run.stage = .stopping) (some_left : run.registry ≠ []) :
      Moves run .deadline
        { run with stage := .sweeping run.registry none [], tearingDown := true }
  | inspectClosed {left timeouts : List String} {id : String}
      (stage_eq : run.stage = .sweeping left none timeouts) (listed : id ∈ left)
      (closed : run.fleet.ShowsClosed id) :
      Moves run (.inspect id)
        { run with stage := .sweeping (left.filter (· != id)) none timeouts }
  | inspectOpen {left timeouts : List String} {id : String}
      (stage_eq : run.stage = .sweeping left none timeouts) (listed : id ∈ left)
      (unclosed : ¬ run.fleet.ShowsClosed id) :
      Moves run (.inspect id)
        { run with stage := .sweeping (left.filter (· != id)) (some id) timeouts }
  | forceClosed {left timeouts : List String} {id : String}
      (stage_eq : run.stage = .sweeping left (some id) timeouts) :
      Moves run .forceClosed
        { run with
          stage := .sweeping left none (timeouts ++ [id])
          fleet := run.fleet.report id (some run.timeoutReport) }
  | swept {timeouts : List String} (stage_eq : run.stage = .sweeping [] none timeouts) :
      Moves run .swept
        { run with stage := .finishing .shutdownRequested (timeouts.mergeSort (· ≤ ·)) }
  | finish {exit : RunExit} {timeouts : List String}
      (stage_eq : run.stage = .finishing exit timeouts) :
      Moves run .finish { run with stage := .over ⟨exit, timeouts, run.fleet.snapshot⟩ }

/-- A step of the function is a move. -/
theorem Moves.of_step {run next : Run} {label : Label} :
    run.step label = some next → Moves run label next := by
  fun_cases Run.step run label <;> intro step
  case case1 => cases step; exact .requestShutdown
  case case2 => cases step; exact .cancelToken
  case case3 label permitted =>
    obtain ⟨fleet, step_eq, rfl⟩ := Option.map_eq_some_iff.1 step
    exact .fleet permitted (Fleet.step_eq_some_iff.1 step_eq)
  case case5 forward left stage_eq known =>
    cases step
    exact .startAgain stage_eq (List.contains_iff_mem.1 known)
  case case6 forward left stage_eq unknown =>
    cases step
    exact .start stage_eq fun known => unknown (List.contains_iff_mem.2 known)
  case case7 stage_eq => cases step; exact .started stage_eq
  case case8 stage_eq asked =>
    cases step
    exact .heed stage_eq (Bool.or_eq_true_iff.1 asked)
  case case10 id stage_eq joins =>
    cases step
    obtain ⟨listed, ended⟩ := Bool.and_eq_true_iff.1 joins
    exact .join (.inl stage_eq) (List.contains_iff_mem.1 listed) ended
  case case12 id stage_eq joins =>
    cases step
    obtain ⟨listed, ended⟩ := Bool.and_eq_true_iff.1 joins
    exact .join (.inr stage_eq) (List.contains_iff_mem.1 listed) ended
  case case14 stage_eq none_left =>
    cases step
    exact .allClosed stage_eq (List.isEmpty_iff.1 none_left)
  case case16 stage_eq none_left =>
    cases step
    exact .allStopped stage_eq (List.isEmpty_iff.1 none_left)
  case case19 stage_eq some_left =>
    cases step
    exact .deadline stage_eq fun none_left => some_left (List.isEmpty_iff.2 none_left)
  case case20 left timeouts id stage_eq listed rest closed =>
    cases step
    exact .inspectClosed stage_eq (List.contains_iff_mem.1 listed) closed
  case case21 left timeouts id stage_eq listed rest unclosed =>
    cases step
    exact .inspectOpen stage_eq (List.contains_iff_mem.1 listed) unclosed
  case case23 left id timeouts stage_eq => cases step; exact .forceClosed stage_eq
  case case24 timeouts stage_eq => cases step; exact .swept stage_eq
  case case25 exit timeouts stage_eq => cases step; exact .finish stage_eq
  all_goals cases step

/-- A move is a step of the function. -/
theorem Moves.step {run next : Run} {label : Label} (moves : Moves run label next) :
    run.step label = some next := by
  cases moves with
  | requestShutdown => simp [Run.step]
  | cancelToken => simp [Run.step]
  | fleet permitted moves =>
      simp [Run.step, permitted, Fleet.step_eq_some_iff.2 moves]
  | join stage_eq listed ended =>
      rcases stage_eq with stage_eq | stage_eq
      · simp [Run.step, stage_eq, listed, ended]
      · simp [Run.step, stage_eq, listed, ended]
  | heed stage_eq asked => simp [Run.step, stage_eq, asked, goOn, stopAll]
  | inspectClosed stage_eq listed closed =>
      simp only [Fleet.ShowsClosed] at closed
      simp [Run.step, stage_eq, listed, closed, goOn]
  | inspectOpen stage_eq listed unclosed =>
      simp only [Fleet.ShowsClosed] at unclosed
      simp [Run.step, stage_eq, listed, unclosed, goOn]
  | _ => simp_all [Run.step, goOn, timeoutReport]

/-- The relation holds exactly what the step function does. -/
theorem step_eq_some_iff {run next : Run} {label : Label} :
    run.step label = some next ↔ Moves run label next :=
  ⟨Moves.of_step, Moves.step⟩

/-- One step with its label. -/
def Goes (run : Run) (label : Label) (next : Run) : Prop :=
  run.step label = some next

end PortTunnel.Supervisor.Run
