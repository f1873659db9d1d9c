import PortTunnel.Proofs.Supervisor.Order
import PortTunnel.Proofs.Tunnel.Stopping

/-!
# Runs whose token is cancelled

All sessions listen to one token.  When it is cancelled they stop on their own,
while the run has not taken notice of it yet.  So there is a race: the run may
notice that it is to shut down, or it may join all sessions first and take them to
have closed by chance.

A run says that it was shut down exactly if it took notice.  From the moment when
the token is cancelled both ends are possible, as every session that is asked to
stop can close without the run.
-/

namespace PortTunnel.Supervisor.Run

open Tunnel

/-! ## The exit -/

/-- What a stage tells about whether the run took notice. -/
def FitsNotice (noticed : Prop) : RunStage → Prop
  | .starting _ | .watching => ¬ noticed
  | .stopping | .sweeping _ _ _ => noticed
  | .finishing exit _ => exit = .shutdownRequested ↔ noticed
  | .over report => report.exit = .shutdownRequested ↔ noticed

theorem FitsNotice.move {run next : Run} {labels : List Label} {label : Label}
    (fits : FitsNotice (.heed ∈ labels) run.stage) (moves : Moves run label next) :
    FitsNotice (.heed ∈ labels ++ [label]) next.stage := by
  have same_iff (unheeded : label ≠ .heed) : .heed ∈ labels ++ [label] ↔ .heed ∈ labels := by
    simp [Ne.symm unheeded]
  cases moves with
  | heed => exact List.mem_append_right _ (List.mem_singleton_self _)
  | requestShutdown | cancelToken | fleet | join =>
      rw [same_iff nofun]
      exact fits
  | startAgain stage_eq | start stage_eq | started stage_eq | deadline stage_eq
  | inspectClosed stage_eq | inspectOpen stage_eq | forceClosed stage_eq | finish stage_eq =>
      rw [same_iff nofun]
      rw [stage_eq] at fits
      exact fits
  | allClosed stage_eq =>
      rw [same_iff nofun]
      rw [stage_eq] at fits
      exact ⟨nofun, fun heeded => (fits heeded).elim⟩
  | allStopped stage_eq | swept stage_eq =>
      rw [same_iff nofun]
      rw [stage_eq] at fits
      exact ⟨fun _ => fits, fun _ => rfl⟩

theorem fitsNotice_of_trail {terms : Terms} {sharing : Bool} {forwards : List Forward}
    {labels : List Label} {run : Run}
    (trail : Trail Goes (ofForwards terms sharing forwards) labels run) :
    FitsNotice (.heed ∈ labels) run.stage := by
  induction trail with
  | here => exact List.not_mem_nil
  | onward _ step ih => exact ih.move (step_eq_some_iff.1 step)

/-! ## All sessions can close -/

/-- Once the token is cancelled every session is asked to stop. -/
def Asked (run : Run) : Prop :=
  run.tokenCancelled = true → run.fleet.Every fun session => session.stopRequested = true

section Closing

variable {forwards : List Forward} {run next : Run} {label : Label}

theorem Asked.move (asked : Asked run) (moves : Moves run label next) : Asked next := by
  intro cancelled
  cases moves with
  | fleet permitted moves =>
      apply (asked cancelled).moves moves
      intro id session told after report before goes _
      exact goes.stopRequested_iff.2 (.inl before)
  | cancelToken | heed =>
      intro id session found
      simp only [stopAll, NameMap.get?_mapValues, Option.map_eq_some_iff] at found
      obtain ⟨before, -, rfl⟩ := found
      rfl
  | start => exact (asked cancelled).start cancelled
  | @forceClosed _ _ id => exact (asked cancelled).report id (some run.timeoutReport)
  | _ => exact asked cancelled

/-- A run lets its sessions take steps of their own. -/
theorem goes_of_isOwn {id : String} {session after : Session} {told : Session.Label}
    {report : Option Report} (found : run.fleet.sessions.get? id = some session)
    (moves : Session.Moves session told after report) (own : told.isOwn = true) :
    Goes run (.fleet (.session id told))
      { run with fleet := run.fleet.advance id session after report } := by
  have unanswered : told.isAnswer = false := by
    simp only [Session.Label.isOwn, Bool.and_eq_true, Bool.not_eq_true'] at own
    exact own.1.1
  have permitted : run.permits (.session id told) = true := by
    cases told with
    | stop | drop => cases own
    | _ => rfl
  exact step_eq_some_iff.2 (.fleet permitted (.session unanswered found moves))

/-- A session that is asked to stop can close while nothing else happens in the run. -/
theorem exists_trail_isOver {id : String} {session : Session}
    (found : run.fleet.sessions.get? id = some session) (asked : session.stopRequested = true)
    (present : session.stage ≠ .dropped) :
    ∃ labels fleet, Trail Goes run labels { run with fleet := fleet } ∧ .heed ∉ labels ∧
      ({ run with fleet := fleet } : Run).isOver id = true := by
  induction distance_eq : session.stage.distance using Nat.strongRecOn generalizing run session with
  | ind distance ih =>
      cases isOver_eq : session.isOver with
      | true =>
          exact ⟨[], run.fleet, .here, List.not_mem_nil, by simp [isOver, found, isOver_eq]⟩
      | false =>
          obtain ⟨told, after, report, approaches⟩ := exists_approaches asked isOver_eq
          have step := goes_of_isOwn found approaches.moves approaches.own
          have found' : (run.fleet.advance id session after report).sessions.get? id =
              some after := by
            simp
          obtain ⟨labels, fleet, trail, unheeded, ended⟩ :=
            @ih _ (distance_eq ▸ approaches.nearer)
              { run with fleet := run.fleet.advance id session after report } after found'
              approaches.asked approaches.present rfl
          exact ⟨_, fleet, .cons step trail, by simp [unheeded], ended⟩

/-- Where all sessions are asked to stop the run can come to join all of them. -/
theorem exists_trail_joined (orderly : Orderly forwards run) (asked : Asked run)
    (cancelled : run.tokenCancelled = true)
    (stage_eq : run.stage = .watching ∨ run.stage = .stopping) :
    ∃ labels next, Trail Goes run labels next ∧ .heed ∉ labels ∧ next.stage = run.stage ∧
      next.registry = [] := by
  induction length_eq : run.registry.length using Nat.strongRecOn generalizing run with
  | ind length ih =>
      cases registry_eq : run.registry with
      | nil => exact ⟨[], run, .here, List.not_mem_nil, rfl, registry_eq⟩
      | cons id rest =>
          have listed : id ∈ run.registry := by simp [registry_eq]
          obtain ⟨session, found⟩ := orderly.roster.registered id listed
          have present := orderly.intact (orderly.progress.notTearing stage_eq) id session found
          obtain ⟨closing, fleet, closes, unheeded, ended⟩ :=
            exists_trail_isOver found (asked cancelled id session found) present
          have join : Moves { run with fleet := fleet } (.join id)
              { run with fleet := fleet, registry := run.registry.filter (· != id) } :=
            .join stage_eq listed ended
          have fewer : (run.registry.filter (· != id)).length < length :=
            length_eq ▸ List.length_filter_lt_length_iff_exists.2 ⟨id, listed, by simp⟩
          have orderly' := (closes.preserves orderly fun orderly step =>
            orderly.move (step_eq_some_iff.1 step)).move join
          have asked' := (closes.preserves asked fun asked step =>
            asked.move (step_eq_some_iff.1 step)).move join
          obtain ⟨labels, next, joins, unheeded', stage_eq', empty⟩ :=
            ih _ fewer orderly' asked' cancelled stage_eq rfl
          have trail := closes.trans (.cons (step_eq_some_iff.2 join) joins)
          exact ⟨_, next, trail, by simp [unheeded, unheeded'], stage_eq', empty⟩

/-- A run that starts sessions can come to watch them. -/
theorem exists_trail_watching {left : List Forward} (stage_eq : run.stage = .starting left) :
    ∃ labels next, Trail Goes run labels next ∧ next.stage = .watching ∧
      next.tokenCancelled = run.tokenCancelled := by
  induction left generalizing run with
  | nil => exact ⟨_, _, .single (step_eq_some_iff.2 (.started stage_eq)), rfl, rfl⟩
  | cons forward left ih =>
      obtain ⟨next, moves, next_eq, cancelled_eq⟩ : ∃ next, Moves run .start next ∧
          next.stage = .starting left ∧ next.tokenCancelled = run.tokenCancelled := by
        by_cases known : forward.id ∈ run.registry
        · exact ⟨_, .startAgain stage_eq known, rfl, rfl⟩
        · exact ⟨_, .start stage_eq known, rfl, rfl⟩
      obtain ⟨labels, last, trail, watching, same⟩ := ih next_eq
      exact ⟨_, last, .cons (step_eq_some_iff.2 moves) trail, watching, same.trans cancelled_eq⟩

/-- A watching run whose token is cancelled can end in either way. -/
theorem exists_trail_over (orderly : Orderly forwards run) (asked : Asked run)
    (watching : run.stage = .watching) (cancelled : run.tokenCancelled = true) (exit : RunExit) :
    ∃ labels final report, Trail Goes run labels final ∧ final.stage = .over report ∧
      report.exit = exit := by
  cases exit with
  | allSessionsClosed =>
      obtain ⟨labels, next, joins, -, stage_eq, empty⟩ :=
        exists_trail_joined orderly asked cancelled (.inl watching)
      have leaves := Moves.allClosed (stage_eq.trans watching) empty
      exact ⟨_, _, _, (joins.onward (step_eq_some_iff.2 leaves)).onward
        (step_eq_some_iff.2 (.finish rfl)), rfl, rfl⟩
  | shutdownRequested =>
      have heeds := Moves.heed watching (.inr cancelled)
      obtain ⟨labels, next, joins, -, stage_eq, empty⟩ :=
        exists_trail_joined (orderly.move heeds) (asked.move heeds) rfl (.inr rfl)
      have leaves := Moves.allStopped stage_eq empty
      exact ⟨_, _, _, ((Trail.cons (step_eq_some_iff.2 heeds) joins).onward
        (step_eq_some_iff.2 leaves)).onward (step_eq_some_iff.2 (.finish rfl)), rfl, rfl⟩

end Closing

/-- After the token is cancelled in the course of a run, the run can still end in either way.
It says that it was shut down exactly if it takes notice before it has joined all sessions,
and only then it can be a success. -/
theorem cancelled_run_ends_by_notice {terms : Terms} {sharing : Bool} {forwards : List Forward}
    {labels : List Label} {run : Run}
    (trail : Trail Goes (ofForwards terms sharing forwards) labels run)
    (inProgress : run.stage = .watching ∨ ∃ left, run.stage = .starting left)
    (cancelled : run.tokenCancelled = true) :
    (∀ exit, ∃ more final report, Trail Goes run more final ∧ final.stage = .over report ∧
      report.exit = exit) ∧
      ∀ more final report, Trail Goes run more final → final.stage = .over report →
        (report.exit = .shutdownRequested ↔ .heed ∈ more) ∧
          (report.exitCode = 0 ↔ .heed ∈ more ∧ report.snapshot.isHealthy = true) := by
  have orderly := orderly_of_trail trail
  have asked : Asked run := trail.preserves (fun _ id session found => by cases found)
    fun asked step => asked.move (step_eq_some_iff.1 step)
  constructor
  · intro exit
    rcases inProgress with watching | ⟨left, starting⟩
    · exact exists_trail_over orderly asked watching cancelled exit
    · obtain ⟨starts, middle, first, watching, cancelled_eq⟩ := exists_trail_watching starting
      have orderly' := orderly_of_trail (trail.trans first)
      have asked' : Asked middle := first.preserves asked fun asked step =>
        asked.move (step_eq_some_iff.1 step)
      obtain ⟨rest, final, report, second, stage_eq, exit_eq⟩ :=
        exists_trail_over orderly' asked' watching (cancelled_eq.trans cancelled) exit
      exact ⟨_, final, report, first.trans second, stage_eq, exit_eq⟩
  · intro more final report later stage_eq
    have unheeded : .heed ∉ labels := by
      have fits := fitsNotice_of_trail trail
      rcases inProgress with watching | ⟨left, starting⟩
      · rwa [watching] at fits
      · rwa [starting] at fits
    have exit_iff : report.exit = .shutdownRequested ↔ .heed ∈ more := by
      have fits := fitsNotice_of_trail (trail.trans later)
      rw [stage_eq] at fits
      exact fits.trans (by simp [unheeded])
    constructor
    · exact exit_iff
    · simp [RunReport.exitCode, RunReport.isSuccess, ← exit_iff]

/-- A run whose only forward becomes active. -/
def activeLabels : List Label :=
  let id := Session.sampleForward.id
  [.start, .started, .fleet (.session id .bound), .fleet (.session id .announce),
    .fleet (.session id .call), .fleet (.link "dev" (.establish (id, 0))),
    .fleet (.link "dev" (.established (id, 0) false)), .fleet (.link "dev" (.call (id, 0))),
    .fleet (.link "dev" (.answered (id, 0) (.ok ()))), .fleet (.session id .activate)]

theorem cancelled_active_run_ends_by_notice :
    ∃ run, Trail Goes (ofForwards {} true [Session.sampleForward])
        (activeLabels ++ [.cancelToken]) run ∧
      run.stage = .watching ∧ run.tokenCancelled = true ∧
        ∀ exit, ∃ more final report, Trail Goes run more final ∧ final.stage = .over report ∧
          report.exit = exit := by
  obtain ⟨run, followed, watching, cancelled⟩ :
      ∃ run, follow step (ofForwards {} true [Session.sampleForward])
        (activeLabels ++ [.cancelToken]) = some run ∧
          run.stage = .watching ∧ run.tokenCancelled = true :=
    ⟨_, rfl, rfl, rfl⟩
  have trail := follow_eq_some_iff.1 followed
  exact ⟨run, trail, watching, cancelled,
    (cancelled_run_ends_by_notice trail (.inl watching) cancelled).1⟩

/-- The session of an active forward is asked to stop by nothing but the token, and the run
takes it to have closed by chance. -/
theorem cancelled_active_run_fails :
    ∃ active final report,
      Trail Goes (ofForwards {} true [Session.sampleForward]) activeLabels active ∧
        active.stage = .watching ∧ active.fleet.snapshot.allIn .active = true ∧
          Trail Goes active
            [.cancelToken, .fleet (.session Session.sampleForward.id .heed),
              .fleet (.session Session.sampleForward.id .drained),
              .fleet (.session Session.sampleForward.id .close),
              .join Session.sampleForward.id, .allJoined, .finish]
            final ∧
            final.stage = .over report ∧ report.exit = .allSessionsClosed ∧
              report.snapshot.isHealthy = true ∧ report.exitCode = 1 := by
  refine ⟨_, _, _, follow_eq_some_iff.1 rfl, rfl, rfl, follow_eq_some_iff.1 rfl, rfl, rfl, rfl, rfl⟩

end PortTunnel.Supervisor.Run
