import Mathlib.Data.Set.Card
import PortTunnel.Proofs.Tunnel.Recovery
import PortTunnel.Proofs.Tunnel.Streak
import PortTunnel.Proofs.Tunnel.Clients

/-!
# Counting connections

A session counts the clients that it has accepted, and among them the ones whose
pairs have not ended.  The second count goes up where a client is accepted and
down where a pair ends, and both happen while other pairs go on.

Here the two counts are told from the history: how many clients were accepted,
and which of their pairs have ended at some time.  Pairs exist only while the
session serves or waits for them, so nothing is counted as live when the session
connects, rests or closes.
-/

namespace PortTunnel.Tunnel

open Session

/-! ## What a history tells -/

/-- The number of clients that were accepted. -/
def acceptances (history : List Entry) : Nat :=
  (history.filter (·.1 == .accept)).length

/-- The pair of a client has ended at some time. -/
def HasEnded (start : Session) (history : List Entry) (client : Nat) : Prop :=
  ∃ early late middle exit,
    history = early ++ late ∧ Trail Goes start early middle ∧ middle.Waits client exit

theorem acceptances_concat (history : List Entry) (entry : Entry) :
    acceptances (history ++ [entry]) =
      if entry.1 = .accept then acceptances history + 1 else acceptances history := by
  by_cases accepted : entry.1 = .accept <;> simp [acceptances, accepted]

/-- A pair that has ended did so before the last step, or it waits to be joined after it. -/
theorem hasEnded_concat_iff {start session next : Session} {history : List Entry} {entry : Entry}
    {client : Nat} (trail : Trail Goes start history session) (step : Goes session entry next) :
    HasEnded start (history ++ [entry]) client ↔
      HasEnded start history client ∨ ∃ exit, next.Waits client exit := by
  constructor
  · rintro ⟨early, late, middle, exit, history_eq, first, waits⟩
    rcases List.eq_nil_or_concat late with rfl | ⟨front, last, rfl⟩
    · rw [List.append_nil] at history_eq
      subst history_eq
      exact .inr ⟨exit, eq_of_trails first (trail.onward step) ▸ waits⟩
    · rw [List.concat_eq_append, ← List.append_assoc] at history_eq
      obtain ⟨rfl, -⟩ := List.append_inj' history_eq rfl
      exact .inl ⟨early, front, middle, exit, rfl, first, waits⟩
  · rintro (⟨early, late, middle, exit, rfl, first, waits⟩ | ⟨exit, waits⟩)
    · exact ⟨early, late ++ [entry], middle, exit, by simp, first, waits⟩
    · exact ⟨history ++ [entry], [], next, exit, by simp, trail.onward step, waits⟩

/-- A pair that waits to be joined has ended. -/
theorem HasEnded.of_waits {start session : Session} {history : List Entry} {client : Nat}
    {exit : Exit} (trail : Trail Goes start history session) (waits : session.Waits client exit) :
    HasEnded start history client :=
  ⟨history, [], session, exit, by simp, trail, waits⟩

/-- No pair has ended by a step after which none waits but those before. -/
theorem hasEnded_concat_iff_of_waited {start session next : Session} {history : List Entry}
    {entry : Entry} {client : Nat} (trail : Trail Goes start history session)
    (step : Goes session entry next)
    (waited : ∀ exit, next.Waits client exit → session.Waits client exit) :
    HasEnded start (history ++ [entry]) client ↔ HasEnded start history client := by
  rw [hasEnded_concat_iff trail step]
  constructor
  · rintro (before | ⟨exit, waits⟩)
    · exact before
    · exact .of_waits trail (waited exit waits)
  · exact .inl

/-- No pair ends by a step that is not its own. -/
theorem hasEnded_of_hasEnded_concat {start session next : Session} {history : List Entry}
    {label : Label} {report : Option Report} {client : Nat}
    (trail : Trail Goes start history session) (moves : Moves session label next report)
    (others : ∀ own, label ≠ .pair client own)
    (ended : HasEnded start (history ++ [(label, report)]) client) :
    HasEnded start history client := by
  rcases (hasEnded_concat_iff trail moves.goes).1 ended with before | ⟨exit, waits⟩
  · exact before
  · rcases moves.waits waits with waited | ⟨own, -, -, label_eq, -⟩
    · exact .of_waits trail waited
    · exact (others own label_eq).elim

/-! ## How a step changes the counts -/

/-- The clients whose pairs are at work. -/
def Phase.busy (phase : Phase) : List Nat :=
  phase.running.map (·.client)

/-- The clients whose pairs are at work, if the session has any. -/
def Session.busy (session : Session) : List Nat :=
  match session.phase? with
  | some phase => phase.busy
  | none => []

theorem Phase.busy_setStage (phase : Phase) (client : Nat) (stage : PairStage) :
    (phase.setStage client stage).busy = phase.busy := by
  unfold busy setStage
  rw [List.map_map]
  apply List.map_congr_left
  intro pair _
  simp only [Function.comp_apply]
  split <;> rfl

theorem Phase.busy_finish (phase : Phase) (client : Nat) (exit : Exit) :
    (phase.finish client exit).busy = phase.busy.filter (· != client) := by
  simp [busy, finish, List.filter_map, Function.comp_def]

theorem Phase.busy_of_isQuiet {phase : Phase} (quiet : phase.isQuiet = true) : phase.busy = [] := by
  simp only [isQuiet, Bool.and_eq_true, List.isEmpty_iff] at quiet
  rw [busy, quiet.1, List.map_nil]

theorem Session.busy_of_serving {session : Session} {phase : Phase} {pausing : Bool}
    (stage_eq : session.stage = .serving phase pausing) : session.busy = phase.busy := by
  rw [busy, phase?, stage_eq]

theorem Session.busy_of_draining {session : Session} {phase : Phase} {failure : Option Failure}
    (stage_eq : session.stage = .draining phase failure) : session.busy = phase.busy := by
  rw [busy, phase?, stage_eq]

theorem Session.Runs.mem_busy {session : Session} {client : Nat} {stage : PairStage}
    (runs : session.Runs client stage) : client ∈ session.busy := by
  obtain ⟨phase, pair, served, found, -⟩ := runs
  obtain ⟨running, rfl⟩ := Phase.mem_of_pair? found
  rw [busy, served]
  exact List.mem_map_of_mem running

/-- How a step of one pair changes who is at work. -/
inductive PhaseShift (session : Session) (client : Nat) (phase phase' : Phase)
    (counters : Status.Counters) : Prop
  | idle (busy_eq : phase'.busy = phase.busy) (ended_eq : phase'.ended = phase.ended)
      (live_eq : counters.live = session.counters.live) :
      PhaseShift session client phase phase' counters
  | ended {exit : Exit} (member : client ∈ phase.busy)
      (busy_eq : phase'.busy = phase.busy.filter (· != client))
      (ended_eq : phase'.ended = phase.ended ++ [(client, exit)])
      (live_eq : counters.live = session.counters.live - 1) :
      PhaseShift session client phase phase' counters

theorem Session.PairMoves.shift {session : Session} {phase phase' : Phase} {isCancelled : Bool}
    {client calls : Nat} {label : Pair.Label} {counters : Status.Counters}
    (moves : PairMoves session phase isCancelled client label phase' calls counters) :
    PhaseShift session client phase phase' counters := by
  cases moves with
  | ended found =>
      obtain ⟨running, rfl⟩ := Phase.mem_of_pair? found
      exact .ended (List.mem_map_of_mem running) (Phase.busy_finish _ _ _) rfl rfl
  | silent | called => exact .idle (Phase.busy_setStage _ _ _) rfl rfl
  | opened => exact .idle (Phase.busy_setStage phase _ _) rfl rfl
  | @carried _ _ direction =>
      cases direction <;> exact .idle (Phase.busy_setStage _ _ _) rfl rfl

/-- How a step changes who is at work and what is counted: it may leave all of this alone,
accept a client, or end the pair of one. -/
inductive Shift (session next : Session) : Label → Prop
  | idle {label : Label} (busy_eq : next.busy = session.busy)
      (connections_eq : next.counters.connections = session.counters.connections)
      (live_eq : next.counters.live = session.counters.live) (other : label ≠ .accept)
      (waited : ∀ client exit, next.Waits client exit → session.Waits client exit) :
      Shift session next label
  | accepted {phase : Phase} (stage_eq : session.stage = .serving phase false)
      (stage_eq' : next.stage = .serving (phase.accept session.counters.connections) false)
      (connections_eq : next.counters.connections = session.counters.connections + 1)
      (live_eq : next.counters.live = session.counters.live + 1) :
      Shift session next .accept
  | ended {client : Nat} {own : Pair.Label} {exit : Exit} (member : client ∈ session.busy)
      (busy_eq : next.busy = session.busy.filter (· != client))
      (connections_eq : next.counters.connections = session.counters.connections)
      (live_eq : next.counters.live = session.counters.live - 1)
      (waits_iff : ∀ other exit', next.Waits other exit' ↔
        session.Waits other exit' ∨ other = client ∧ exit' = exit) :
      Shift session next (.pair client own)

section Shifting

variable {session next : Session} {label : Label} {report : Option Report}

theorem Shift.of_pair {phase phase' : Phase} {client : Nat} {own : Pair.Label}
    (phase_eq : session.phase? = some phase) (phase_eq' : next.phase? = some phase')
    (connections_eq : next.counters.connections = session.counters.connections)
    (shift : PhaseShift session client phase phase' next.counters) :
    Shift session next (.pair client own) := by
  have busy_eq : session.busy = phase.busy := by rw [busy, phase_eq]
  have busy_eq' : next.busy = phase'.busy := by rw [busy, phase_eq']
  have waits_iff {other : Nat} {exit : Exit} :
      session.Waits other exit ↔ (other, exit) ∈ phase.ended := by simp [Waits, phase_eq]
  have waits_iff' {other : Nat} {exit : Exit} :
      next.Waits other exit ↔ (other, exit) ∈ phase'.ended := by simp [Waits, phase_eq']
  cases shift with
  | idle same ended_eq live_eq =>
      rw [← busy_eq, ← busy_eq'] at same
      refine .idle same connections_eq live_eq (by simp) ?_
      intro other exit waits
      rw [waits_iff, ← ended_eq]
      exact waits_iff'.1 waits
  | @ended exit member fewer ended_eq live_eq =>
      rw [← busy_eq] at member
      rw [← busy_eq, ← busy_eq'] at fewer
      have joins (other : Nat) (exit' : Exit) : next.Waits other exit' ↔
          session.Waits other exit' ∨ other = client ∧ exit' = exit := by
        rw [waits_iff, waits_iff', ended_eq, List.mem_append, List.mem_singleton, Prod.mk.injEq]
      exact .ended member fewer connections_eq live_eq joins

/-- A session that has no clients before and none after leaves all as it is. -/
theorem Shift.unserved {label : Label} (phase_eq : session.phase? = none)
    (noClients : ∀ phase, next.phase? = some phase → phase.clients = [])
    (connections_eq : next.counters.connections = session.counters.connections)
    (live_eq : next.counters.live = session.counters.live) (other : label ≠ .accept) :
    Shift session next label := by
  apply Shift.idle
  case busy_eq =>
    rw [busy, busy, phase_eq]
    cases served : next.phase? with
    | none => rfl
    | some phase => exact (List.append_eq_nil_iff.1 (noClients phase served)).1
  case connections_eq => exact connections_eq
  case live_eq => exact live_eq
  case other => exact other
  case waited =>
    rintro client exit ⟨phase, served, waiting⟩
    have ended_eq := (List.append_eq_nil_iff.1 (noClients phase served)).2
    rw [List.map_eq_nil_iff.1 ended_eq] at waiting
    cases waiting

theorem Session.Moves.shift (moves : Moves session label next report) (kept : label ≠ .drop) :
    Shift session next label := by
  cases moves with
  | stop => exact .idle rfl rfl rfl (by simp) fun _ _ => id
  | accept stage_eq => exact .accepted stage_eq rfl rfl rfl
  | pairServing stage_eq moves =>
      exact .of_pair (by rw [phase?, stage_eq]) rfl moves.connections_eq moves.shift
  | pairDraining stage_eq moves =>
      exact .of_pair (by rw [phase?, stage_eq]) rfl moves.connections_eq moves.shift
  | heedServing stage_eq | acceptFailed stage_eq | resume stage_eq | recover stage_eq =>
      refine .idle (busy_of_serving stage_eq).symm rfl rfl (by simp) ?_
      rintro client exit ⟨_, ⟨⟩, waiting⟩
      exact (waits_iff_of_serving stage_eq).2 waiting
  | joinLost stage_eq join_eq | joinLastUnopened stage_eq join_eq | joinUnopened stage_eq join_eq
  | joinEnded stage_eq join_eq =>
      obtain ⟨-, rfl⟩ := join?_eq_some join_eq
      refine .idle (busy_of_serving stage_eq).symm rfl rfl (by simp) ?_
      rintro client exit ⟨_, ⟨⟩, waiting⟩
      exact (waits_iff_of_serving stage_eq).2 (List.mem_of_mem_filter waiting)
  | joinDraining stage_eq join_eq =>
      obtain ⟨-, rfl⟩ := join?_eq_some join_eq
      refine .idle (busy_of_draining stage_eq).symm rfl rfl (by simp) ?_
      rintro client exit ⟨_, ⟨⟩, waiting⟩
      exact (waits_iff_of_draining stage_eq).2 (List.mem_of_mem_filter waiting)
  | drainedFailed stage_eq quiet | drainedAsked stage_eq quiet =>
      refine .idle ?_ rfl rfl (by simp) ?_
      · exact ((busy_of_draining stage_eq).trans (Phase.busy_of_isQuiet quiet)).symm
      · rintro client exit ⟨_, ⟨⟩, -⟩
  | activate stage_eq =>
      refine .unserved (by rw [phase?, stage_eq]) ?_ rfl rfl (by simp)
      rintro _ ⟨⟩
      rfl
  | bound stage_eq | refused stage_eq | announce stage_eq | call stage_eq | opened stage_eq
  | openFailed stage_eq | heedConnecting stage_eq | degrade stage_eq | giveUp stage_eq
  | schedule stage_eq | wake stage_eq | heedResting stage_eq | close stage_eq =>
      exact .unserved (by rw [phase?, stage_eq]) (by rintro _ ⟨⟩) rfl rfl (by simp)
  | drop => exact (kept rfl).elim

/-- Nothing is counted when a session is torn down, nor after that. -/
theorem Session.Moves.counters_eq_of_dropped (moves : Moves session label next report)
    (dropped : next.stage = .dropped) : next.counters = session.counters := by
  cases moves with
  | stop | drop => rfl
  | _ => cases dropped

end Shifting

/-! ## The counts along a trail -/

/-- What the counters of a session say about its clients. -/
structure Counts (start : Session) (history : List Entry) (session : Session) : Prop where
  connections_eq : session.counters.connections = acceptances history
  live_eq : session.counters.live = session.busy.length
  /-- The pair of an accepted client is at work or has ended. -/
  accepted_iff : ∀ client, client < session.counters.connections ↔
    client ∈ session.busy ∨ HasEnded start history client
  /-- A pair that is at work has not ended before. -/
  apart : ∀ client ∈ session.busy, ¬ HasEnded start history client

section Counting

variable {start session next : Session} {history : List Entry} {label : Label}
  {report : Option Report}

theorem Session.Tidy.nodup_busy (tidy : session.Tidy) : session.busy.Nodup := by
  unfold busy
  cases served : session.phase? with
  | none => exact List.nodup_nil
  | some phase => exact (List.nodup_append.1 (tidy phase served).distinct).1

theorem Counts.move (counts : Counts start history session)
    (trail : Trail Goes start history session) (tidy : session.Tidy) (kept : label ≠ .drop)
    (moves : Moves session label next report) :
    Counts start (history ++ [(label, report)]) next := by
  cases moves.shift kept with
  | idle busy_eq connections_eq live_eq other waited =>
      have ended_iff (client : Nat) :
          HasEnded start (history ++ [(label, report)]) client ↔ HasEnded start history client :=
        hasEnded_concat_iff_of_waited trail moves.goes (waited client)
      constructor
      case connections_eq =>
        rw [connections_eq, acceptances_concat, if_neg other, counts.connections_eq]
      case live_eq => rw [live_eq, busy_eq, counts.live_eq]
      case accepted_iff =>
        intro client
        rw [connections_eq, busy_eq, ended_iff, counts.accepted_iff]
      case apart =>
        intro client member
        rw [busy_eq] at member
        rw [ended_iff]
        exact counts.apart client member
  | @accepted phase stage_eq stage_eq' connections_eq live_eq =>
      have busy_eq : next.busy = session.busy ++ [session.counters.connections] := by
        rw [busy_of_serving stage_eq', busy_of_serving stage_eq]
        simp [Phase.busy, Phase.accept]
      have ended_iff (client : Nat) :
          HasEnded start (history ++ [(.accept, report)]) client ↔
            HasEnded start history client := by
        refine hasEnded_concat_iff_of_waited trail moves.goes fun exit waits => ?_
        rw [waits_iff_of_serving stage_eq'] at waits
        exact (waits_iff_of_serving stage_eq).2 waits
      constructor
      case connections_eq =>
        rw [connections_eq, acceptances_concat, if_pos rfl, counts.connections_eq]
      case live_eq =>
        rw [live_eq, busy_eq, counts.live_eq, List.length_append, List.length_singleton]
      case accepted_iff =>
        intro client
        rw [connections_eq, busy_eq, ended_iff, List.mem_append, List.mem_singleton,
          Nat.lt_succ_iff_lt_or_eq, counts.accepted_iff]
        tauto
      case apart =>
        intro client member
        rw [ended_iff]
        rw [busy_eq, List.mem_append, List.mem_singleton] at member
        rcases member with before | rfl
        · exact counts.apart client before
        · intro ended
          exact Nat.lt_irrefl _ ((counts.accepted_iff _).2 (.inr ended))
  | @ended client own exit member busy_eq connections_eq live_eq waits_iff =>
      have fewer : next.busy = session.busy.erase client := by
        rw [busy_eq, tidy.nodup_busy.erase_eq_filter]
      have ended_iff (other : Nat) :
          HasEnded start (history ++ [(.pair client own, report)]) other ↔
            HasEnded start history other ∨ other = client := by
        rw [hasEnded_concat_iff trail moves.goes]
        constructor
        · rintro (before | ⟨exit', waits⟩)
          · exact .inl before
          · rcases (waits_iff other exit').1 waits with before | ⟨same, -⟩
            · exact .inl (.of_waits trail before)
            · exact .inr same
        · rintro (before | same)
          · exact .inl before
          · exact .inr ⟨exit, (waits_iff other exit).2 (.inr ⟨same, rfl⟩)⟩
      constructor
      case connections_eq => rw [connections_eq, acceptances_concat, if_neg (by simp),
          counts.connections_eq]
      case live_eq => rw [live_eq, fewer, List.length_erase_of_mem member, counts.live_eq]
      case accepted_iff =>
        intro other
        rw [connections_eq, busy_eq, ended_iff, counts.accepted_iff, List.mem_filter, bne_iff_ne]
        by_cases same : other = client
        · simp [same, member]
        · simp [same]
      case apart =>
        intro other stays
        rw [busy_eq, List.mem_filter, bne_iff_ne] at stays
        rw [ended_iff]
        rintro (before | same)
        · exact counts.apart other stays.1 before
        · exact stays.2 same

end Counting

section Trails

variable {forward : Forward} {policy : Retry.Policy} {asked : Bool} {history : List Entry}
  {session : Session}

theorem not_hasEnded_nil (client : Nat) : ¬ HasEnded (fresh forward policy asked) [] client := by
  rintro ⟨early, late, middle, exit, history_eq, trail, phase, served, -⟩
  obtain ⟨rfl, -⟩ := List.append_eq_nil_iff.1 history_eq.symm
  rw [trail.eq_of_nil] at served
  cases served

theorem counts_of_trail (trail : Trail Goes (fresh forward policy asked) history session)
    (kept : session.stage ≠ .dropped) : Counts (fresh forward policy asked) history session := by
  induction trail with
  | here =>
      constructor
      case connections_eq => rfl
      case live_eq => rfl
      case accepted_iff =>
        intro client
        constructor
        · exact nofun
        · rintro (busy | ended)
          · cases busy
          · exact (not_hasEnded_nil client ended).elim
      case apart => exact nofun
  | @onward history middle entry last trail step ih =>
      have moves : Moves middle entry.1 last entry.2 := step_eq_some_iff.1 step
      rw [ne_eq, moves.dropped_iff, not_or] at kept
      exact (ih kept.1).move trail (tidy_of_trail trail) kept.2 moves

theorem connections_eq_acceptances
    (trail : Trail Goes (fresh forward policy asked) history session) :
    session.counters.connections = acceptances history := by
  induction trail with
  | here => rfl
  | onward trail step ih =>
      rw [(step_eq_some_iff.1 step).connections_eq, acceptances_concat, ih]
      split <;> rfl

/-- No more clients are live than were accepted, also when the session was torn down. -/
theorem live_le_connections_of_trail
    (trail : Trail Goes (fresh forward policy asked) history session) :
    session.counters.live ≤ session.counters.connections := by
  induction trail with
  | here => exact le_rfl
  | @onward history middle entry last trail step ih =>
      obtain ⟨label, report⟩ := entry
      have moves : Moves middle label last report := step_eq_some_iff.1 step
      by_cases torn : label = .drop
      · rw [moves.counters_eq_of_dropped (moves.dropped_iff.2 (.inr torn))]
        exact ih
      · cases moves.shift torn <;> omega

/-- What the counters of a session say, as its history tells it, and how they change. -/
structure Accounted (start : Session) (history : List Entry) (session : Session) : Prop where
  /-- All clients are counted that were accepted. -/
  connections_eq : session.counters.connections = acceptances history
  /-- Those of them are live whose pairs have not ended. -/
  live_eq : session.counters.live =
    {client | client < acceptances history ∧ ¬ HasEnded start history client}.ncard
  /-- Clients are accepted while serving.  They are numbered in this order, and their pairs
  begin at once. -/
  accepts : ∀ report next, Goes session (.accept, report) next →
    ∃ phase, session.stage = .serving phase false ∧
      next.Runs (acceptances history) (.waiting phase.standby)
  /-- Whenever a pair ends, in whatever way, there is a live client to be taken off. -/
  ends : ∀ client own report next exit, Goes session (.pair client own, report) next →
    next.Waits client exit → next.counters.live + 1 = session.counters.live
  /-- Nobody is live when the session reports that it connects, that it is degraded after
  serving, that it will retry or that it has closed. -/
  quiet : ∀ label report next, Goes session (label, some report) next →
    (report.state? = some .connecting ∨
      (report.state? = some .degraded ∧ ∀ phase pausing, session.stage ≠ .serving phase pausing) ∨
      report.retry? ≠ none ∨ report.state? = some .closed) →
    session.counters.live = 0 ∧ next.counters.live = 0

theorem Counts.live_eq_zero {start : Session} (counts : Counts start history session)
    (phase_eq : session.phase? = none) : session.counters.live = 0 := by
  rw [counts.live_eq, busy, phase_eq, List.length_nil]

/-- In every state of a session that has not been torn down, its counters count the clients that
it accepted, and those whose pairs have not ended.  No end of a pair finds the second count at
zero, and it is zero at each report outside serving. -/
theorem every_client_is_accounted
    (trail : Trail Goes (fresh forward policy asked) history session)
    (kept : session.stage ≠ .dropped) :
    Accounted (fresh forward policy asked) history session := by
  have counts := counts_of_trail trail kept
  have nodup := (tidy_of_trail trail).nodup_busy
  constructor
  case connections_eq => exact counts.connections_eq
  case live_eq =>
    have same : {client | client < acceptances history ∧
        ¬ HasEnded (fresh forward policy asked) history client} =
          (session.busy.toFinset : Set Nat) := by
      ext client
      rw [Set.mem_ofPred_eq, ← counts.connections_eq, counts.accepted_iff, Finset.mem_coe,
        List.mem_toFinset]
      have apart := counts.apart client
      tauto
    rw [same, Set.ncard_coe_finset, List.toFinset_card_of_nodup nodup, counts.live_eq]
  case accepts =>
    intro report next step
    cases step_eq_some_iff.1 step with
    | @accept phase stage_eq =>
        rw [← counts.connections_eq]
        have absent : phase.pair? session.counters.connections = none := by
          refine Option.eq_none_iff_forall_ne_some.2 fun pair found => ?_
          have runs := (runs_iff_of_serving stage_eq).2 ⟨pair, found, rfl⟩
          exact Nat.lt_irrefl _ ((counts.accepted_iff _).2 (.inl runs.mem_busy))
        refine ⟨phase, stage_eq, (runs_iff_of_serving rfl).2 ?_⟩
        rw [Phase.pair?_accept, absent, Option.none_or, if_pos rfl]
        exact ⟨_, rfl, rfl⟩
  case ends =>
    intro client own report next exit step waits
    have moves : Moves session (.pair client own) next report := step_eq_some_iff.1 step
    cases moves.shift nofun with
    | idle busy_eq connections_eq live_eq other waited =>
        -- A pair that had ended before could not have taken the step.
        obtain ⟨stage, runs⟩ := moves.exists_runs
        have ended := HasEnded.of_waits trail (waited client exit waits)
        exact (counts.apart client runs.mem_busy ended).elim
    | @ended _ _ _ member busy_eq connections_eq live_eq waits_iff =>
        have positive : 0 < session.counters.live := by
          rw [counts.live_eq]
          exact List.length_pos_of_mem member
        rw [live_eq]
        exact Nat.sub_add_cancel positive
  case quiet =>
    intro label report next step outside
    have silent (phase_eq : session.phase? = none) : session.counters.live = 0 :=
      counts.live_eq_zero phase_eq
    cases step_eq_some_iff.1 step with
    | refused stage_eq | announce stage_eq | degrade stage_eq | schedule stage_eq
    | close stage_eq =>
        have nobody := silent (by rw [phase?, stage_eq])
        exact ⟨nobody, nobody⟩
    | activate | recover => simp [Report.state?, Report.retry?] at outside
    | joinUnopened stage_eq => simp [Report.state?, Report.retry?, stage_eq] at outside

end Trails

/-- A session with three clients.  One is joined after its client has gone, one has ended
because its channel broke and waits to be joined, and one is still served. -/
def threeClientsLabels : List Label :=
  [.bound, .announce, .call, .opened, .activate, .accept, .accept, .pair 0 .start, .accept,
    .pair 1 .start, .pair 1 .opened, .pair 0 (.relay .outbound (.readFailed "reset")), .join 0,
    .pair 1 (.relay .inbound (.readFailed "reset"))]

theorem three_clients_are_accounted :
    ∃ history session, Trail Goes (fresh sampleForward {} false) history session ∧
      session.stage ≠ .dropped ∧ session.counters.connections = 3 ∧ session.counters.live = 1 ∧
        Accounted (fresh sampleForward {} false) history session := by
  obtain ⟨history, session, played, kept, connections_eq, live_eq⟩ :
      ∃ history session, (fresh sampleForward {} false).play threeClientsLabels =
        some (history, session) ∧ session.stage ≠ .dropped ∧ session.counters.connections = 3 ∧
          session.counters.live = 1 :=
    ⟨_, _, rfl, nofun, rfl, rfl⟩
  have trail := trail_of_play played
  exact ⟨history, session, trail, kept, connections_eq, live_eq,
    every_client_is_accounted trail kept⟩

end PortTunnel.Tunnel
