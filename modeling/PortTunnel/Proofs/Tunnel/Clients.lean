import Mathlib.Data.List.Nodup
import PortTunnel.Proofs.Tunnel.Moves

/-!
# The clients of a session

Clients are numbered as they are accepted, so no two clients of a session have
the same number, and a client who is gone does not come back.  A label of a pair
and an end that waits to be joined therefore belong to one client.

The second half follows one pair while others take their steps: where it is after
a step that is its own, and after one that is not.
-/

namespace PortTunnel.Tunnel

open Session

/-! ## Different clients -/

/-- The clients whose pairs run or wait to be joined. -/
def Phase.clients (phase : Phase) : List Nat :=
  phase.running.map (·.client) ++ phase.ended.map (·.1)

/-- All clients of a phase are different, and each has been counted. -/
structure Phase.Tidy (phase : Phase) (connections : Nat) : Prop where
  distinct : phase.clients.Nodup
  counted : ∀ client ∈ phase.clients, client < connections

namespace Phase

variable {phase joined : Phase} {connections client : Nat} {pair : Pair} {exit : Exit}

@[simp]
theorem clients_setStage (phase : Phase) (client : Nat) (stage : PairStage) :
    (phase.setStage client stage).clients = phase.clients := by
  unfold clients setStage
  rw [List.map_map]
  congr 1
  apply List.map_congr_left
  intro pair _
  simp only [Function.comp_apply]
  split <;> rfl

/-- A pair that is found runs, and it is that of the client. -/
theorem mem_of_pair? (found : phase.pair? client = some pair) :
    pair ∈ phase.running ∧ pair.client = client :=
  ⟨List.mem_of_find?_eq_some found, by simpa using List.find?_some found⟩

theorem running_ne_nil (found : phase.pair? client = some pair) : phase.running ≠ [] :=
  List.ne_nil_of_mem (mem_of_pair? found).1

theorem exists_pair?_of_mem (running : pair ∈ phase.running) :
    ∃ first, phase.pair? pair.client = some first := by
  refine Option.isSome_iff_exists.1 (List.find?_isSome.2 ⟨pair, running, ?_⟩)
  exact beq_self_eq_true pair.client

theorem Tidy.finish (tidy : phase.Tidy connections) (found : phase.pair? client = some pair)
    (exit : Exit) : (phase.finish client exit).Tidy connections := by
  obtain ⟨distinct, counted⟩ := tidy
  obtain ⟨running, rfl⟩ := mem_of_pair? found
  obtain ⟨distinctRunning, distinctEnded, apart⟩ := List.nodup_append.1 distinct
  have runs : pair.client ∈ phase.running.map (·.client) := List.mem_map_of_mem running
  have stayed {other : Nat}
      (stays : other ∈ (phase.running.filter (·.client != pair.client)).map (·.client)) :
      other ∈ phase.running.map (·.client) ∧ other ≠ pair.client := by
    obtain ⟨another, member, rfl⟩ := List.mem_map.1 stays
    obtain ⟨isRunning, different⟩ := List.mem_filter.1 member
    exact ⟨List.mem_map_of_mem isRunning, by simpa using different⟩
  constructor
  case distinct =>
    simp only [clients, Phase.finish, List.map_append, List.map_singleton]
    refine List.nodup_append.2 ⟨?_, ?_, ?_⟩
    · exact distinctRunning.sublist (List.filter_sublist.map _)
    · refine List.nodup_append.2 ⟨distinctEnded, by simp, ?_⟩
      intro other ended last isLast
      obtain rfl := List.mem_singleton.1 isLast
      exact fun same => apart _ runs _ ended same.symm
    · intro other stays ended isEnded
      obtain ⟨isRunning, different⟩ := stayed stays
      rcases List.mem_append.1 isEnded with before | now
      · exact apart _ isRunning _ before
      · obtain rfl := List.mem_singleton.1 now
        exact different
  case counted =>
    intro other member
    simp only [clients, Phase.finish, List.map_append, List.map_singleton] at member
    rcases List.mem_append.1 member with stays | isEnded
    · exact counted _ (List.mem_append_left _ (stayed stays).1)
    · rcases List.mem_append.1 isEnded with before | now
      · exact counted _ (List.mem_append_right _ before)
      · obtain rfl := List.mem_singleton.1 now
        exact counted _ (List.mem_append_left _ runs)

theorem Tidy.join (tidy : phase.Tidy connections)
    (join_eq : phase.join? client = some (exit, joined)) : joined.Tidy connections := by
  obtain ⟨-, rfl⟩ := join?_eq_some join_eq
  have fewer : ((phase.ended.filter (·.1 != client)).map (·.1)).Sublist (phase.ended.map (·.1)) :=
    List.filter_sublist.map _
  constructor
  case distinct => exact tidy.distinct.sublist (fewer.append_left _)
  case counted =>
    intro other member
    apply tidy.counted
    rcases List.mem_append.1 member with running | ended
    · exact List.mem_append_left _ running
    · exact List.mem_append_right _ (fewer.subset ended)

theorem Tidy.accept (tidy : phase.Tidy connections) :
    (phase.accept connections).Tidy (connections + 1) := by
  obtain ⟨distinct, counted⟩ := tidy
  have others {other : Nat} :
      other ∈ (phase.accept connections).clients ↔ other ∈ phase.clients ∨ other = connections := by
    simp only [clients, Phase.accept, List.map_append, List.map_singleton, List.mem_append,
      List.mem_singleton]
    exact or_right_comm
  constructor
  case distinct =>
    have fresh : connections ∉ phase.clients := fun member =>
      Nat.lt_irrefl connections (counted connections member)
    have same : (phase.accept connections).clients.Perm (connections :: phase.clients) := by
      simp only [clients, Phase.accept, List.map_append, List.map_singleton, List.append_assoc,
        List.singleton_append]
      exact List.perm_middle
    exact same.nodup_iff.2 (List.nodup_cons.2 ⟨fresh, distinct⟩)
  case counted =>
    intro other member
    rcases others.1 member with before | rfl
    · exact Nat.lt_succ_of_lt (counted other before)
    · exact Nat.lt_succ_self other

/-- An end that waits is the one that is joined, or it waits still. -/
theorem Tidy.eq_or_mem_ended (tidy : phase.Tidy connections)
    (join_eq : phase.join? client = some (exit, joined)) {other : Nat × Exit}
    (waiting : other ∈ phase.ended) : other = (client, exit) ∨ other ∈ joined.ended := by
  obtain ⟨wasWaiting, rfl⟩ := join?_eq_some join_eq
  by_cases same : other.1 = client
  · have distinctEnded := (List.nodup_append.1 tidy.distinct).2.1
    exact .inl (List.inj_on_of_nodup_map distinctEnded waiting wasWaiting same)
  · exact .inr (List.mem_filter.2 ⟨waiting, by simpa using same⟩)

theorem tidy_of_no_clients {phase : Phase} (noClients : phase.clients = []) (connections : Nat) :
    phase.Tidy connections := by
  constructor
  · rw [noClients]
    exact List.nodup_nil
  · rw [noClients]
    exact nofun

end Phase

/-! ## Along a trail -/

namespace Session

theorem phase?_of_serving {session : Session} {phase : Phase} {pausing : Bool}
    (stage_eq : session.stage = .serving phase pausing) : session.phase? = some phase := by
  rw [phase?, stage_eq]

theorem phase?_of_draining {session : Session} {phase : Phase} {failure : Option Failure}
    (stage_eq : session.stage = .draining phase failure) : session.phase? = some phase := by
  rw [phase?, stage_eq]

/-- The clients of a session are different and counted, while it has any. -/
def Tidy (session : Session) : Prop :=
  ∀ phase, session.phase? = some phase → phase.Tidy session.counters.connections

theorem PairMoves.connections_eq {session : Session} {phase phase' : Phase} {isCancelled : Bool}
    {client calls : Nat} {label : Pair.Label} {counters : Status.Counters}
    (moves : PairMoves session phase isCancelled client label phase' calls counters) :
    counters.connections = session.counters.connections := by
  cases moves with
  | @carried _ _ direction => cases direction <;> rfl
  | _ => rfl

theorem PairMoves.tidy {session : Session} {phase phase' : Phase} {isCancelled : Bool}
    {client calls : Nat} {label : Pair.Label} {counters : Status.Counters}
    (moves : PairMoves session phase isCancelled client label phase' calls counters)
    (tidy : phase.Tidy session.counters.connections) : phase'.Tidy counters.connections := by
  rw [moves.connections_eq]
  cases moves with
  | ended found => exact tidy.finish found _
  | @silent _ stage | @called _ stage | @opened _ stage | @carried _ stage =>
      have same : (phase.setStage client stage).clients = phase.clients :=
        Phase.clients_setStage phase client stage
      constructor
      · exact same.symm ▸ tidy.distinct
      · exact fun other member => tidy.counted other (same ▸ member)

theorem Tidy.move {session next : Session} {label : Label} {report : Option Report}
    (tidy : session.Tidy) (moves : Moves session label next report) : next.Tidy := by
  have served {phase : Phase} {pausing : Bool} (stage_eq : session.stage = .serving phase pausing) :
      phase.Tidy session.counters.connections :=
    tidy phase (by simp [phase?, stage_eq])
  have drained {phase : Phase} {failure : Option Failure}
      (stage_eq : session.stage = .draining phase failure) :
      phase.Tidy session.counters.connections :=
    tidy phase (by simp [phase?, stage_eq])
  cases moves with
  | stop => exact tidy
  | activate =>
      rintro _ ⟨⟩
      exact Phase.tidy_of_no_clients rfl _
  | heedServing stage_eq | acceptFailed stage_eq | resume stage_eq =>
      rintro _ ⟨⟩
      exact served stage_eq
  | recover stage_eq =>
      rintro _ ⟨⟩
      exact ⟨(served stage_eq).distinct, (served stage_eq).counted⟩
  | accept stage_eq =>
      rintro _ ⟨⟩
      exact (served stage_eq).accept
  | joinLost stage_eq join_eq | joinLastUnopened stage_eq join_eq | joinEnded stage_eq join_eq =>
      rintro _ ⟨⟩
      exact (served stage_eq).join join_eq
  | joinUnopened stage_eq join_eq =>
      rintro _ ⟨⟩
      have joined := (served stage_eq).join join_eq
      exact ⟨joined.distinct, joined.counted⟩
  | pairServing stage_eq moves =>
      rintro _ ⟨⟩
      exact moves.tidy (served stage_eq)
  | pairDraining stage_eq moves =>
      rintro _ ⟨⟩
      exact moves.tidy (drained stage_eq)
  | joinDraining stage_eq join_eq =>
      rintro _ ⟨⟩
      exact (drained stage_eq).join join_eq
  | _ => exact nofun

theorem tidy_of_trail {forward : Forward} {policy : Retry.Policy} {asked : Bool}
    {history : List Entry} {session : Session}
    (trail : Trail Goes (fresh forward policy asked) history session) : session.Tidy := by
  refine trail.preserves nofun ?_
  intro state entry later tidy step
  exact tidy.move (step_eq_some_iff.1 step)

/-! ## Pairs that wait to be joined -/

/-- The pair of a client has ended and waits to be joined. -/
def Waits (session : Session) (client : Nat) (exit : Exit) : Prop :=
  ∃ phase, session.phase? = some phase ∧ (client, exit) ∈ phase.ended

theorem waits_iff_of_serving {session : Session} {phase : Phase} {pausing : Bool} {client : Nat}
    {exit : Exit} (stage_eq : session.stage = .serving phase pausing) :
    session.Waits client exit ↔ (client, exit) ∈ phase.ended := by
  simp [Waits, phase?, stage_eq]

theorem waits_iff_of_draining {session : Session} {phase : Phase} {failure : Option Failure}
    {client : Nat} {exit : Exit} (stage_eq : session.stage = .draining phase failure) :
    session.Waits client exit ↔ (client, exit) ∈ phase.ended := by
  simp [Waits, phase?, stage_eq]

theorem PairMoves.mem_ended {session : Session} {phase phase' : Phase} {isCancelled : Bool}
    {mover calls client : Nat} {label : Pair.Label} {counters : Status.Counters} {exit : Exit}
    (moves : PairMoves session phase isCancelled mover label phase' calls counters)
    (waiting : (client, exit) ∈ phase'.ended) :
    (client, exit) ∈ phase.ended ∨
      (mover = client ∧ ∃ stage,
        Pair.step session.forward.destination session.calls isCancelled stage label =
          some (.ends exit)) := by
  cases moves with
  | ended _ step =>
      rcases List.mem_append.1 waiting with before | now
      · exact .inl before
      · cases List.mem_singleton.1 now
        exact .inr ⟨rfl, _, step⟩
  | silent | called | opened | carried => exact .inl waiting

/-- A pair that waits has done so before, or it has ended by this step. -/
theorem Moves.waits {session next : Session} {label : Label} {report : Option Report}
    {client : Nat} {exit : Exit} (moves : Moves session label next report)
    (waits : next.Waits client exit) :
    session.Waits client exit ∨
      ∃ own isCancelled stage, label = .pair client own ∧
        Pair.step session.forward.destination session.calls isCancelled stage own =
          some (.ends exit) := by
  obtain ⟨phase', phase_eq, waiting⟩ := waits
  cases moves with
  | stop => exact .inl ⟨phase', phase_eq, waiting⟩
  | activate =>
      cases phase_eq
      cases waiting
  | heedServing stage_eq | accept stage_eq | acceptFailed stage_eq | resume stage_eq
  | recover stage_eq =>
      cases phase_eq
      exact .inl ((waits_iff_of_serving stage_eq).2 waiting)
  | joinLost stage_eq join_eq | joinLastUnopened stage_eq join_eq | joinUnopened stage_eq join_eq
  | joinEnded stage_eq join_eq =>
      obtain ⟨-, rfl⟩ := join?_eq_some join_eq
      cases phase_eq
      exact .inl ((waits_iff_of_serving stage_eq).2 (List.mem_of_mem_filter waiting))
  | joinDraining stage_eq join_eq =>
      obtain ⟨-, rfl⟩ := join?_eq_some join_eq
      cases phase_eq
      exact .inl ((waits_iff_of_draining stage_eq).2 (List.mem_of_mem_filter waiting))
  | pairServing stage_eq moves =>
      cases phase_eq
      rcases moves.mem_ended waiting with before | ⟨rfl, stage, step⟩
      · exact .inl ((waits_iff_of_serving stage_eq).2 before)
      · exact .inr ⟨_, _, stage, rfl, step⟩
  | pairDraining stage_eq moves =>
      cases phase_eq
      rcases moves.mem_ended waiting with before | ⟨rfl, stage, step⟩
      · exact .inl ((waits_iff_of_draining stage_eq).2 before)
      · exact .inr ⟨_, _, stage, rfl, step⟩
  | _ => cases phase_eq

end Session

/-! ## One pair among others -/

namespace Phase

variable {phase : Phase} {client mover : Nat} {pair : Pair}

theorem pair?_setStage_self (stage : PairStage) (found : phase.pair? client = some pair) :
    (phase.setStage client stage).pair? client = some { pair with stage := stage } := by
  obtain ⟨-, rfl⟩ := mem_of_pair? found
  have unmoved : ((·.client == pair.client) ∘ fun other : Pair =>
      if other.client = pair.client then { other with stage := stage } else other) =
        (·.client == pair.client) := by
    funext other
    simp only [Function.comp_apply]
    split <;> rfl
  unfold pair? at found ⊢
  simp only [setStage, List.find?_map, unmoved, found, Option.map_some, if_true]

theorem pair?_setStage_of_ne (stage : PairStage) (other : mover ≠ client) :
    (phase.setStage mover stage).pair? client = phase.pair? client := by
  have unmoved : ((·.client == client) ∘ fun other : Pair =>
      if other.client = mover then { other with stage := stage } else other) =
        (·.client == client) := by
    funext other
    simp only [Function.comp_apply]
    split <;> rfl
  cases found : phase.pair? client with
  | none =>
      unfold pair? at found ⊢
      simp only [setStage, List.find?_map, unmoved, found, Option.map_none]
  | some pair =>
      obtain ⟨-, rfl⟩ := mem_of_pair? found
      unfold pair? at found ⊢
      simp only [setStage, List.find?_map, unmoved, found, Option.map_some, if_neg other.symm]

theorem pair?_finish_self (exit : Exit) : (phase.finish client exit).pair? client = none := by
  simp [pair?, finish]

theorem pair?_finish_of_ne (exit : Exit) (other : mover ≠ client) :
    (phase.finish mover exit).pair? client = phase.pair? client := by
  have kept (pair : Pair) :
      decide ((pair.client != mover) = true ∧ (pair.client == client) = true) =
        (pair.client == client) := by
    by_cases same : pair.client = client
    · simp [same, other.symm]
    · simp [same]
  unfold pair?
  simp only [finish, List.find?_filter, kept]

theorem pair?_accept (newcomer : Nat) :
    (phase.accept newcomer).pair? client =
      (phase.pair? client).or
        (if newcomer = client then some ⟨newcomer, .waiting phase.standby⟩ else none) := by
  by_cases same : newcomer = client <;> simp [pair?, accept, same]

end Phase

/-- The bytes that have been counted for a direction. -/
def bytesCounted (counters : Status.Counters) : Direction → Nat
  | .outbound => counters.sent
  | .inbound => counters.received

/-- The bytes that are counted for a direction when a pair has come to an outcome. -/
def Pair.Outcome.bytes : Pair.Outcome → Direction → Nat
  | .continues _ (.carried direction count), other => if direction = other then count else 0
  | _, _ => 0

/-- The pair of a client is at work. -/
def Session.Runs (session : Session) (client : Nat) (stage : PairStage) : Prop :=
  ∃ phase pair, session.phase? = some phase ∧ phase.pair? client = some pair ∧ pair.stage = stage

theorem Session.runs_iff_of_phase? {session : Session} {phase : Phase} {client : Nat}
    {stage : PairStage} (phase_eq : session.phase? = some phase) :
    session.Runs client stage ↔ ∃ pair, phase.pair? client = some pair ∧ pair.stage = stage := by
  simp [Runs, phase_eq]

theorem Session.runs_iff_of_serving {session : Session} {phase : Phase} {pausing : Bool}
    {client : Nat} {stage : PairStage} (stage_eq : session.stage = .serving phase pausing) :
    session.Runs client stage ↔
      ∃ pair, phase.pair? client = some pair ∧ pair.stage = stage := by
  simp [Runs, phase?, stage_eq]

theorem Session.runs_iff_of_draining {session : Session} {phase : Phase}
    {failure : Option Failure} {client : Nat} {stage : PairStage}
    (stage_eq : session.stage = .draining phase failure) :
    session.Runs client stage ↔
      ∃ pair, phase.pair? client = some pair ∧ pair.stage = stage := by
  simp [Runs, phase?, stage_eq]

section Moving

variable {session next : Session} {client : Nat} {stage : PairStage} {label : Label}
  {report : Option Report}

/-- The client of a pair that is at work has been counted. -/
theorem Session.Runs.lt_connections (runs : session.Runs client stage) (tidy : session.Tidy) :
    client < session.counters.connections := by
  obtain ⟨phase, pair, phase_eq, found, -⟩ := runs
  obtain ⟨running, rfl⟩ := Phase.mem_of_pair? found
  exact (tidy phase phase_eq).counted _ (List.mem_append_left _ (List.mem_map_of_mem running))

/-- A pair is at one stage. -/
theorem Session.Runs.unique {stage' : PairStage} (runs : session.Runs client stage)
    (runs' : session.Runs client stage') : stage = stage' := by
  obtain ⟨phase, pair, phase_eq, found, rfl⟩ := runs
  obtain ⟨phase', pair', phase_eq', found', rfl⟩ := runs'
  cases phase_eq.symm.trans phase_eq'
  cases found.symm.trans found'
  rfl

theorem Session.PairMoves.pair?_of_ne {phase phase' : Phase} {isCancelled : Bool}
    {mover calls : Nat} {label : Pair.Label} {counters : Status.Counters}
    (moves : PairMoves session phase isCancelled mover label phase' calls counters)
    (other : mover ≠ client) : phase'.pair? client = phase.pair? client := by
  cases moves with
  | @ended _ exit => exact Phase.pair?_finish_of_ne exit other
  | @silent _ stage | @called _ stage | @opened _ stage | @carried _ stage =>
      exact Phase.pair?_setStage_of_ne stage other

/-- A pair that is at work does not wait to be joined. -/
theorem Session.Runs.not_waits {exit : Exit} (runs : session.Runs client stage)
    (tidy : session.Tidy) : ¬ session.Waits client exit := by
  obtain ⟨phase, pair, phase_eq, found, -⟩ := runs
  obtain ⟨running, rfl⟩ := Phase.mem_of_pair? found
  rintro ⟨phase', phase_eq', waiting⟩
  cases phase_eq.symm.trans phase_eq'
  have apart := (List.nodup_append.1 (tidy phase phase_eq).distinct).2.2
  exact apart _ (List.mem_map_of_mem running) _ (List.mem_map_of_mem waiting) rfl

/-- A pair is where it was after every step but its own. -/
theorem Session.Moves.runs (moves : Moves session label next report) (kept : label ≠ .drop)
    (others : ∀ own, label ≠ .pair client own) (runs : session.Runs client stage) :
    next.Runs client stage := by
  obtain ⟨phase, pair, phase_eq, found, rfl⟩ := runs
  have busy (quiet : phase.isQuiet = true) : False := by
    simp [Phase.isQuiet, Phase.running_ne_nil found] at quiet
  cases moves with
  | stop => exact ⟨phase, pair, phase_eq, found, rfl⟩
  | accept stage_eq =>
      simp only [phase?, stage_eq, Option.some.injEq] at phase_eq
      subst phase_eq
      exact ⟨_, pair, rfl, by rw [Phase.pair?_accept, found, Option.some_or], rfl⟩
  | heedServing stage_eq | acceptFailed stage_eq | resume stage_eq | recover stage_eq =>
      simp only [phase?, stage_eq, Option.some.injEq] at phase_eq
      subst phase_eq
      exact ⟨_, pair, rfl, found, rfl⟩
  | joinLost stage_eq join_eq | joinLastUnopened stage_eq join_eq | joinUnopened stage_eq join_eq
  | joinEnded stage_eq join_eq | joinDraining stage_eq join_eq =>
      simp only [phase?, stage_eq, Option.some.injEq] at phase_eq
      subst phase_eq
      obtain ⟨-, rfl⟩ := join?_eq_some join_eq
      exact ⟨_, pair, rfl, found, rfl⟩
  | @pairServing _ _ _ mover _ _ _ stage_eq moves
  | @pairDraining _ _ _ mover _ _ _ stage_eq moves =>
      simp only [phase?, stage_eq, Option.some.injEq] at phase_eq
      subst phase_eq
      have other : mover ≠ client := by
        rintro rfl
        exact others _ rfl
      exact ⟨_, pair, rfl, (moves.pair?_of_ne other).trans found, rfl⟩
  | drainedFailed stage_eq quiet | drainedAsked stage_eq quiet =>
      simp only [phase?, stage_eq, Option.some.injEq] at phase_eq
      subst phase_eq
      exact (busy quiet).elim
  | drop => exact (kept rfl).elim
  | _ => simp_all [phase?]

/-- A pair that is at work after a step not its own was there before, or its client has just
been accepted. -/
theorem Session.Moves.runs_before (moves : Moves session label next report)
    (others : ∀ own, label ≠ .pair client own) (runs : next.Runs client stage) :
    session.Runs client stage ∨
      (label = .accept ∧ client = session.counters.connections ∧
        ∃ channel, stage = .waiting channel) := by
  obtain ⟨phase, pair, phase_eq, found, rfl⟩ := runs
  cases moves with
  | stop => exact .inl ⟨phase, pair, phase_eq, found, rfl⟩
  | activate =>
      cases phase_eq
      cases found
  | @accept served stage_eq =>
      cases phase_eq
      rw [Phase.pair?_accept] at found
      cases before : served.pair? client with
      | some pair' =>
          rw [before, Option.some_or, Option.some.injEq] at found
          exact .inl ((runs_iff_of_serving stage_eq).2 ⟨pair', before, by rw [found]⟩)
      | none =>
          rw [before, Option.none_or] at found
          split at found
          · rename_i same
            cases found
            exact .inr ⟨rfl, same.symm, _, rfl⟩
          · cases found
  | heedServing stage_eq | acceptFailed stage_eq | resume stage_eq | recover stage_eq =>
      cases phase_eq
      exact .inl ((runs_iff_of_serving stage_eq).2 ⟨pair, found, rfl⟩)
  | joinLost stage_eq join_eq | joinLastUnopened stage_eq join_eq | joinUnopened stage_eq join_eq
  | joinEnded stage_eq join_eq =>
      cases phase_eq
      obtain ⟨-, rfl⟩ := join?_eq_some join_eq
      exact .inl ((runs_iff_of_serving stage_eq).2 ⟨pair, found, rfl⟩)
  | joinDraining stage_eq join_eq =>
      cases phase_eq
      obtain ⟨-, rfl⟩ := join?_eq_some join_eq
      exact .inl ((runs_iff_of_draining stage_eq).2 ⟨pair, found, rfl⟩)
  | @pairServing _ _ _ mover _ _ _ stage_eq moves =>
      cases phase_eq
      have other : mover ≠ client := by
        rintro rfl
        exact others _ rfl
      rw [moves.pair?_of_ne other] at found
      exact .inl ((runs_iff_of_serving stage_eq).2 ⟨pair, found, rfl⟩)
  | @pairDraining _ _ _ mover _ _ _ stage_eq moves =>
      cases phase_eq
      have other : mover ≠ client := by
        rintro rfl
        exact others _ rfl
      rw [moves.pair?_of_ne other] at found
      exact .inl ((runs_iff_of_draining stage_eq).2 ⟨pair, found, rfl⟩)
  | _ => cases phase_eq

theorem Session.PairMoves.exists_pair {phase phase' : Phase} {isCancelled : Bool}
    {calls : Nat} {label : Pair.Label} {counters : Status.Counters}
    (moves : PairMoves session phase isCancelled client label phase' calls counters) :
    ∃ pair, phase.pair? client = some pair := by
  cases moves with
  | ended found | silent found | called found | opened found | carried found => exact ⟨_, found⟩

/-- Only a pair that is at work takes a step. -/
theorem Session.Moves.exists_runs {own : Pair.Label}
    (moves : Moves session (.pair client own) next report) :
    ∃ stage, session.Runs client stage := by
  cases moves with
  | pairServing stage_eq moves =>
      obtain ⟨pair, found⟩ := moves.exists_pair
      exact ⟨_, (runs_iff_of_serving stage_eq).2 ⟨pair, found, rfl⟩⟩
  | pairDraining stage_eq moves =>
      obtain ⟨pair, found⟩ := moves.exists_pair
      exact ⟨_, (runs_iff_of_draining stage_eq).2 ⟨pair, found, rfl⟩⟩

/-- A step of its own takes a pair where the step function of pairs says. -/
theorem Session.PairMoves.outcome {phase phase' : Phase} {isCancelled : Bool}
    {calls : Nat} {label : Pair.Label} {counters : Status.Counters} {pair : Pair}
    (moves : PairMoves session phase isCancelled client label phase' calls counters)
    (found : phase.pair? client = some pair) :
    ∃ outcome,
      Pair.step session.forward.destination session.calls isCancelled pair.stage label =
        some outcome ∧
      (∀ direction, bytesCounted counters direction =
        bytesCounted session.counters direction + outcome.bytes direction) ∧
      ((∃ exit, outcome = .ends exit ∧ (client, exit) ∈ phase'.ended ∧
          phase'.pair? client = none) ∨
        ∃ stage effect, outcome = .continues stage effect ∧
          phase'.pair? client = some { pair with stage := stage }) := by
  cases moves with
  | ended first step =>
      cases found.symm.trans first
      refine ⟨_, step, fun direction => ?_, .inl ⟨_, rfl, ?_, Phase.pair?_finish_self _⟩⟩
      · cases direction <;> rfl
      · simp [Phase.finish]
  | silent first step | called first step | opened first step =>
      cases found.symm.trans first
      exact ⟨_, step, fun _ => rfl, .inr ⟨_, _, rfl, Phase.pair?_setStage_self _ found⟩⟩
  | @carried _ _ direction bytes first step =>
      cases found.symm.trans first
      refine ⟨_, step, fun other => ?_, .inr ⟨_, _, rfl, Phase.pair?_setStage_self _ found⟩⟩
      cases direction <;> cases other <;> rfl

theorem Session.Moves.outcome {own : Pair.Label}
    (moves : Moves session (.pair client own) next report) (runs : session.Runs client stage) :
    report = none ∧ ∃ isCancelled outcome,
      Pair.step session.forward.destination session.calls isCancelled stage own = some outcome ∧
        (∀ direction, bytesCounted next.counters direction =
          bytesCounted session.counters direction + outcome.bytes direction) ∧
        ((∃ exit, outcome = .ends exit ∧ next.Waits client exit ∧
            ∀ stage', ¬ next.Runs client stage') ∨
          ∃ stage' effect, outcome = .continues stage' effect ∧ next.Runs client stage') := by
  obtain ⟨phase, pair, phase_eq, found, rfl⟩ := runs
  cases moves with
  | pairServing stage_eq moves | pairDraining stage_eq moves =>
      simp only [phase?, stage_eq, Option.some.injEq] at phase_eq
      subst phase_eq
      obtain ⟨outcome, step, bytes_eq, result⟩ := moves.outcome found
      refine ⟨rfl, _, outcome, step, bytes_eq, ?_⟩
      rcases result with ⟨exit, ends, waits, gone⟩ | ⟨stage', effect, continues, found'⟩
      · refine .inl ⟨exit, ends, ⟨_, rfl, waits⟩, ?_⟩
        rintro stage' ⟨_, pair', ⟨⟩, found', -⟩
        cases gone.symm.trans found'
      · exact .inr ⟨stage', effect, continues, _, _, rfl, found', rfl⟩

/-- What the step function of pairs allows, whether the pair is cancelled or not, can happen to
a pair that is at work. -/
theorem Session.Runs.exists_moves {own : Pair.Label} {outcome : Pair.Outcome}
    (runs : session.Runs client stage)
    (step : ∀ isCancelled,
      Pair.step session.forward.destination session.calls isCancelled stage own = some outcome) :
    ∃ next, Moves session (.pair client own) next none := by
  obtain ⟨phase, pair, phase_eq, found, rfl⟩ := runs
  have moves (isCancelled : Bool) : ∃ phase' calls counters,
      PairMoves session phase isCancelled client own phase' calls counters := by
    have step := step isCancelled
    cases outcome with
    | ends exit => exact ⟨_, _, _, .ended found step⟩
    | continues stage effect =>
        cases effect with
        | none => exact ⟨_, _, _, .silent found step⟩
        | called => exact ⟨_, _, _, .called found step⟩
        | opened => exact ⟨_, _, _, .opened found step⟩
        | carried => exact ⟨_, _, _, .carried found step⟩
  unfold phase? at phase_eq
  split at phase_eq
  · rename_i served pausing stage_eq
    cases phase_eq
    obtain ⟨phase', calls, counters, moves⟩ := moves session.stopRequested
    exact ⟨_, .pairServing stage_eq moves⟩
  · rename_i drained failure stage_eq
    cases phase_eq
    obtain ⟨phase', calls, counters, moves⟩ := moves true
    exact ⟨_, .pairDraining stage_eq moves⟩
  · cases phase_eq

theorem Session.Moves.connections_eq (moves : Moves session label next report) :
    next.counters.connections =
      session.counters.connections + if label = .accept then 1 else 0 := by
  cases moves with
  | pairServing _ moves | pairDraining _ moves => exact moves.connections_eq
  | _ => rfl

/-- Bytes are counted by the steps of pairs. -/
theorem Session.Moves.bytesCounted_eq (moves : Moves session label next report)
    (others : ∀ client own, label ≠ .pair client own) :
    bytesCounted next.counters = bytesCounted session.counters := by
  cases moves with
  | pairServing | pairDraining => exact (others _ _ rfl).elim
  | accept =>
      funext direction
      cases direction <;> rfl
  | _ => rfl

end Moving

/-! ## The labels of one pair -/

/-- The label of a step of the pair of a client. -/
def pairLabel? (client : Nat) : Entry → Option Pair.Label
  | (.pair other label, _) => if other = client then some label else none
  | _ => none

/-- All labels that the pair of a client followed. -/
def pairLabels (client : Nat) (history : List Entry) : List Pair.Label :=
  history.filterMap (pairLabel? client)

theorem pairLabel?_of_ne {client : Nat} {entry : Entry}
    (others : ∀ own, entry.1 ≠ .pair client own) : pairLabel? client entry = none := by
  unfold pairLabel?
  split
  · refine if_neg ?_
    rintro rfl
    exact others _ rfl
  · rfl

theorem pairLabels_concat_of_ne {client : Nat} {entry : Entry} (history : List Entry)
    (others : ∀ own, entry.1 ≠ .pair client own) :
    pairLabels client (history ++ [entry]) = pairLabels client history := by
  simp [pairLabels, pairLabel?_of_ne others]

theorem pairLabels_concat_own (client : Nat) (own : Pair.Label) (report : Option Report)
    (history : List Entry) :
    pairLabels client (history ++ [(.pair client own, report)]) =
      pairLabels client history ++ [own] := by
  simp [pairLabels, pairLabel?]

end PortTunnel.Tunnel
