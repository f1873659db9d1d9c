import PortTunnel.Proofs.Tunnel.Carriage

/-!
# Who obtains which channel

A session opens channels by calls, and channels are named by them.  The channel of a
connection stands by for the next client that is accepted; any other client calls for a
channel of its own when its pair starts.

So a client obtains a channel in one of two ways, and either is a step of the session.  Here
it is followed through all steps that a channel which stands by has not been obtained yet,
that the next call gives a new one, and that a pair is entitled to the channel that it has.
-/

namespace PortTunnel.Tunnel

open Session

/-! ## How a pair goes on -/

/-- The steps by which a pair goes on. -/
inductive Pair.Proceeds (nextCall : Nat) : PairStage → Label → PairStage → Effect → Prop
  | calls : Proceeds nextCall (.waiting none) .start (.opening nextCall) .called
  | begins {channel : Nat} :
      Proceeds nextCall (.waiting (some channel)) .start (.relaying channel .reading .reading) .none
  | opened {call : Nat} :
      Proceeds nextCall (.opening call) .opened (.relaying call .reading .reading) .opened
  | relays {channel : Nat} {outbound inbound outbound' inbound' : Pump} {direction : Direction}
      {label : Pump.Label} {effect : Effect} (uncalled : effect ≠ .called) :
      Proceeds nextCall (.relaying channel outbound inbound) (.relay direction label)
        (.relaying channel outbound' inbound') effect

theorem Pair.Proceeds.of_step {destination : Destination} {nextCall : Nat} {isCancelled : Bool}
    {stage stage' : PairStage} {label : Label} {effect : Effect} :
    Pair.step destination nextCall isCancelled stage label = some (.continues stage' effect) →
      Proceeds nextCall stage label stage' effect := by
  fun_cases Pair.step destination nextCall isCancelled stage label <;> intro step
  case case1 => cases step; exact .begins
  case case2 => cases step; exact .calls
  case case3 => cases step; exact .opened
  case case5 channel outbound inbound direction label =>
    have relayed {outbound' inbound' : Pump} {direction' : Direction} {count : Nat}
        (same : relayOutcome channel outbound' inbound'
          (if count = 0 then .none else .carried direction' count) = .continues stage' effect) :
        Proceeds nextCall (.relaying channel outbound inbound) (.relay direction label) stage'
          effect := by
      unfold relayOutcome at same
      split at same
      · cases same
      · cases same
        refine .relays fun called => ?_
        split at called <;> cases called
    simp only [relayStep] at step
    split at step
    · cases step
    · cases direction <;> cases step
    · cases direction <;> cases step
    · cases direction <;> exact relayed (Option.some.inj step)
  all_goals cases step

/-- The channel that a pair has, or for which it waits. -/
def PairStage.channel? : PairStage → Option Nat
  | .waiting channel => channel
  | .opening call => some call
  | .relaying channel _ _ => some channel

/-! ## Making calls -/

/-- The channel that the session has for the next client, or the call for it. -/
def Session.spare? (session : Session) : Option Nat :=
  match session.stage with
  | .connecting call => call
  | .connected channel => some channel
  | .serving phase _ | .draining phase _ => phase.standby
  | _ => none

theorem Session.spare?_of_serving {session : Session} {phase : Phase} {pausing : Bool}
    (stage_eq : session.stage = .serving phase pausing) : session.spare? = phase.standby := by
  rw [spare?, stage_eq]

/-- By a step the session makes a call. -/
def Session.MakesCall (session : Session) (label : Label) : Prop :=
  label = .call ∨ ∃ client, label = .pair client .start ∧ session.Runs client (.waiting none)

section Calling

variable {session next : Session} {label : Label} {report : Option Report}

theorem Session.PairMoves.calls_eq_or {phase phase' : Phase} {isCancelled : Bool}
    {client calls : Nat} {own : Pair.Label} {counters : Status.Counters}
    (moves : PairMoves session phase isCancelled client own phase' calls counters)
    (phase_eq : session.phase? = some phase) :
    (calls = session.calls ∧ ¬ session.MakesCall (.pair client own)) ∨
      (calls = session.calls + 1 ∧ session.MakesCall (.pair client own)) := by
  have unmade {pair : Pair} {outcome : Pair.Outcome} (found : phase.pair? client = some pair)
      (step : Pair.step session.forward.destination session.calls isCancelled pair.stage own =
        some outcome)
      (other : ∀ stage, outcome ≠ .continues stage .called) :
      ¬ session.MakesCall (.pair client own) := by
    rintro (⟨⟨⟩⟩ | ⟨client, ⟨⟩, runs⟩)
    rcases (runs_iff_of_phase? phase_eq).1 runs with ⟨pair', found', waits⟩
    cases found.symm.trans found'
    rw [waits] at step
    cases step
    exact other _ rfl
  cases moves with
  | called found step =>
      generalize stage_eq : Pair.stage _ = stage at step
      cases Pair.Proceeds.of_step step with
      | calls =>
          have runs := (runs_iff_of_phase? phase_eq).2 ⟨_, found, stage_eq⟩
          exact .inr ⟨rfl, .inr ⟨client, rfl, runs⟩⟩
      | relays uncalled => exact (uncalled rfl).elim
  | ended found step | silent found step | opened found step | carried found step =>
      exact .inl ⟨rfl, unmade found step nofun⟩

/-- Calls are counted as they are made. -/
theorem Session.Moves.calls_eq_or (moves : Moves session label next report) :
    (next.calls = session.calls ∧ ¬ session.MakesCall label) ∨
      (next.calls = session.calls + 1 ∧ session.MakesCall label) := by
  cases moves with
  | call => exact .inr ⟨rfl, .inl rfl⟩
  | pairServing stage_eq moves => exact moves.calls_eq_or (phase?_of_serving stage_eq)
  | pairDraining stage_eq moves => exact moves.calls_eq_or (phase?_of_draining stage_eq)
  | _ =>
      refine .inl ⟨rfl, ?_⟩
      rintro (⟨⟨⟩⟩ | ⟨client, ⟨⟩, -⟩)

theorem Session.Moves.calls_le (moves : Moves session label next report) :
    session.calls ≤ next.calls := by
  rcases moves.calls_eq_or with ⟨calls_eq, -⟩ | ⟨calls_eq, -⟩ <;> omega

theorem Session.PairMoves.standby_eq {phase phase' : Phase} {isCancelled : Bool}
    {client calls : Nat} {own : Pair.Label} {counters : Status.Counters}
    (moves : PairMoves session phase isCancelled client own phase' calls counters) :
    phase'.standby = phase.standby := by
  cases moves <;> rfl

/-- The session comes to a spare channel by a call of its own, and the next client takes it. -/
theorem Session.Moves.spare?_eq_some {channel : Nat} (moves : Moves session label next report)
    (spare : next.spare? = some channel) :
    label ≠ .accept ∧
      (session.spare? = some channel ∨ (label = .call ∧ channel = session.calls)) := by
  cases moves with
  | stop => exact ⟨nofun, .inl spare⟩
  | call =>
      cases spare
      exact ⟨nofun, .inr ⟨rfl, rfl⟩⟩
  | accept => cases spare
  | opened stage_eq | activate stage_eq | heedServing stage_eq | acceptFailed stage_eq
  | resume stage_eq | recover stage_eq =>
      refine ⟨nofun, .inl ?_⟩
      rw [spare?, stage_eq]
      exact spare
  | joinLost stage_eq join_eq | joinLastUnopened stage_eq join_eq | joinUnopened stage_eq join_eq
  | joinEnded stage_eq join_eq | joinDraining stage_eq join_eq =>
      obtain ⟨-, rfl⟩ := join?_eq_some join_eq
      refine ⟨nofun, .inl ?_⟩
      rw [spare?, stage_eq]
      exact spare
  | pairServing stage_eq moves | pairDraining stage_eq moves =>
      refine ⟨nofun, .inl ?_⟩
      rw [spare?, stage_eq]
      exact moves.standby_eq.symm.trans spare
  | _ => cases spare

/-- A client that is accepted is given the channel that stands by. -/
theorem Session.Moves.runs_newcomer (moves : Moves session .accept next report)
    (tidy : session.Tidy) :
    ∃ phase, session.stage = .serving phase false ∧
      next.Runs session.counters.connections (.waiting phase.standby) := by
  cases moves with
  | @accept phase stage_eq =>
      have absent : phase.pair? session.counters.connections = none := by
        refine Option.eq_none_iff_forall_ne_some.2 fun pair found => ?_
        have runs := (runs_iff_of_serving stage_eq).2 ⟨pair, found, rfl⟩
        exact Nat.lt_irrefl _ (runs.lt_connections tidy)
      refine ⟨phase, stage_eq, (runs_iff_of_serving rfl).2 ?_⟩
      rw [Phase.pair?_accept, absent, Option.none_or, if_pos rfl]
      exact ⟨_, rfl, rfl⟩

end Calling

/-! ## Obtaining channels -/

/-- Where a client has its channel from. -/
inductive Source where
  /-- From the connection. -/
  | standby
  /-- From a call of its own. -/
  | call
  deriving DecidableEq

/-- By a step a client obtains a channel. -/
inductive Session.Provides (session : Session) : Label → Source → Nat → Nat → Prop
  | standby {phase : Phase} {channel : Nat} (stage_eq : session.stage = .serving phase false)
      (stands : phase.standby = some channel) :
      Provides session .accept .standby session.counters.connections channel
  | call {client : Nat} (runs : session.Runs client (.waiting none)) :
      Provides session (.pair client .start) .call client session.calls

/-- A step provides for one client. -/
theorem Session.Provides.client_eq {session : Session} {label : Label} {source source' : Source}
    {client client' channel channel' : Nat} (provides : session.Provides label source client channel)
    (provides' : session.Provides label source' client' channel') : client = client' := by
  cases provides <;> cases provides' <;> rfl

/-- A step provides one channel. -/
theorem Session.Provides.channel_eq {session : Session} {label : Label} {source source' : Source}
    {client client' channel channel' : Nat} (provides : session.Provides label source client channel)
    (provides' : session.Provides label source' client' channel') :
    source = source' ∧ channel = channel' := by
  cases provides with
  | call =>
      cases provides'
      exact ⟨rfl, rfl⟩
  | standby stage_eq stands =>
      cases provides' with
      | standby stage_eq' stands' =>
          cases stage_eq.symm.trans stage_eq'
          exact ⟨rfl, Option.some.inj (stands.symm.trans stands')⟩

/-- In its history a client has obtained a channel. -/
def Obtains (start : Session) (history : List Entry) (source : Source) (client channel : Nat) :
    Prop :=
  ∃ early label report late middle,
    history = early ++ (label, report) :: late ∧ Trail Goes start early middle ∧
      middle.Provides label source client channel

section Obtaining

variable {start session next : Session} {history : List Entry} {label : Label}
  {report : Option Report} {source : Source} {client channel : Nat}

theorem Obtains.append (obtains : Obtains start history source client channel)
    (more : List Entry) : Obtains start (history ++ more) source client channel := by
  rcases obtains with ⟨early, label, report, late, middle, rfl, trail, provides⟩
  exact ⟨early, label, report, late ++ more, middle, by simp, trail, provides⟩

theorem obtains_concat_iff (trail : Trail Goes start history session) :
    Obtains start (history ++ [(label, report)]) source client channel ↔
      Obtains start history source client channel ∨
        session.Provides label source client channel := by
  constructor
  · rintro ⟨early, label', report', late, middle, history_eq, first, provides⟩
    rcases concat_eq_append_cons history_eq with ⟨rfl, ⟨⟩, rfl⟩ | ⟨rest, rfl, rfl⟩
    · exact .inr (eq_of_trails first trail ▸ provides)
    · exact .inl ⟨early, label', report', rest, middle, rfl, first, provides⟩
  · rintro (before | provides)
    · exact before.append _
    · exact ⟨history, label, report, [], session, rfl, trail, provides⟩

/-- What a pair has obtained when it is at a stage. -/
def Entitled (start : Session) (history : List Entry) (client : Nat) : PairStage → Prop
  | .waiting none => ∀ source channel, ¬ Obtains start history source client channel
  | .waiting (some channel) => Obtains start history .standby client channel
  | .opening call => Obtains start history .call client call
  | .relaying channel _ _ =>
      Obtains start history .standby client channel ∨
        (Obtains start history .call client channel ∧ .opened ∈ pairLabels client history)

theorem Entitled.exists_obtains {stage : PairStage} (entitled : Entitled start history client stage)
    (has : stage.channel? = some channel) : ∃ source, Obtains start history source client channel := by
  cases stage with
  | waiting given =>
      cases has
      exact ⟨_, entitled⟩
  | opening call =>
      cases has
      exact ⟨_, entitled⟩
  | relaying =>
      cases has
      rcases entitled with given | ⟨called, -⟩
      · exact ⟨_, given⟩
      · exact ⟨_, called⟩

/-- A pair stays entitled to its channel, if it does not obtain another one. -/
theorem Entitled.onward {stage : PairStage} (entitled : Entitled start history client stage)
    (trail : Trail Goes start history session)
    (unprovided : ∀ source channel, ¬ session.Provides label source client channel) :
    Entitled start (history ++ [(label, report)]) client stage := by
  cases stage with
  | waiting given =>
      cases given with
      | none =>
          intro source channel obtains
          rcases (obtains_concat_iff trail).1 obtains with before | now
          · exact entitled source channel before
          · exact unprovided source channel now
      | some => exact Obtains.append entitled _
  | opening => exact Obtains.append entitled _
  | relaying =>
      rcases entitled with given | ⟨called, opened⟩
      · exact .inl (given.append _)
      · refine .inr ⟨called.append _, ?_⟩
        rw [pairLabels, List.filterMap_append]
        exact List.mem_append_left _ opened

/-- Who has obtained channels, and what channels there are for others. -/
structure Provided (start : Session) (history : List Entry) (session : Session) : Prop where
  counted : ∀ source client channel, Obtains start history source client channel →
    client < session.counters.connections ∧ channel < session.calls
  /-- Nobody has obtained the channel that is to spare. -/
  spare : ∀ channel, session.spare? = some channel →
    channel < session.calls ∧ ∀ source client, ¬ Obtains start history source client channel
  entitled : ∀ client stage, session.Runs client stage → Entitled start history client stage

theorem Provided.not_provides (provided : Provided start history session)
    (obtains : Obtains start history source client channel) {source' : Source} {client' : Nat} :
    ¬ session.Provides label source' client' channel := by
  intro provides
  cases provides with
  | standby stage_eq stands =>
      have spare := (spare?_of_serving stage_eq).trans stands
      exact (provided.spare channel spare).2 source client obtains
  | call => exact Nat.lt_irrefl _ (provided.counted source client _ obtains).2

theorem Provided.not_provides_again (provided : Provided start history session)
    (obtains : Obtains start history source client channel) {source' : Source} {channel' : Nat} :
    ¬ session.Provides label source' client channel' := by
  intro provides
  cases provides with
  | standby => exact Nat.lt_irrefl _ (provided.counted source _ channel obtains).1
  | call runs => exact provided.entitled client _ runs source channel obtains

/-- The channel of a client is new to it, and it is to the session. -/
theorem Provided.counted_move (provided : Provided start history session)
    (tidy : session.Tidy) (moves : Moves session label next report)
    (provides : session.Provides label source client channel) :
    client < next.counters.connections ∧ channel < next.calls := by
  have connections_eq := moves.connections_eq
  cases provides with
  | standby stage_eq stands =>
      have spare := (spare?_of_serving stage_eq).trans stands
      have old := (provided.spare channel spare).1
      rw [if_pos rfl] at connections_eq
      exact ⟨by omega, old.trans_le moves.calls_le⟩
  | call runs =>
      have old := runs.lt_connections tidy
      rcases moves.calls_eq_or with ⟨-, unmade⟩ | ⟨calls_eq, -⟩
      · exact (unmade (.inr ⟨client, rfl, runs⟩)).elim
      · exact ⟨by omega, by omega⟩

/-- A step of its own leaves a pair entitled to the channel that it then has. -/
theorem Provided.entitled_own {own : Pair.Label} {stage : PairStage}
    (provided : Provided start history session) (trail : Trail Goes start history session)
    (moves : Moves session (.pair client own) next report) (runs : next.Runs client stage) :
    Entitled start (history ++ [(.pair client own, report)]) client stage := by
  rcases moves.exists_runs with ⟨before, ran⟩
  rcases moves.outcome ran with ⟨-, isCancelled, outcome, step, -, result⟩
  have entitled := provided.entitled client before ran
  rcases result with ⟨exit, -, -, gone⟩ | ⟨stage', effect, rfl, runs'⟩
  · exact (gone stage runs).elim
  cases runs.unique runs'
  cases Pair.Proceeds.of_step step with
  | calls => exact (obtains_concat_iff trail).2 (.inr (.call ran))
  | begins => exact .inl (Obtains.append entitled _)
  | opened =>
      refine .inr ⟨Obtains.append entitled _, ?_⟩
      rw [pairLabels_concat_own]
      exact List.mem_append_right _ (List.mem_singleton_self _)
  | relays =>
      rcases entitled with given | ⟨called, opened⟩
      · exact .inl (given.append _)
      · refine .inr ⟨called.append _, ?_⟩
        rw [pairLabels_concat_own]
        exact List.mem_append_left _ opened

/-- Another step does so too; a newcomer is entitled to what it was given. -/
theorem Provided.entitled_other {stage : PairStage} (provided : Provided start history session)
    (trail : Trail Goes start history session) (tidy : session.Tidy)
    (moves : Moves session label next report) (others : ∀ own, label ≠ .pair client own)
    (runs : next.Runs client stage) :
    Entitled start (history ++ [(label, report)]) client stage := by
  rcases moves.runs_before others runs with before | ⟨rfl, newcomer, -⟩
  · refine (provided.entitled client stage before).onward trail fun source channel provides => ?_
    cases provides with
    | standby => exact Nat.lt_irrefl _ (before.lt_connections tidy)
    | call => exact others _ rfl
  · rcases moves.runs_newcomer tidy with ⟨phase, stage_eq, begins⟩
    subst newcomer
    cases runs.unique begins
    cases stands : phase.standby with
    | none =>
        intro source channel obtains
        rcases (obtains_concat_iff trail).1 obtains with known | now
        · exact Nat.lt_irrefl _ (provided.counted _ _ _ known).1
        · cases now with
          | standby stage_eq' stands' =>
              cases stage_eq.symm.trans stage_eq'
              cases stands.symm.trans stands'
    | some channel => exact (obtains_concat_iff trail).2 (.inr (.standby stage_eq stands))

theorem Provided.move (provided : Provided start history session)
    (trail : Trail Goes start history session) (tidy : session.Tidy)
    (moves : Moves session label next report) :
    Provided start (history ++ [(label, report)]) next := by
  constructor
  case counted =>
    intro source client channel obtains
    rcases (obtains_concat_iff trail).1 obtains with before | now
    · have connections_eq := moves.connections_eq
      rcases provided.counted source client channel before with ⟨known, old⟩
      exact ⟨by omega, old.trans_le moves.calls_le⟩
    · exact provided.counted_move tidy moves now
  case spare =>
    intro channel spare
    rcases moves.spare?_eq_some spare with ⟨other, before | ⟨rfl, rfl⟩⟩
    · rcases provided.spare channel before with ⟨old, unobtained⟩
      refine ⟨old.trans_le moves.calls_le, fun source client obtains => ?_⟩
      rcases (obtains_concat_iff trail).1 obtains with known | now
      · exact unobtained source client known
      · cases now with
        | standby => exact other rfl
        | call => exact Nat.lt_irrefl _ old
    · -- The call was made right now.
      rcases moves.calls_eq_or with ⟨-, unmade⟩ | ⟨calls_eq, -⟩
      · exact (unmade (.inl rfl)).elim
      · refine ⟨by omega, fun source client obtains => ?_⟩
        rcases (obtains_concat_iff trail).1 obtains with known | now
        · exact Nat.lt_irrefl _ (provided.counted _ _ _ known).2
        · cases now
  case entitled =>
    intro client stage runs
    by_cases own : ∃ own, label = .pair client own
    · rcases own with ⟨own, rfl⟩
      exact provided.entitled_own trail moves runs
    · exact provided.entitled_other trail tidy moves (fun label same => own ⟨label, same⟩) runs

end Obtaining

/-! ## Along a trail -/

section Trails

variable {forward : Forward} {policy : Retry.Policy} {asked : Bool} {history : List Entry}
  {session : Session} {source source' : Source} {client client' channel channel' : Nat}

theorem not_obtains_nil {start : Session} : ¬ Obtains start [] source client channel := by
  rintro ⟨early, label, report, late, middle, history_eq, -⟩
  simp at history_eq

theorem provided_of_trail (trail : Trail Goes (fresh forward policy asked) history session) :
    Provided (fresh forward policy asked) history session := by
  induction trail with
  | here =>
      constructor
      case counted => exact fun source client channel obtains => (not_obtains_nil obtains).elim
      case spare => exact nofun
      case entitled =>
        rintro client stage ⟨phase, pair, served, -⟩
        cases served
  | onward trail step ih => exact ih.move trail (tidy_of_trail trail) (step_eq_some_iff.1 step)

/-- No channel is obtained by two clients. -/
theorem client_eq_of_obtains (trail : Trail Goes (fresh forward policy asked) history session)
    (obtains : Obtains (fresh forward policy asked) history source client channel)
    (obtains' : Obtains (fresh forward policy asked) history source' client' channel) :
    client = client' := by
  induction trail with
  | here => exact (not_obtains_nil obtains).elim
  | onward trail step ih =>
      have provided := provided_of_trail trail
      rcases (obtains_concat_iff trail).1 obtains with before | now
      · rcases (obtains_concat_iff trail).1 obtains' with before' | now'
        · exact ih before before'
        · exact (provided.not_provides before now').elim
      · rcases (obtains_concat_iff trail).1 obtains' with before' | now'
        · exact (provided.not_provides before' now).elim
        · exact now.client_eq now'

/-- No client obtains two channels. -/
theorem channel_eq_of_obtains (trail : Trail Goes (fresh forward policy asked) history session)
    (obtains : Obtains (fresh forward policy asked) history source client channel)
    (obtains' : Obtains (fresh forward policy asked) history source' client channel') :
    source = source' ∧ channel = channel' := by
  induction trail with
  | here => exact (not_obtains_nil obtains).elim
  | onward trail step ih =>
      have provided := provided_of_trail trail
      rcases (obtains_concat_iff trail).1 obtains with before | now
      · rcases (obtains_concat_iff trail).1 obtains' with before' | now'
        · exact ih before before'
        · exact (provided.not_provides_again before now').elim
      · rcases (obtains_concat_iff trail).1 obtains' with before' | now'
        · exact (provided.not_provides_again before' now).elim
        · exact now.channel_eq now'

/-- A pair that has not begun has taken no step. -/
theorem pairLabels_eq_nil_of_waiting {given : Option Nat}
    (trail : Trail Goes (fresh forward policy asked) history session)
    (runs : session.Runs client (.waiting given)) : pairLabels client history = [] := by
  induction trail with
  | here =>
      rcases runs with ⟨phase, pair, served, -⟩
      cases served
  | @onward history middle entry last trail step ih =>
      rcases entry with ⟨label, report⟩
      have moves : Moves middle label last report := step_eq_some_iff.1 step
      by_cases own : ∃ own, label = .pair client own
      · rcases own with ⟨own, rfl⟩
        rcases moves.exists_runs with ⟨before, ran⟩
        rcases moves.outcome ran with ⟨-, _, outcome, pairStep, -, result⟩
        rcases result with ⟨exit, -, -, gone⟩ | ⟨stage', effect, rfl, runs'⟩
        · exact (gone _ runs).elim
        · cases runs.unique runs'
          cases Pair.Proceeds.of_step pairStep
      · have others (own' : Pair.Label) : label ≠ .pair client own' := fun same => own ⟨own', same⟩
        rw [pairLabels_concat_of_ne history others]
        rcases moves.runs_before others runs with before | ⟨-, newcomer, -⟩
        · exact ih before
        · exact (ledger_of_trail trail).unknown client newcomer.ge

theorem exists_waiting_of_step {destination : Destination} {nextCall : Nat} {isCancelled : Bool}
    {stage : PairStage} {outcome : Pair.Outcome}
    (step : Pair.step destination nextCall isCancelled stage .start = some outcome) :
    ∃ given, stage = .waiting given := by
  cases stage with
  | waiting given => exact ⟨given, rfl⟩
  | opening | relaying => cases step

/-- A pair begins at most once, so it makes at most one call. -/
theorem count_start_le_one (trail : Trail Goes (fresh forward policy asked) history session)
    (client : Nat) : (pairLabels client history).count .start ≤ 1 := by
  induction trail with
  | here => exact Nat.zero_le 1
  | @onward history middle entry last trail step ih =>
      rcases entry with ⟨label, report⟩
      have moves : Moves middle label last report := step_eq_some_iff.1 step
      by_cases own : ∃ own, label = .pair client own
      · rcases own with ⟨own, rfl⟩
        rw [pairLabels_concat_own, List.count_append]
        by_cases starts : own = .start
        · subst starts
          rcases moves.exists_runs with ⟨before, ran⟩
          rcases moves.outcome ran with ⟨-, _, outcome, pairStep, -⟩
          rcases exists_waiting_of_step pairStep with ⟨given, rfl⟩
          rw [pairLabels_eq_nil_of_waiting trail ran]
          exact Nat.le_refl 1
        · rw [List.count_singleton, if_neg (by simpa using starts)]
          exact ih
      · rw [pairLabels_concat_of_ne history fun own' same => own ⟨own', same⟩]
        exact ih

end Trails

end PortTunnel.Tunnel
