import PortTunnel.Proofs.Trail
import PortTunnel.Tunnel.Session

/-!
# The moves of a session

The step function of a session decides by its stage and by a label.  Here the
same steps are a relation with one rule for each way in which a session can go
on.  A rule says all that is known when it applies: the stage, the guard, the
next session and the report.  Invariants of sessions are shown rule by rule and
never open the step function again.

The history of a session is the trail of its labels, each with the report that
was made.
-/

namespace PortTunnel.Tunnel

namespace Session

/-- How one step of a pair changes its phase, the number of calls and the counters. -/
inductive PairMoves (session : Session) (phase : Phase) (isCancelled : Bool) (client : Nat)
    (label : Pair.Label) : Phase → Nat → Status.Counters → Prop
  | ended {pair : Pair} {exit : Exit} (found : phase.pair? client = some pair)
      (step : Pair.step session.forward.destination session.calls isCancelled pair.stage label =
        some (.ends exit)) :
      PairMoves session phase isCancelled client label (phase.finish client exit) session.calls
        { session.counters with live := session.counters.live - 1 }
  | silent {pair : Pair} {stage : PairStage} (found : phase.pair? client = some pair)
      (step : Pair.step session.forward.destination session.calls isCancelled pair.stage label =
        some (.continues stage .none)) :
      PairMoves session phase isCancelled client label (phase.setStage client stage)
        session.calls session.counters
  | called {pair : Pair} {stage : PairStage} (found : phase.pair? client = some pair)
      (step : Pair.step session.forward.destination session.calls isCancelled pair.stage label =
        some (.continues stage .called)) :
      PairMoves session phase isCancelled client label (phase.setStage client stage)
        (session.calls + 1) session.counters
  | opened {pair : Pair} {stage : PairStage} (found : phase.pair? client = some pair)
      (step : Pair.step session.forward.destination session.calls isCancelled pair.stage label =
        some (.continues stage .opened)) :
      PairMoves session phase isCancelled client label
        { phase.setStage client stage with opened := phase.opened + 1 }
        session.calls session.counters
  | carried {pair : Pair} {stage : PairStage} {direction : Direction} {bytes : Nat}
      (found : phase.pair? client = some pair)
      (step : Pair.step session.forward.destination session.calls isCancelled pair.stage label =
        some (.continues stage (.carried direction bytes))) :
      PairMoves session phase isCancelled client label (phase.setStage client stage)
        session.calls (session.count direction bytes).counters

theorem pairStep_eq_some_iff {session next : Session} {phase : Phase} {isCancelled : Bool}
    {place : Phase → Stage} {client : Nat} {label : Pair.Label} {report : Option Report} :
    session.pairStep phase isCancelled place client label = some (next, report) ↔
      report = none ∧ ∃ phase' calls counters,
        PairMoves session phase isCancelled client label phase' calls counters ∧
          next = { session with stage := place phase', calls := calls, counters := counters } := by
  constructor
  · intro step
    unfold pairStep at step
    split at step
    · cases step
    · rename_i pair found
      split at step
      · cases step
      · rename_i exit ends
        cases step
        exact ⟨rfl, _, _, _, .ended found ends, rfl⟩
      · rename_i stage effect continues
        cases effect with
        | none =>
            cases step
            exact ⟨rfl, _, _, _, .silent found continues, rfl⟩
        | called =>
            cases step
            exact ⟨rfl, _, _, _, .called found continues, rfl⟩
        | opened =>
            cases step
            exact ⟨rfl, _, _, _, .opened found continues, rfl⟩
        | carried direction bytes =>
            cases step
            refine ⟨rfl, _, _, _, .carried found continues, ?_⟩
            cases direction <;> rfl
  · rintro ⟨rfl, phase', calls, counters, moves, rfl⟩
    cases moves with
    | ended found step => simp [pairStep, found, step]
    | silent found step => simp [pairStep, found, step, silently]
    | called found step => simp [pairStep, found, step, silently]
    | opened found step => simp [pairStep, found, step, silently, Phase.setStage]
    | @carried _ _ direction _ found step =>
        cases direction <;> simp [pairStep, found, step, silently, count]

/-- The steps of a session. -/
inductive Moves (session : Session) : Label → Session → Option Report → Prop
  | stop : Moves session .stop { session with stopRequested := true } none
  | bound (stage_eq : session.stage = .unbound) :
      Moves session .bound { session with stage := .announcing } none
  | refused {refusal : BindRefusal} (stage_eq : session.stage = .unbound) :
      Moves session (.refused refusal) { session with stage := .closed }
        (some (.state .closed (some (.ofBind session.forward.localEndpoint.text refusal))))
  | announce (stage_eq : session.stage = .announcing) :
      Moves session .announce { session with stage := .connecting none }
        (some (.state .connecting none))
  | call (stage_eq : session.stage = .connecting none) :
      Moves session .call
        { session with stage := .connecting (some session.calls), calls := session.calls + 1 } none
  | opened {call : Nat} (stage_eq : session.stage = .connecting (some call)) :
      Moves session .opened { session with stage := .connected call } none
  | openFailed {call : Nat} {failure : Failure}
      (stage_eq : session.stage = .connecting (some call)) :
      Moves session (.openFailed failure) { session with stage := .failed failure } none
  | heedConnecting {call : Option Nat} (stage_eq : session.stage = .connecting call)
      (asked : session.stopRequested = true) :
      Moves session .heed { session with stage := .ending none } none
  | activate {channel : Nat} (stage_eq : session.stage = .connected channel) :
      Moves session .activate
        { session with stage := .serving { standby := some channel } false, failures := 0 }
        (some (.state .active none))
  | heedServing {phase : Phase} (stage_eq : session.stage = .serving phase false)
      (asked : session.stopRequested = true) :
      Moves session .heed { session with stage := .draining phase none } none
  | accept {phase : Phase} (stage_eq : session.stage = .serving phase false) :
      Moves session .accept
        { session with
          stage := .serving (phase.accept session.counters.connections) false
          counters :=
            { session.counters with
              connections := session.counters.connections + 1
              live := session.counters.live + 1 } }
        none
  | acceptFailed {phase : Phase} (stage_eq : session.stage = .serving phase false) :
      Moves session .acceptFailed { session with stage := .serving phase true } none
  | resume {phase : Phase} (stage_eq : session.stage = .serving phase true) :
      Moves session .resume { session with stage := .serving phase false } none
  | joinLost {phase joined : Phase} {client : Nat} {failure : Failure}
      (stage_eq : session.stage = .serving phase false)
      (join_eq : phase.join? client = some (.remoteFailed failure, joined)) :
      Moves session (.join client) { session with stage := .draining joined (some failure) } none
  | joinLastUnopened {phase joined : Phase} {client : Nat} {failure : Failure}
      (stage_eq : session.stage = .serving phase false)
      (join_eq : phase.join? client = some (.openFailed failure, joined))
      (quiet : joined.isQuiet = true) :
      Moves session (.join client) { session with stage := .draining joined (some failure) } none
  | joinUnopened {phase joined : Phase} {client : Nat} {failure : Failure}
      (stage_eq : session.stage = .serving phase false)
      (join_eq : phase.join? client = some (.openFailed failure, joined))
      (busy : joined.isQuiet = false) :
      Moves session (.join client)
        { session with
          stage := .serving { joined with degraded := true, seen := joined.opened } false }
        (some (.state .degraded (some failure)))
  | joinEnded {phase joined : Phase} {client : Nat} {exit : Exit}
      (stage_eq : session.stage = .serving phase false)
      (join_eq : phase.join? client = some (exit, joined))
      (harmless : exit = .closed ∨ exit = .localFailed ∨ exit = .cancelled) :
      Moves session (.join client) { session with stage := .serving joined false } none
  | recover {phase : Phase} (stage_eq : session.stage = .serving phase false)
      (degraded : phase.degraded = true) (fresh : phase.seen ≠ phase.opened) :
      Moves session .recover
        { session with
          stage := .serving { phase with degraded := false, seen := phase.opened } false }
        (some (.state .active none))
  | pairServing {phase phase' : Phase} {pausing : Bool} {client calls : Nat} {label : Pair.Label}
      {counters : Status.Counters} (stage_eq : session.stage = .serving phase pausing)
      (moves : PairMoves session phase session.stopRequested client label phase' calls counters) :
      Moves session (.pair client label)
        { session with stage := .serving phase' pausing, calls := calls, counters := counters }
        none
  | pairDraining {phase phase' : Phase} {failure : Option Failure} {client calls : Nat}
      {label : Pair.Label} {counters : Status.Counters}
      (stage_eq : session.stage = .draining phase failure)
      (moves : PairMoves session phase true client label phase' calls counters) :
      Moves session (.pair client label)
        { session with stage := .draining phase' failure, calls := calls, counters := counters }
        none
  | joinDraining {phase joined : Phase} {failure : Option Failure} {client : Nat} {exit : Exit}
      (stage_eq : session.stage = .draining phase failure)
      (join_eq : phase.join? client = some (exit, joined)) :
      Moves session (.join client) { session with stage := .draining joined failure } none
  | drainedFailed {phase : Phase} {failure : Failure}
      (stage_eq : session.stage = .draining phase (some failure)) (quiet : phase.isQuiet = true) :
      Moves session .drained { session with stage := .failed failure } none
  | drainedAsked {phase : Phase} (stage_eq : session.stage = .draining phase none)
      (quiet : phase.isQuiet = true) :
      Moves session .drained { session with stage := .ending none } none
  | degrade {failure : Failure} (stage_eq : session.stage = .failed failure) :
      Moves session .degrade
        { session with stage := .judging failure, failures := oneMore session.failures }
        (some (.state .degraded (some failure)))
  | giveUp {failure : Failure} (stage_eq : session.stage = .judging failure)
      (tooMuch : session.givesUp failure = true) :
      Moves session .giveUp { session with stage := .ending (some failure) } none
  | schedule {failure : Failure} {words : List UInt64}
      (stage_eq : session.stage = .judging failure) (bearable : session.givesUp failure = false) :
      Moves session (.schedule words) { session with stage := .resting }
        (some (.retry session.failures (session.policy.delay (session.failures - 1) words).1))
  | wake (stage_eq : session.stage = .resting) :
      Moves session .wake { session with stage := .announcing } none
  | heedResting (stage_eq : session.stage = .resting) (asked : session.stopRequested = true) :
      Moves session .heed { session with stage := .ending none } none
  | close {failure : Option Failure} (stage_eq : session.stage = .ending failure) :
      Moves session .close { session with stage := .closed } (some (.state .closed failure))
  | drop (open_ : session.isOver = false) :
      Moves session .drop { session with stage := .dropped } none

/-- A step of the function is a move. -/
theorem Moves.of_step {session next : Session} {label : Label} {report : Option Report} :
    session.step label = some (next, report) → Moves session label next report := by
  fun_cases Session.step session label <;> intro step
  case case1 => cases step; exact .stop
  case case2 stage_eq => cases step; exact .bound stage_eq
  case case3 refusal stage_eq => cases step; exact .refused stage_eq
  case case4 stage_eq => cases step; exact .announce stage_eq
  case case5 stage_eq => cases step; exact .call stage_eq
  case case6 call stage_eq => cases step; exact .opened stage_eq
  case case7 call failure stage_eq => cases step; exact .openFailed stage_eq
  case case8 call stage_eq asked => cases step; exact .heedConnecting stage_eq asked
  case case10 channel stage_eq => cases step; exact .activate stage_eq
  case case11 phase stage_eq asked => cases step; exact .heedServing stage_eq asked
  case case13 phase stage_eq client => cases step; exact .accept stage_eq
  case case14 phase stage_eq => cases step; exact .acceptFailed stage_eq
  case case15 phase stage_eq => cases step; exact .resume stage_eq
  case case16 phase client stage_eq exit joined join_eq =>
    -- What a joined pair means depends on how it ended.
    cases exit with
    | remoteFailed failure => cases step; exact .joinLost stage_eq join_eq
    | openFailed failure =>
        cases quiet : joined.isQuiet with
        | true =>
            simp only [Session.joined, quiet, if_true] at step
            cases step
            exact .joinLastUnopened stage_eq join_eq quiet
        | false =>
            simp only [Session.joined, quiet, Bool.false_eq_true, if_false] at step
            cases step
            exact .joinUnopened stage_eq join_eq quiet
    | closed => cases step; exact .joinEnded stage_eq join_eq (.inl rfl)
    | localFailed => cases step; exact .joinEnded stage_eq join_eq (.inr (.inl rfl))
    | cancelled => cases step; exact .joinEnded stage_eq join_eq (.inr (.inr rfl))
  case case18 phase stage_eq fresh =>
    simp only [Bool.and_eq_true, bne_iff_ne] at fresh
    cases step
    exact .recover stage_eq fresh.1 fresh.2
  case case20 phase pausing client label stage_eq =>
    obtain ⟨rfl, phase', calls, counters, moves, rfl⟩ := pairStep_eq_some_iff.1 step
    exact .pairServing stage_eq moves
  case case21 phase failure client label stage_eq =>
    obtain ⟨rfl, phase', calls, counters, moves, rfl⟩ := pairStep_eq_some_iff.1 step
    exact .pairDraining stage_eq moves
  case case22 phase failure client stage_eq exit joined join_eq =>
    cases step
    exact .joinDraining stage_eq join_eq
  case case24 phase quiet failure stage_eq => cases step; exact .drainedFailed stage_eq quiet
  case case25 phase quiet stage_eq => cases step; exact .drainedAsked stage_eq quiet
  case case27 failure stage_eq => cases step; exact .degrade stage_eq
  case case28 failure stage_eq tooMuch => cases step; exact .giveUp stage_eq tooMuch
  case case31 failure words stage_eq bearable delay =>
    cases step
    exact .schedule stage_eq (Bool.eq_false_iff.2 bearable)
  case case32 stage_eq => cases step; exact .wake stage_eq
  case case33 stage_eq asked => cases step; exact .heedResting stage_eq asked
  case case35 failure stage_eq => cases step; exact .close stage_eq
  case case38 notClosed notDropped =>
    cases step
    refine .drop ?_
    unfold isOver
    split
    · exact (notClosed ‹_›).elim
    · exact (notDropped ‹_›).elim
    · rfl
  all_goals cases step

/-- A move is a step of the function. -/
theorem Moves.step {session next : Session} {label : Label} {report : Option Report}
    (moves : Moves session label next report) : session.step label = some (next, report) := by
  cases moves with
  | stop => simp [Session.step]
  | joinEnded stage_eq join_eq harmless =>
      rcases harmless with rfl | rfl | rfl <;>
        simp [Session.step, stage_eq, join_eq, joined, silently]
  | pairServing stage_eq moves =>
      simp only [Session.step, stage_eq]
      exact pairStep_eq_some_iff.2 ⟨rfl, _, _, _, moves, rfl⟩
  | pairDraining stage_eq moves =>
      simp only [Session.step, stage_eq]
      exact pairStep_eq_some_iff.2 ⟨rfl, _, _, _, moves, rfl⟩
  | drop open_ =>
      cases stage_eq : session.stage <;> simp_all [Session.step, isOver, silently]
  | _ => simp_all [Session.step, silently, reporting, joined]

/-- The relation holds exactly what the step function does. -/
theorem step_eq_some_iff {session next : Session} {label : Label} {report : Option Report} :
    session.step label = some (next, report) ↔ Moves session label next report :=
  ⟨Moves.of_step, Moves.step⟩

/-! ## What moves leave alone -/

/-- Joining a pair takes it off the list of those that ended. -/
theorem join?_eq_some {phase joined : Phase} {client : Nat} {exit : Exit}
    (join_eq : phase.join? client = some (exit, joined)) :
    (client, exit) ∈ phase.ended ∧
      joined = { phase with ended := phase.ended.filter (·.1 != client) } := by
  unfold Phase.join? at join_eq
  split at join_eq
  · rename_i other ended found
    cases join_eq
    have same : other = client := by simpa using List.find?_some found
    exact ⟨same ▸ List.mem_of_find?_eq_some found, rfl⟩
  · cases join_eq

/-- A step of a pump ends its pair by a failed read, a failed write or the end of both streams,
or the pair goes on. -/
theorem relayStep_cases {destination : Destination} {channel : Nat} {outbound inbound : Pump}
    {direction : Direction} {label : Pump.Label} {outcome : Pair.Outcome}
    (step : Pair.relayStep destination channel outbound inbound direction label = some outcome) :
    (∃ reason, outcome = .ends (Pair.readExit destination reason direction)) ∨
      outcome = .ends (Pair.writeExit direction) ∨ outcome = .ends .closed ∨
        ∃ outbound' inbound' effect,
          outcome = .continues (.relaying channel outbound' inbound') effect := by
  have outcome_cases (outbound inbound : Pump) (effect : Pair.Effect) :
      Pair.relayOutcome channel outbound inbound effect = .ends .closed ∨
        Pair.relayOutcome channel outbound inbound effect =
          .continues (.relaying channel outbound inbound) effect := by
    unfold Pair.relayOutcome
    split
    · exact .inl rfl
    · exact .inr rfl
  have relayed {outbound inbound : Pump} {effect : Pair.Effect}
      (same : some (Pair.relayOutcome channel outbound inbound effect) = some outcome) :
      outcome = .ends .closed ∨ ∃ outbound' inbound' effect,
        outcome = .continues (.relaying channel outbound' inbound') effect := by
    rcases outcome_cases outbound inbound effect with closes | continues
    · exact .inl ((Option.some.inj same).symm.trans closes)
    · exact .inr ⟨_, _, _, (Option.some.inj same).symm.trans continues⟩
  simp only [Pair.relayStep] at step
  split at step
  · cases step
  · rename_i reason _
    cases step
    exact .inl ⟨reason, rfl⟩
  · cases step
    exact .inr (.inl rfl)
  · cases direction <;> exact .inr (.inr (relayed step))

/-- A pump never opens a channel. -/
theorem relayStep_ne_opened {destination : Destination} {channel : Nat} {outbound inbound : Pump}
    {direction : Direction} {label : Pump.Label} {stage : PairStage} :
    Pair.relayStep destination channel outbound inbound direction label ≠
      some (.continues stage .opened) := by
  have outcome_ne (outbound inbound : Pump) (direction : Direction) (count : Nat) :
      Pair.relayOutcome channel outbound inbound
        (if count = 0 then .none else .carried direction count) ≠ .continues stage .opened := by
    unfold Pair.relayOutcome
    split
    · exact nofun
    · split <;> exact nofun
  intro step
  cases direction
  all_goals
    simp only [Pair.relayStep] at step
    split at step
    · cases step
    · cases step
    · cases step
    · exact outcome_ne _ _ _ _ (Option.some.inj step)

theorem eq_opened_of_step {destination : Destination} {nextCall : Nat} {isCancelled : Bool}
    {stage stage' : PairStage} {label : Pair.Label} :
    Pair.step destination nextCall isCancelled stage label = some (.continues stage' .opened) →
      label = .opened := by
  fun_cases Pair.step destination nextCall isCancelled stage label <;> intro step
  case case3 => rfl
  case case5 => exact (relayStep_ne_opened step).elim
  all_goals cases step

/-- A pump never ends a pair as one without a channel. -/
theorem relayStep_ne_openFailed {destination : Destination} {channel : Nat}
    {outbound inbound : Pump} {direction : Direction} {label : Pump.Label} {failure : Failure} :
    Pair.relayStep destination channel outbound inbound direction label ≠
      some (.ends (.openFailed failure)) := by
  intro step
  rcases relayStep_cases step with ⟨reason, same⟩ | same | same | ⟨_, _, _, same⟩
  · cases direction <;> cases same
  · cases direction <;> cases same
  · cases same
  · cases same

theorem eq_openFailed_of_step {destination : Destination} {nextCall : Nat} {isCancelled : Bool}
    {stage : PairStage} {label : Pair.Label} {failure : Failure} :
    Pair.step destination nextCall isCancelled stage label = some (.ends (.openFailed failure)) →
      label = .openFailed failure := by
  fun_cases Pair.step destination nextCall isCancelled stage label <;> intro step
  case case4 => cases step; rfl
  case case5 => exact (relayStep_ne_openFailed step).elim
  all_goals cases step

namespace PairMoves

variable {session : Session} {phase phase' : Phase} {isCancelled : Bool} {client calls : Nat}
  {label : Pair.Label} {counters : Status.Counters}

theorem degraded_eq
    (moves : PairMoves session phase isCancelled client label phase' calls counters) :
    phase'.degraded = phase.degraded := by
  cases moves <;> rfl

theorem seen_eq
    (moves : PairMoves session phase isCancelled client label phase' calls counters) :
    phase'.seen = phase.seen := by
  cases moves <;> rfl

/-- Only the answer to a call adds to the channels that were opened. -/
theorem opened_eq_or
    (moves : PairMoves session phase isCancelled client label phase' calls counters) :
    phase'.opened = phase.opened ∨ label = .opened := by
  cases moves with
  | opened found step => exact .inr (eq_opened_of_step step)
  | _ => exact .inl rfl

end PairMoves

/-- A session keeps its forward and its policy. -/
theorem Moves.forward_eq_and_policy_eq {session next : Session} {label : Label}
    {report : Option Report} (moves : Moves session label next report) :
    next.forward = session.forward ∧ next.policy = session.policy := by
  cases moves <;> exact ⟨rfl, rfl⟩

/-- Only a request to stop changes what is known of one. -/
theorem Moves.stopRequested_iff {session next : Session} {label : Label} {report : Option Report}
    (moves : Moves session label next report) :
    next.stopRequested = true ↔ session.stopRequested = true ∨ label = .stop := by
  cases moves <;> simp

/-- A session closes when it reports so. -/
theorem Moves.closed_iff {session next : Session} {label : Label} {report : Option Report}
    (moves : Moves session label next report) :
    next.stage = .closed ↔
      session.stage = .closed ∨ ∃ failure, report = some (.state .closed failure) := by
  cases moves with
  | stop => simp
  | drop open_ =>
      have unclosed : session.stage ≠ .closed := fun closed => by simp [isOver, closed] at open_
      simp [unclosed]
  | _ => simp_all

/-- Only tearing it down makes a session dropped. -/
theorem Moves.dropped_iff {session next : Session} {label : Label}
    {report : Option Report} (moves : Moves session label next report) :
    next.stage = .dropped ↔ session.stage = .dropped ∨ label = .drop := by
  cases moves <;> simp_all

/-- No answer makes a session close. -/
theorem Moves.isAnswer_eq_false {session next : Session} {label : Label}
    {failure : Option Failure} (moves : Moves session label next (some (.state .closed failure))) :
    label.isAnswer = false := by
  cases moves <;> rfl

/-! ## Moves after a failure -/

section Failing

variable {session next : Session} {label : Label} {report : Option Report}

/-- A session that has reported a failure gives up or schedules a retry, as its policy says. -/
theorem Moves.of_judging {failure : Failure} (moves : Moves session label next report)
    (stage_eq : session.stage = .judging failure) :
    (label = .stop ∧ next = { session with stopRequested := true } ∧ report = none) ∨
      (label = .drop ∧ next = { session with stage := .dropped } ∧ report = none) ∨
      (session.givesUp failure = true ∧
        next = { session with stage := .ending (some failure) } ∧ report = none) ∨
      (session.givesUp failure = false ∧ next = { session with stage := .resting } ∧
        ∃ words, report = some (.retry session.failures
          (session.policy.delay (session.failures - 1) words).1)) := by
  cases moves with
  | stop => exact .inl ⟨rfl, rfl, rfl⟩
  | drop => exact .inr (.inl ⟨rfl, rfl, rfl⟩)
  | giveUp other_eq tooMuch =>
      cases stage_eq.symm.trans other_eq
      exact .inr (.inr (.inl ⟨tooMuch, rfl, rfl⟩))
  | @schedule _ words other_eq bearable =>
      cases stage_eq.symm.trans other_eq
      exact .inr (.inr (.inr ⟨bearable, rfl, words, rfl⟩))
  | _ => simp_all

/-- A session at its end closes and reports what it ended with. -/
theorem Moves.of_ending {failure : Option Failure} (moves : Moves session label next report)
    (stage_eq : session.stage = .ending failure) :
    (label = .stop ∧ next = { session with stopRequested := true } ∧ report = none) ∨
      (label = .drop ∧ next = { session with stage := .dropped } ∧ report = none) ∨
      (next = { session with stage := .closed } ∧ report = some (.state .closed failure)) := by
  cases moves with
  | stop => exact .inl ⟨rfl, rfl, rfl⟩
  | drop => exact .inr (.inl ⟨rfl, rfl, rfl⟩)
  | close other_eq =>
      cases stage_eq.symm.trans other_eq
      exact .inr (.inr ⟨rfl, rfl⟩)
  | _ => simp_all

/-- A session that is over only hears of requests to stop. -/
theorem Moves.of_isOver (moves : Moves session label next report)
    (gone : session.isOver = true) :
    label = .stop ∧ next = { session with stopRequested := true } ∧ report = none := by
  cases moves with
  | stop => exact ⟨rfl, rfl, rfl⟩
  | drop open_ => cases gone.symm.trans open_
  | _ => simp_all [isOver]

end Failing

/-! ## Histories -/

/-- A session that has not begun. -/
def fresh (forward : Forward) (policy : Retry.Policy) (stopRequested : Bool) : Session where
  forward := forward
  policy := policy
  stopRequested := stopRequested

/-- A forward for runs on fixed inputs. -/
def sampleForward : Forward where
  context := "dev"
  space := "web"
  kind := .service
  name := "api"
  localPort := 8080
  remotePort := 80
  bindAddress := default
  container := none

/-- A label that was followed, and the report made on the way. -/
abbrev Entry := Label × Option Report

/-- One step, noted down as an entry of a history. -/
def Goes (session : Session) (entry : Entry) (next : Session) : Prop :=
  session.step entry.1 = some (next, entry.2)

theorem Moves.goes {session next : Session} {label : Label} {report : Option Report}
    (moves : Moves session label next report) : Goes session (label, report) next :=
  moves.step

/-- A session keeps its forward and its policy along a trail. -/
theorem forward_eq_and_policy_eq_of_trail {start session : Session} {history : List Entry}
    (trail : Trail Goes start history session) :
    session.forward = start.forward ∧ session.policy = start.policy := by
  induction trail with
  | here => exact ⟨rfl, rfl⟩
  | onward _ step ih =>
      have kept := (step_eq_some_iff.1 step).forward_eq_and_policy_eq
      exact ⟨kept.1.trans ih.1, kept.2.trans ih.2⟩

/-- All that was reported. -/
def reports (history : List Entry) : List Report :=
  history.filterMap (·.2)

@[simp]
theorem reports_concat (history : List Entry) (entry : Entry) :
    reports (history ++ [entry]) = reports history ++ entry.2.toList := by
  cases reported : entry.2 <;> simp [reports, reported]

/-- Follow labels one after another and write the history of it. -/
def play : Session → List Label → Option (List Entry × Session)
  | session, [] => some ([], session)
  | session, label :: labels =>
      (session.step label).bind fun (next, report) =>
        (play next labels).map fun (history, last) => ((label, report) :: history, last)

/-- The history of labels that were followed is a trail. -/
theorem trail_of_play {session last : Session} {labels : List Label} {history : List Entry}
    (played : session.play labels = some (history, last)) :
    Trail Goes session history last := by
  induction labels generalizing session history with
  | nil =>
      cases played
      exact .here
  | cons label labels ih =>
      simp only [play, Option.bind_eq_some_iff, Option.map_eq_some_iff] at played
      obtain ⟨⟨next, report⟩, step_eq, ⟨later, final⟩, rest, both_eq⟩ := played
      cases both_eq
      have first : Goes session (label, report) next := step_eq
      exact .cons first (ih rest)

end Session

end PortTunnel.Tunnel
