import PortTunnel.Proofs.Tunnel.Channels

/-!
# Counting calls

A session makes a call for each connection and for each client, but for the first client of
a serving phase, who is given the channel of the connection.  Calls that are due are not
always made: a session that is asked to stop may forgo them.

The history tells how many calls were ever due.  Those that were made and those that are
due still add up to this number, as long as none is forgone, and never to more.
-/

namespace PortTunnel.Tunnel

open Session

/-! ## Serving phases -/

/-- A serving phase began with a channel, and nobody has been accepted since. -/
def Standing (start : Session) (history : List Entry) (channel : Nat) : Prop :=
  ∃ early report late ready,
    history = early ++ (.activate, report) :: late ∧ Trail Goes start early ready ∧
      ready.stage = .connected channel ∧ ∀ entry ∈ late, entry.1 ≠ .activate ∧ entry.1 ≠ .accept

/-- How a label changes the numbers of clients accepted in the serving phases, the last phase
first. -/
def Session.Label.visit : Label → List Nat → List Nat
  | .activate, counts => 0 :: counts
  | .accept, count :: counts => (count + 1) :: counts
  | _, counts => counts

/-- The numbers of clients accepted in the serving phases, the last phase first. -/
def visitors (history : List Entry) : List Nat :=
  history.foldl (fun counts entry => entry.1.visit counts) []

/-- The number of serving phases in which a client was accepted. -/
def visitedPhases (history : List Entry) : Nat :=
  (visitors history).countP (0 < ·)

/-- The number of connections that were tried. -/
def attempts (history : List Entry) : Nat :=
  history.countP (·.1 == .announce)

section Phases

variable {start session next : Session} {history : List Entry} {label : Label}
  {report : Option Report} {channel : Nat}

/-- How a step changes what stands by. -/
theorem Session.Moves.standby_cases {phase' : Phase} (moves : Moves session label next report)
    (served : next.phase? = some phase') :
    (∃ channel, label = .activate ∧ session.stage = .connected channel ∧
        phase'.standby = some channel) ∨
      (label = .accept ∧ phase'.standby = none ∧
        ∃ phase, session.phase? = some phase) ∨
      (label ≠ .activate ∧ label ≠ .accept ∧
        ∃ phase, session.phase? = some phase ∧ phase'.standby = phase.standby) := by
  cases moves with
  | stop => exact .inr (.inr ⟨nofun, nofun, phase', served, rfl⟩)
  | activate stage_eq =>
      cases served
      exact .inl ⟨_, rfl, stage_eq, rfl⟩
  | accept stage_eq =>
      cases served
      exact .inr (.inl ⟨rfl, rfl, _, phase?_of_serving stage_eq⟩)
  | heedServing stage_eq | acceptFailed stage_eq | resume stage_eq | recover stage_eq =>
      cases served
      exact .inr (.inr ⟨nofun, nofun, _, phase?_of_serving stage_eq, rfl⟩)
  | joinLost stage_eq join_eq | joinLastUnopened stage_eq join_eq | joinUnopened stage_eq join_eq
  | joinEnded stage_eq join_eq =>
      obtain ⟨-, rfl⟩ := join?_eq_some join_eq
      cases served
      exact .inr (.inr ⟨nofun, nofun, _, phase?_of_serving stage_eq, rfl⟩)
  | joinDraining stage_eq join_eq =>
      obtain ⟨-, rfl⟩ := join?_eq_some join_eq
      cases served
      exact .inr (.inr ⟨nofun, nofun, _, phase?_of_draining stage_eq, rfl⟩)
  | pairServing stage_eq moves =>
      cases served
      exact .inr (.inr ⟨nofun, nofun, _, phase?_of_serving stage_eq, moves.standby_eq⟩)
  | pairDraining stage_eq moves =>
      cases served
      exact .inr (.inr ⟨nofun, nofun, _, phase?_of_draining stage_eq, moves.standby_eq⟩)
  | _ => cases served

theorem standing_concat_iff (trail : Trail Goes start history session) :
    Standing start (history ++ [(label, report)]) channel ↔
      (label = .activate ∧ session.stage = .connected channel) ∨
        (label ≠ .activate ∧ label ≠ .accept ∧ Standing start history channel) := by
  constructor
  · rintro ⟨early, report', late, ready, history_eq, first, stage_eq, quiet⟩
    rcases concat_eq_append_cons history_eq with ⟨rfl, ⟨⟩, rfl⟩ | ⟨rest, rfl, rfl⟩
    · exact .inl ⟨rfl, eq_of_trails first trail ▸ stage_eq⟩
    · rw [List.forall_mem_append] at quiet
      have now := quiet.2 _ (List.mem_singleton_self _)
      exact .inr ⟨now.1, now.2, early, report', rest, ready, rfl, first, stage_eq, quiet.1⟩
  · rintro (⟨rfl, stage_eq⟩ | ⟨unactivated, unaccepted, before⟩)
    · exact ⟨history, report, [], session, rfl, trail, stage_eq, List.forall_mem_nil _⟩
    · rcases before with ⟨early, report', late, ready, rfl, first, stage_eq, quiet⟩
      refine ⟨early, report', late ++ [(label, report)], ready, by simp, first, stage_eq, ?_⟩
      rw [List.forall_mem_append, List.forall_mem_singleton]
      exact ⟨quiet, unactivated, unaccepted⟩

theorem visitors_concat (history : List Entry) (label : Label) (report : Option Report) :
    visitors (history ++ [(label, report)]) = label.visit (visitors history) := by
  rw [visitors, List.foldl_append]
  rfl

theorem Session.Label.visit_of_ne (counts : List Nat) (unactivated : label ≠ .activate)
    (unaccepted : label ≠ .accept) : label.visit counts = counts := by
  cases label with
  | activate => exact (unactivated rfl).elim
  | accept => exact (unaccepted rfl).elim
  | _ => rfl

/-- What the history tells of the channel that stands by. -/
structure Recalls (start : Session) (history : List Entry) (phase : Phase) : Prop where
  standing_iff : ∀ channel, phase.standby = some channel ↔ Standing start history channel
  /-- The channel has been taken exactly if clients were accepted. -/
  visited : ∃ count counts, visitors history = count :: counts ∧ (phase.standby = none ↔ 0 < count)

theorem Recalls.move {phase' : Phase}
    (recalls : ∀ phase, session.phase? = some phase → Recalls start history phase)
    (trail : Trail Goes start history session) (moves : Moves session label next report)
    (served : next.phase? = some phase') : Recalls start (history ++ [(label, report)]) phase' := by
  rcases moves.standby_cases served with ⟨channel, rfl, stage_eq, stands⟩ |
    ⟨rfl, taken, phase, before⟩ | ⟨unactivated, unaccepted, phase, before, same⟩
  · constructor
    · intro other
      rw [standing_concat_iff trail, stands, stage_eq]
      simp
    · refine ⟨0, _, visitors_concat history _ report, ?_⟩
      rw [stands]
      simp
  · constructor
    · intro other
      rw [standing_concat_iff trail, taken]
      simp
    · rcases (recalls phase before).visited with ⟨count, counts, visitors_eq, -⟩
      refine ⟨count + 1, counts, ?_, ?_⟩
      · rw [visitors_concat, visitors_eq]
        rfl
      · rw [taken]
        simp
  · constructor
    · intro other
      rw [standing_concat_iff trail, same, (recalls phase before).standing_iff other]
      simp [unactivated, unaccepted]
    · rw [visitors_concat, Label.visit_of_ne _ unactivated unaccepted, same]
      exact (recalls phase before).visited

end Phases

/-! ## Calls that are due -/

/-- The number of pairs that are to make a call. -/
def Phase.uncalled (phase : Phase) : Nat :=
  phase.running.countP (·.stage == .waiting none)

/-- The number of calls that are due and have not been made. -/
def Session.uncalled (session : Session) : Nat :=
  match session.stage with
  | .connecting none => 1
  | .serving phase _ | .draining phase _ => phase.uncalled
  | _ => 0

/-- By a step a call is forgone that was due. -/
inductive Session.Forgoes (session : Session) : Label → Prop
  | connection (stage_eq : session.stage = .connecting none) : Forgoes session .heed
  | pair {client : Nat} (runs : session.Runs client (.waiting none)) :
      Forgoes session (.pair client .cancelled)
  | tornDown (due : session.uncalled ≠ 0) : Forgoes session .drop

/-- The number of calls that become due by a step. -/
def Session.incurs (session : Session) : Label → Nat
  | .announce => 1
  | .accept => if session.spare? = none then 1 else 0
  | _ => 0

namespace Phase

variable {phase : Phase} {connections client : Nat} {pair : Pair}

/-- The pair of a client stands between those of others. -/
theorem Tidy.exists_split (tidy : phase.Tidy connections)
    (found : phase.pair? client = some pair) :
    ∃ before after, phase.running = before ++ pair :: after ∧
      ∀ other ∈ before ++ after, other.client ≠ client := by
  rcases mem_of_pair? found with ⟨running, rfl⟩
  rcases List.append_of_mem running with ⟨before, after, running_eq⟩
  refine ⟨before, after, running_eq, fun other member same => ?_⟩
  have distinct := (List.nodup_append.1 tidy.distinct).1
  rw [running_eq, List.map_append, List.map_cons, List.nodup_middle, ← List.map_append] at distinct
  exact (List.nodup_cons.1 distinct).1 (same ▸ List.mem_map_of_mem member)

theorem uncalled_setStage (tidy : phase.Tidy connections)
    (found : phase.pair? client = some pair) (stage : PairStage) :
    (phase.setStage client stage).uncalled + (if pair.stage = .waiting none then 1 else 0) =
      phase.uncalled + (if stage = .waiting none then 1 else 0) := by
  rcases tidy.exists_split found with ⟨before, after, running_eq, others⟩
  rw [List.forall_mem_append] at others
  have same {pairs : List Pair} (others : ∀ other ∈ pairs, other.client ≠ client) :
      pairs.map (fun other => if other.client = client then { other with stage := stage } else other) =
        pairs := by
    rw [List.map_congr_left fun other member => if_neg (others other member), List.map_id']
  have own := (mem_of_pair? found).2
  simp only [uncalled, setStage, running_eq, List.map_append, List.map_cons, same others.1,
    same others.2, own, if_true, List.countP_append, List.countP_cons, beq_iff_eq]
  omega

theorem uncalled_finish (tidy : phase.Tidy connections)
    (found : phase.pair? client = some pair) (exit : Exit) :
    (phase.finish client exit).uncalled + (if pair.stage = .waiting none then 1 else 0) =
      phase.uncalled := by
  rcases tidy.exists_split found with ⟨before, after, running_eq, others⟩
  rw [List.forall_mem_append] at others
  have same {pairs : List Pair} (others : ∀ other ∈ pairs, other.client ≠ client) :
      pairs.filter (·.client != client) = pairs :=
    List.filter_eq_self.2 fun other member => bne_iff_ne.2 (others other member)
  have own := (mem_of_pair? found).2
  simp only [uncalled, finish, running_eq, List.filter_append, List.filter_cons, same others.1,
    same others.2, own, bne_self_eq_false, List.countP_append, List.countP_cons, beq_iff_eq]
  simp
  omega

theorem uncalled_accept (phase : Phase) (client : Nat) :
    (phase.accept client).uncalled =
      phase.uncalled + if phase.standby = none then 1 else 0 := by
  simp [uncalled, accept, List.countP_append, List.countP_singleton]

theorem uncalled_of_isQuiet (quiet : phase.isQuiet = true) : phase.uncalled = 0 := by
  rw [isQuiet, Bool.and_eq_true, List.isEmpty_iff] at quiet
  rw [uncalled, quiet.1, List.countP_nil]

end Phase

section Due

variable {session next : Session} {label : Label} {report : Option Report}

theorem Session.uncalled_of_serving {phase : Phase} {pausing : Bool}
    (stage_eq : session.stage = .serving phase pausing) : session.uncalled = phase.uncalled := by
  rw [uncalled, stage_eq]

theorem Session.uncalled_of_draining {phase : Phase} {failure : Option Failure}
    (stage_eq : session.stage = .draining phase failure) : session.uncalled = phase.uncalled := by
  rw [uncalled, stage_eq]

/-- A step of a pair makes the call that is due, leaves it due or forgoes it. -/
theorem Session.PairMoves.due_cases {phase phase' : Phase} {isCancelled : Bool}
    {client calls : Nat} {own : Pair.Label} {counters : Status.Counters}
    (moves : PairMoves session phase isCancelled client own phase' calls counters)
    (tidy : session.Tidy) (phase_eq : session.phase? = some phase) :
    calls + phase'.uncalled = session.calls + phase.uncalled ∨
      (session.Forgoes (.pair client own) ∧
        calls + phase'.uncalled ≤ session.calls + phase.uncalled) := by
  have goesOn {pair : Pair} {stage : PairStage} {effect : Pair.Effect}
      (found : phase.pair? client = some pair)
      (step : Pair.step session.forward.destination session.calls isCancelled pair.stage own =
        some (.continues stage effect)) :
      (phase.setStage client stage).uncalled + (if effect = .called then 1 else 0) =
        phase.uncalled := by
    have uncalled_eq := Phase.uncalled_setStage (tidy phase phase_eq) found stage
    generalize pair.stage = before at step uncalled_eq
    cases Pair.Proceeds.of_step step with
    | calls | begins | opened => exact uncalled_eq
    | relays uncalled =>
        rw [if_neg uncalled]
        exact uncalled_eq
  cases moves with
  | @ended pair exit found step =>
      have uncalled_eq := Phase.uncalled_finish (tidy phase phase_eq) found exit
      by_cases waits : pair.stage = .waiting none
      · rw [waits] at step
        cases own with
        | cancelled =>
            have runs := (runs_iff_of_phase? phase_eq).2 ⟨pair, found, waits⟩
            exact .inr ⟨.pair runs, by omega⟩
        | _ => cases step
      · rw [if_neg waits] at uncalled_eq
        exact .inl (by omega)
  | silent found step | carried found step => exact .inl (congrArg _ (goesOn found step))
  | opened found step => exact .inl (congrArg _ (goesOn found step))
  | called found step =>
      have uncalled_eq := goesOn found step
      rw [if_pos rfl] at uncalled_eq
      exact .inl (by omega)

/-- A step makes calls due, makes them or forgoes them. -/
theorem Session.Moves.due_cases (moves : Moves session label next report) (tidy : session.Tidy) :
    next.calls + next.uncalled = session.calls + session.uncalled + session.incurs label ∨
      (session.Forgoes label ∧ session.incurs label = 0 ∧
        next.calls + next.uncalled ≤ session.calls + session.uncalled) := by
  cases moves with
  | stop => exact .inl rfl
  | announce stage_eq | call stage_eq =>
      left
      simp [uncalled, stage_eq, incurs]
  | @heedConnecting call stage_eq =>
      cases call with
      | none => exact .inr ⟨.connection stage_eq, rfl, Nat.le_add_right _ _⟩
      | some => exact .inl (by simp [uncalled, stage_eq, incurs])
  | accept stage_eq =>
      left
      rw [uncalled_of_serving stage_eq, uncalled_of_serving rfl, Phase.uncalled_accept, incurs,
        spare?_of_serving stage_eq, Nat.add_assoc]
  | heedServing stage_eq | acceptFailed stage_eq | resume stage_eq | recover stage_eq =>
      left
      rw [uncalled_of_serving stage_eq]
      rfl
  | joinLost stage_eq join_eq | joinLastUnopened stage_eq join_eq | joinUnopened stage_eq join_eq
  | joinEnded stage_eq join_eq =>
      obtain ⟨-, rfl⟩ := join?_eq_some join_eq
      left
      rw [uncalled_of_serving stage_eq]
      rfl
  | joinDraining stage_eq join_eq =>
      obtain ⟨-, rfl⟩ := join?_eq_some join_eq
      left
      rw [uncalled_of_draining stage_eq]
      rfl
  | pairServing stage_eq moves =>
      rw [uncalled_of_serving stage_eq, uncalled_of_serving rfl]
      rcases moves.due_cases tidy (phase?_of_serving stage_eq) with same | ⟨forgoes, less⟩
      · exact .inl same
      · exact .inr ⟨forgoes, rfl, less⟩
  | pairDraining stage_eq moves =>
      rw [uncalled_of_draining stage_eq, uncalled_of_draining rfl]
      rcases moves.due_cases tidy (phase?_of_draining stage_eq) with same | ⟨forgoes, less⟩
      · exact .inl same
      · exact .inr ⟨forgoes, rfl, less⟩
  | drainedFailed stage_eq quiet | drainedAsked stage_eq quiet =>
      left
      rw [uncalled_of_draining stage_eq, Phase.uncalled_of_isQuiet quiet]
      rfl
  | drop =>
      by_cases due : session.uncalled = 0
      · exact .inl (by rw [due]; rfl)
      · exact .inr ⟨.tornDown due, rfl, Nat.le_add_right _ _⟩
  | bound stage_eq | refused stage_eq | opened stage_eq | openFailed stage_eq | activate stage_eq
  | degrade stage_eq | giveUp stage_eq | schedule stage_eq | wake stage_eq | heedResting stage_eq
  | close stage_eq =>
      left
      rw [uncalled, uncalled, stage_eq]
      rfl

end Due

/-! ## Calls along a trail -/

/-- No call has been forgone. -/
def Unforgone (start : Session) (history : List Entry) : Prop :=
  ∀ early label report late middle, history = early ++ (label, report) :: late →
    Trail Goes start early middle → ¬ middle.Forgoes label

section Counting

variable {start session next : Session} {history : List Entry} {label : Label}
  {report : Option Report}

theorem Unforgone.of_concat (unforgone : Unforgone start (history ++ [(label, report)]))
    (trail : Trail Goes start history session) :
    Unforgone start history ∧ ¬ session.Forgoes label := by
  constructor
  · rintro early label' report' late middle rfl
    exact unforgone early label' report' (late ++ [(label, report)]) middle (by simp)
  · exact unforgone history label report [] session rfl trail

/-- Labels by which a call may be forgone. -/
def Session.Label.mayForgo : Label → Bool
  | .heed | .drop | .pair _ .cancelled => true
  | _ => false

/-- Without requests to stop, teardown and cancelled pairs no call is forgone. -/
theorem unforgone_of_labels (harmless : ∀ entry ∈ history, entry.1.mayForgo = false) :
    Unforgone start history := by
  rintro early label report late middle rfl - forgoes
  have unlikely := harmless (label, report) (by simp)
  cases forgoes <;> cases unlikely

theorem attempts_concat (history : List Entry) (label : Label) (report : Option Report) :
    attempts (history ++ [(label, report)]) =
      if label = .announce then attempts history + 1 else attempts history := by
  by_cases announced : label = .announce <;> simp [attempts, announced]

/-- What becomes due by a step is told by the history. -/
theorem due_concat (recalls : ∀ phase, session.phase? = some phase → Recalls start history phase)
    (moves : Moves session label next report) :
    attempts (history ++ [(label, report)]) + acceptances (history ++ [(label, report)]) +
        visitedPhases history =
      attempts history + acceptances history + visitedPhases (history ++ [(label, report)]) +
        session.incurs label := by
  rw [attempts_concat, acceptances_concat, visitedPhases, visitedPhases, visitors_concat]
  by_cases accepts : label = .accept
  · subst accepts
    cases moves with
    | accept stage_eq =>
        have recalled := recalls _ (phase?_of_serving stage_eq)
        rcases recalled.visited with ⟨count, counts, visitors_eq, taken_iff⟩
        rw [visitors_eq, Label.visit, incurs, spare?_of_serving stage_eq]
        simp only [taken_iff, List.countP_cons, decide_eq_true_eq, Nat.succ_pos, if_true,
          reduceCtorEq, if_false]
        omega
  · by_cases activates : label = .activate
    · subst activates
      simp [Label.visit, incurs]
    · rw [Label.visit_of_ne _ activates accepts, if_neg accepts]
      cases label with
      | announce => simp [incurs]; omega
      | accept => exact (accepts rfl).elim
      | _ => simp [incurs]

end Counting

section Trails

variable {forward : Forward} {policy : Retry.Policy} {asked : Bool} {history : List Entry}
  {session : Session}

theorem recalls_of_trail (trail : Trail Goes (fresh forward policy asked) history session) :
    ∀ phase, session.phase? = some phase → Recalls (fresh forward policy asked) history phase := by
  induction trail with
  | here => exact nofun
  | onward trail step ih => exact fun phase => .move ih trail (step_eq_some_iff.1 step)

/-- The calls that were made or are due are no more than ever became due. -/
theorem due_le_of_trail (trail : Trail Goes (fresh forward policy asked) history session) :
    session.calls + session.uncalled + visitedPhases history ≤
      attempts history + acceptances history := by
  induction trail with
  | here => exact Nat.le_refl 0
  | @onward history middle entry last trail step ih =>
      rcases entry with ⟨label, report⟩
      have moves : Moves middle label last report := step_eq_some_iff.1 step
      have due := due_concat (recalls_of_trail trail) moves
      rcases moves.due_cases (tidy_of_trail trail) with same | ⟨-, -, less⟩ <;> omega

/-- They are as many, if none was forgone. -/
theorem due_eq_of_trail (trail : Trail Goes (fresh forward policy asked) history session)
    (unforgone : Unforgone (fresh forward policy asked) history) :
    session.calls + session.uncalled + visitedPhases history =
      attempts history + acceptances history := by
  induction trail with
  | here => rfl
  | @onward history middle entry last trail step ih =>
      rcases entry with ⟨label, report⟩
      have moves : Moves middle label last report := step_eq_some_iff.1 step
      have due := due_concat (recalls_of_trail trail) moves
      have parts := Unforgone.of_concat unforgone trail
      have before := ih parts.1
      rcases moves.due_cases (tidy_of_trail trail) with same | ⟨forgoes, -⟩
      · omega
      · exact (parts.2 forgoes).elim

/-- Who has been given the channel of a connection: the first client that was accepted in the
serving phase, if anyone was. -/
theorem obtains_standby_iff (trail : Trail Goes (fresh forward policy asked) history session)
    {client channel : Nat} :
    Obtains (fresh forward policy asked) history .standby client channel ↔
      ∃ early report late, history = early ++ (.accept, report) :: late ∧
        client = acceptances early ∧ Standing (fresh forward policy asked) early channel := by
  constructor
  · rintro ⟨early, label, report, late, middle, rfl, first, provides⟩
    cases provides with
    | standby stage_eq stands =>
        have recalled := recalls_of_trail first _ (phase?_of_serving stage_eq)
        exact ⟨early, report, late, rfl, connections_eq_acceptances first,
          (recalled.standing_iff channel).1 stands⟩
  · rintro ⟨early, report, late, rfl, rfl, standing⟩
    rcases trail.step_at with ⟨middle, later, first, step, -⟩
    cases step_eq_some_iff.1 step with
    | accept stage_eq =>
        have recalled := recalls_of_trail first _ (phase?_of_serving stage_eq)
        have provides := Provides.standby stage_eq ((recalled.standing_iff channel).2 standing)
        rw [connections_eq_acceptances first] at provides
        exact ⟨early, .accept, _, late, middle, rfl, first, provides⟩

/-- How the clients of a session are supplied with channels, by its history. -/
structure Supplied (start : Session) (history : List Entry) (session : Session) : Prop where
  /-- A client that is accepted is given the channel of the last connection, if nobody has been
  accepted since. -/
  accepts : ∀ report next, Goes session (.accept, report) next →
    ∃ given, next.Runs (acceptances history) (.waiting given) ∧
      ∀ channel, given = some channel ↔ Standing start history channel
  given_iff : ∀ client channel, Obtains start history .standby client channel ↔
    ∃ early report late, history = early ++ (.accept, report) :: late ∧
      client = acceptances early ∧ Standing start early channel
  /-- A pair starts at most once. -/
  starts : ∀ client, (pairLabels client history).count .start ≤ 1
  /-- A pair uses the channel that it was given, or the one that its own call has opened. -/
  uses : ∀ client channel outbound inbound,
    session.Runs client (.relaying channel outbound inbound) →
      Obtains start history .standby client channel ∨
        (Obtains start history .call client channel ∧ .opened ∈ pairLabels client history)
  /-- Nobody obtains a second channel. -/
  single : ∀ source source' client channel channel',
    Obtains start history source client channel → Obtains start history source' client channel' →
      source = source' ∧ channel = channel'
  /-- Nobody obtains the channel of another client. -/
  unshared : ∀ source source' client client' channel,
    Obtains start history source client channel → Obtains start history source' client' channel →
      client = client'
  /-- No channel that a pair has or waits for is that of another pair, now or before. -/
  apart : ∀ early late middle client client' stage stage' channel, history = early ++ late →
    Trail Goes start early middle → middle.Runs client stage → session.Runs client' stage' →
      stage.channel? = some channel → stage'.channel? = some channel → client = client'
  /-- Calls are counted as they are made. -/
  counts : ∀ label report next, Goes session (label, report) next →
    (next.calls = session.calls ∧ ¬ session.MakesCall label) ∨
      (next.calls = session.calls + 1 ∧ session.MakesCall label)
  calls_le : session.calls + visitedPhases history ≤ attempts history + acceptances history
  calls_eq : Unforgone start history →
    session.calls + session.uncalled + visitedPhases history =
      attempts history + acceptances history
  /-- No call is due in the end. -/
  settled : session.isOver = true → session.uncalled = 0

/-- In every run of a session, the channel of a connection is for the first client that is
accepted then, and any other client uses the channel of its only call.  No channel is used by
two clients.  The session makes no more calls than one for each connection that it tries and
one for each client but the first of a serving phase, and it makes all of these if it forgoes
none. -/
theorem clients_are_supplied (trail : Trail Goes (fresh forward policy asked) history session) :
    Supplied (fresh forward policy asked) history session := by
  have provided := provided_of_trail trail
  constructor
  case accepts =>
    intro report next step
    have moves : Moves session .accept next report := step_eq_some_iff.1 step
    rcases moves.runs_newcomer (tidy_of_trail trail) with ⟨phase, stage_eq, begins⟩
    rw [connections_eq_acceptances trail] at begins
    have recalled := recalls_of_trail trail phase (phase?_of_serving stage_eq)
    exact ⟨phase.standby, begins, recalled.standing_iff⟩
  case given_iff => exact fun client channel => obtains_standby_iff trail
  case starts => exact count_start_le_one trail
  case uses => exact fun client channel outbound inbound runs => provided.entitled client _ runs
  case single =>
    exact fun source source' client channel channel' => channel_eq_of_obtains trail
  case unshared =>
    exact fun source source' client client' channel => client_eq_of_obtains trail
  case apart =>
    rintro early late middle client client' stage stage' channel rfl first runs runs' has has'
    have entitled := (provided_of_trail first).entitled client stage runs
    rcases entitled.exists_obtains has with ⟨source, obtains⟩
    rcases (provided.entitled client' stage' runs').exists_obtains has' with ⟨source', obtains'⟩
    exact client_eq_of_obtains trail (obtains.append late) obtains'
  case counts =>
    intro label report next step
    have moves : Moves session label next report := step_eq_some_iff.1 step
    exact moves.calls_eq_or
  case calls_le =>
    have due := due_le_of_trail trail
    omega
  case calls_eq => exact due_eq_of_trail trail
  case settled =>
    intro gone
    cases stage_eq : session.stage with
    | closed | dropped => rw [uncalled, stage_eq]
    | _ => simp [isOver, stage_eq] at gone

end Trails

/-- A session that serves two clients, loses the channel of the first, connects again and serves
two more. -/
def reconnectingLabels : List Label :=
  [.bound, .announce, .call, .opened, .activate, .accept, .pair 0 .start, .accept,
    .pair 1 .start, .pair 1 .opened, .pair 0 (.relay .inbound (.readFailed "reset")), .join 0,
    .pair 1 (.relay .outbound (.readFailed "reset")), .join 1, .drained, .degrade, .schedule [],
    .wake, .announce, .call, .opened, .activate, .accept, .accept, .pair 3 .start,
    .pair 3 .opened, .pair 2 .start]

theorem reconnecting_clients_are_supplied :
    ∃ history session, Trail Goes (fresh sampleForward {} false) history session ∧
      session.Runs 2 (.relaying 2 .reading .reading) ∧
        session.Runs 3 (.relaying 3 .reading .reading) ∧
          session.calls = 4 ∧ session.uncalled = 0 ∧ visitedPhases history = 2 ∧
            attempts history = 2 ∧ acceptances history = 4 ∧
              session.calls + session.uncalled + visitedPhases history =
                attempts history + acceptances history ∧
                Supplied (fresh sampleForward {} false) history session := by
  obtain ⟨history, session, played, runs, runs', calls_eq, uncalled_eq, visited_eq, attempts_eq,
      acceptances_eq, harmless⟩ :
      ∃ history session, (fresh sampleForward {} false).play reconnectingLabels =
        some (history, session) ∧ session.Runs 2 (.relaying 2 .reading .reading) ∧
          session.Runs 3 (.relaying 3 .reading .reading) ∧ session.calls = 4 ∧
            session.uncalled = 0 ∧ visitedPhases history = 2 ∧ attempts history = 2 ∧
              acceptances history = 4 ∧ ∀ entry ∈ history, entry.1.mayForgo = false :=
    ⟨_, _, rfl, ⟨_, _, rfl, rfl, rfl⟩, ⟨_, _, rfl, rfl, rfl⟩, rfl, rfl, rfl, rfl, rfl, by decide⟩
  have supplied := clients_are_supplied (trail_of_play played)
  exact ⟨history, session, trail_of_play played, runs, runs', calls_eq, uncalled_eq, visited_eq,
    attempts_eq, acceptances_eq, supplied.calls_eq (unforgone_of_labels harmless), supplied⟩

end PortTunnel.Tunnel
