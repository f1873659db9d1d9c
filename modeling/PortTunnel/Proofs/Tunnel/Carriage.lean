import Mathlib.Algebra.Order.BigOperators.Group.Finset
import PortTunnel.Proofs.Tunnel.Connections
import PortTunnel.Proofs.Tunnel.Pumps

/-!
# What a session carries

The pair of a client has two pumps, which the system runs in any order among
everything else that a session does.  The labels of one pump are picked out of
the history.  They are a course of that pump, so all that holds of courses holds
for each client, in both directions and at any time, also after the pair has
ended or the session was torn down.

A pair ends when both of its pumps have shut their streams, or earlier because
something broke.  The end of one stream is neither, and the other pump goes on.

Counters are whole numbers here.  What is counted of clients and bytes is no more
than was accepted and read, so words of 64 bits hold the same numbers as long as
that many were not (`fits_of_trail`).
-/

namespace PortTunnel.Tunnel

open Session

/-! ## The two pumps of a pair -/

/-- The pump of a direction.  As long as a pair does not relay, its pumps have not begun. -/
def PairStage.pump : PairStage → Direction → Pump
  | .relaying _ outbound _, .outbound => outbound
  | .relaying _ _ inbound, .inbound => inbound
  | _, _ => .reading

/-- The stage with another pump for a direction. -/
def PairStage.setPump : PairStage → Direction → Pump → PairStage
  | .relaying channel _ inbound, .outbound, pump => .relaying channel pump inbound
  | .relaying channel outbound _, .inbound, pump => .relaying channel outbound pump
  | stage, _, _ => stage

theorem PairStage.pump_setPump (channel : Nat) (outbound inbound pump : Pump)
    (direction other : Direction) :
    ((relaying channel outbound inbound).setPump direction pump).pump other =
      if direction = other then pump else (relaying channel outbound inbound).pump other := by
  cases direction <;> cases other <;> rfl

/-- The label of a pump, if the label of the pair is one. -/
def pumpLabel? (direction : Direction) : Pair.Label → Option Pump.Label
  | .relay other own => if other = direction then some own else none
  | _ => none

/-- Whether a label ends the pair, whatever its pumps have done. -/
def Pair.Label.breaks : Pair.Label → Bool
  | .openFailed _ | .cancelled => true
  | .relay _ own => own.isFailure
  | .start | .opened => false

/-- What a step of a pair does to its pumps. -/
inductive Pair.Advance : PairStage → Label → Outcome → Prop
  /-- The pair comes nearer to relaying. -/
  | prepares {stage next : PairStage} {label : Label} {effect : Effect}
      (idle : ∀ direction, pumpLabel? direction label = none)
      (same : ∀ direction, next.pump direction = stage.pump direction)
      (uncounted : ∀ direction, (Outcome.continues next effect).bytes direction = 0) :
      Advance stage label (.continues next effect)
  /-- One pump goes on. -/
  | carries {channel : Nat} {outbound inbound pump : Pump} {direction : Direction}
      {own : Pump.Label} {next : PairStage} {count : Nat} {effect : Effect}
      (moves : Pump.Moves ((PairStage.relaying channel outbound inbound).pump direction) own
        (.continues pump count))
      (next_eq : next = (PairStage.relaying channel outbound inbound).setPump direction pump)
      (counted : ∀ other,
        (Outcome.continues next effect).bytes other = if direction = other then count else 0) :
      Advance (.relaying channel outbound inbound) (.relay direction own) (.continues next effect)
  /-- The second of the pumps finishes. -/
  | closes {stage : PairStage} {direction : Direction}
      (moves : Pump.Moves (stage.pump direction) .shut (.continues .finished 0))
      (finished : ∀ other, direction ≠ other → stage.pump other = .finished) :
      Advance stage (.relay direction .shut) (.ends .closed)
  | breaks {stage : PairStage} {label : Label} {exit : Exit} (breaks : label.breaks = true)
      (fails : ∀ direction own, pumpLabel? direction label = some own →
        ∃ outcome, Pump.Moves (stage.pump direction) own outcome) :
      Advance stage label (.ends exit)

section Advancing

variable {destination : Destination} {nextCall channel : Nat} {isCancelled : Bool}
  {outbound inbound : Pump} {direction : Direction} {own : Pump.Label}

theorem relayOutcome_of_unfinished (effect : Pair.Effect)
    (unfinished : ¬ (outbound = .finished ∧ inbound = .finished)) :
    Pair.relayOutcome channel outbound inbound effect =
      .continues (.relaying channel outbound inbound) effect := by
  unfold Pair.relayOutcome
  split
  · exact (unfinished ⟨rfl, rfl⟩).elim
  · rfl

theorem bytes_effect (next : PairStage) (direction other : Direction) (count : Nat) :
    (Pair.Outcome.continues next
      (if count = 0 then .none else .carried direction count)).bytes other =
        if direction = other then count else 0 := by
  by_cases zero : count = 0 <;> simp [zero, Pair.Outcome.bytes]

/-- Only by shutting its stream a pump comes to its end. -/
theorem Pump.Moves.eq_shut {pump : Pump} {count : Nat}
    (moves : Pump.Moves pump own (.continues .finished count)) : own = .shut ∧ count = 0 := by
  cases moves
  exact ⟨rfl, rfl⟩

theorem Pair.Advance.of_failure {stage : PairStage} {outcome : Pump.Outcome}
    (moves : Pump.Moves (stage.pump direction) own outcome) (fails : own.isFailure = true)
    (exit : Exit) : Advance stage (.relay direction own) (.ends exit) := by
  refine .breaks fails fun other own' label_eq => ?_
  simp only [pumpLabel?, Option.ite_none_right_eq_some, Option.some.injEq] at label_eq
  obtain ⟨rfl, rfl⟩ := label_eq
  exact ⟨outcome, moves⟩

theorem Pair.Advance.of_relayOutcome {pump : Pump} {count : Nat}
    (moves : Pump.Moves ((PairStage.relaying channel outbound inbound).pump direction) own
      (.continues pump count)) :
    Advance (.relaying channel outbound inbound) (.relay direction own)
      (relayOutcome channel
        (((PairStage.relaying channel outbound inbound).setPump direction pump).pump .outbound)
        (((PairStage.relaying channel outbound inbound).setPump direction pump).pump .inbound)
        (if count = 0 then .none else .carried direction count)) := by
  have turned := PairStage.pump_setPump channel outbound inbound pump direction
  by_cases finished : ∀ other,
      ((PairStage.relaying channel outbound inbound).setPump direction pump).pump other = .finished
  · obtain rfl : pump = .finished := by simpa [turned] using finished direction
    obtain ⟨rfl, rfl⟩ := moves.eq_shut
    rw [finished .outbound, finished .inbound]
    refine .closes moves fun other different => ?_
    simpa [turned, different] using finished other
  · have unfinished : ¬ (((PairStage.relaying channel outbound inbound).setPump direction pump).pump
        .outbound = .finished ∧ ((PairStage.relaying channel outbound inbound).setPump direction
          pump).pump .inbound = .finished) := by
      rintro ⟨outboundDone, inboundDone⟩
      exact finished fun other => by cases other <;> assumption
    rw [relayOutcome_of_unfinished _ unfinished]
    refine .carries moves ?_ (bytes_effect _ _ · _)
    cases direction <;> rfl

/-- What the pump of the direction comes to decides what its pair comes to. -/
theorem relayStep_eq :
    Pair.relayStep destination channel outbound inbound direction own =
      match ((PairStage.relaying channel outbound inbound).pump direction).step own with
      | none => none
      | some (.readBroke reason) => some (.ends (Pair.readExit destination reason direction))
      | some (.writeBroke _) => some (.ends (Pair.writeExit direction))
      | some (.continues pump count) =>
          some (Pair.relayOutcome channel
            (((PairStage.relaying channel outbound inbound).setPump direction pump).pump .outbound)
            (((PairStage.relaying channel outbound inbound).setPump direction pump).pump .inbound)
            (if count = 0 then .none else .carried direction count)) := by
  cases direction <;> rfl

/-- A pair follows whatever one of its pumps can follow. -/
theorem exists_relayStep {outcome : Pump.Outcome}
    (moves : Pump.Moves ((PairStage.relaying channel outbound inbound).pump direction) own
      outcome) :
    ∃ outcome', Pair.relayStep destination channel outbound inbound direction own =
      some outcome' := by
  rw [relayStep_eq, moves.step]
  cases outcome <;> exact ⟨_, rfl⟩

theorem Pair.Advance.of_relayStep {outcome : Outcome}
    (step : relayStep destination channel outbound inbound direction own = some outcome) :
    Advance (.relaying channel outbound inbound) (.relay direction own) outcome := by
  rw [relayStep_eq] at step
  split at step
  · cases step
  · rename_i reason broke
    cases step
    exact .of_failure (.of_step broke) (by rw [Pump.eq_readFailed_of_step broke]; rfl) _
  · rename_i reason broke
    cases step
    exact .of_failure (.of_step broke) (by rw [Pump.eq_writeFailed_of_step broke]; rfl) _
  · rename_i pump count goesOn
    cases step
    exact .of_relayOutcome (.of_step goesOn)

theorem Pair.Advance.of_step {stage : PairStage} {label : Label} {outcome : Outcome} :
    Pair.step destination nextCall isCancelled stage label = some outcome →
      Advance stage label outcome := by
  fun_cases Pair.step destination nextCall isCancelled stage label <;> intro step
  case case4 => cases step; exact .breaks rfl (by simp [pumpLabel?])
  case case5 => exact .of_relayStep step
  case case6 => cases step; exact .breaks rfl (by simp [pumpLabel?])
  case case7 | case8 => cases step
  all_goals
    cases step
    exact .prepares (fun _ => rfl) (fun direction => by cases direction <;> rfl) (fun _ => rfl)

end Advancing

/-! ## The labels of one pump -/

/-- All labels that one pump of the pair of a client followed. -/
def pumpLabels (client : Nat) (direction : Direction) (history : List Entry) : List Pump.Label :=
  (pairLabels client history).filterMap (pumpLabel? direction)

@[simp]
theorem pumpLabel?_relay_self (direction : Direction) (own : Pump.Label) :
    pumpLabel? direction (.relay direction own) = some own :=
  if_pos rfl

theorem pumpLabel?_relay_of_ne {direction other : Direction} (different : other ≠ direction)
    (own : Pump.Label) : pumpLabel? direction (.relay other own) = none :=
  if_neg different

theorem eq_relay_of_pumpLabel? {direction : Direction} {label : Pair.Label} {own : Pump.Label}
    (label_eq : pumpLabel? direction label = some own) : label = .relay direction own := by
  cases label with
  | relay other own' =>
      obtain ⟨rfl, same⟩ := Option.ite_none_right_eq_some.1 label_eq
      rw [Option.some.inj same]
  | start | opened | openFailed | cancelled => cases label_eq

theorem pumpLabels_concat_own (client : Nat) (direction : Direction) (label : Pair.Label)
    (report : Option Report) (history : List Entry) :
    pumpLabels client direction (history ++ [(.pair client label, report)]) =
      pumpLabels client direction history ++ (pumpLabel? direction label).toList := by
  rw [pumpLabels, pairLabels_concat_own, List.filterMap_append]
  cases label_eq : pumpLabel? direction label <;> simp [pumpLabels, label_eq]

theorem pumpLabels_concat_of_ne {client : Nat} {entry : Entry} (direction : Direction)
    (history : List Entry) (others : ∀ own, entry.1 ≠ .pair client own) :
    pumpLabels client direction (history ++ [entry]) = pumpLabels client direction history := by
  rw [pumpLabels, pairLabels_concat_of_ne history others, pumpLabels]

section Courses

open Pump

variable {stage : PairStage} {label : Pair.Label} {outcome : Pair.Outcome}
  {labels : List Pump.Label} {direction : Direction}

/-- A step of a pair takes each pump along its course, and counts what the pump has written. -/
theorem Pair.Advance.course (advance : Advance stage label outcome)
    (course : Course labels (some (stage.pump direction))) :
    ∃ status, Course (labels ++ (pumpLabel? direction label).toList) status ∧
      counted (labels ++ (pumpLabel? direction label).toList) =
        counted labels + outcome.bytes direction ∧
      ∀ next effect, outcome = .continues next effect → status = some (next.pump direction) := by
  cases advance with
  | prepares idle same uncounted =>
      rw [idle, uncounted, Option.toList_none, List.append_nil]
      refine ⟨_, course, rfl, ?_⟩
      rintro next effect ⟨⟩
      rw [same]
  | @carries channel outbound inbound pump turned own next count effect moves next_eq bytes_eq =>
      rw [bytes_eq]
      have pump_eq := PairStage.pump_setPump channel outbound inbound pump turned direction
      by_cases same : turned = direction
      · subst same
        rw [pumpLabel?_relay_self, if_pos rfl]
        refine ⟨_, course.onward moves, (course.stands.move moves).2, ?_⟩
        rintro _ _ ⟨⟩
        rw [next_eq, pump_eq, if_pos rfl]
      · rw [pumpLabel?_relay_of_ne same, if_neg same, Option.toList_none, List.append_nil]
        refine ⟨_, course, rfl, ?_⟩
        rintro _ _ ⟨⟩
        rw [next_eq, pump_eq, if_neg same]
  | @closes stage turned moves finished =>
      by_cases same : turned = direction
      · subst same
        rw [pumpLabel?_relay_self]
        exact ⟨_, course.onward moves, (course.stands.move moves).2, nofun⟩
      · rw [pumpLabel?_relay_of_ne same, Option.toList_none, List.append_nil]
        exact ⟨_, course, rfl, nofun⟩
  | breaks breaks fails =>
      cases label_eq : pumpLabel? direction label with
      | none =>
          rw [Option.toList_none, List.append_nil]
          exact ⟨_, course, rfl, nofun⟩
      | some own =>
          obtain ⟨outcome, moves⟩ := fails direction own label_eq
          rw [eq_relay_of_pumpLabel? label_eq] at breaks
          exact ⟨_, course.broke moves breaks, (course.stands.fail moves breaks).2, nofun⟩

/-- A pair ends when something breaks, or when both pumps have shut their streams. -/
theorem Pair.Advance.shut {exit : Exit} (advance : Advance stage label (.ends exit)) :
    label.breaks = true ∨ ∀ direction labels, Course labels (some (stage.pump direction)) →
      .shut ∈ labels ++ (pumpLabel? direction label).toList := by
  cases advance with
  | breaks breaks => exact .inl breaks
  | @closes _ turned moves finished =>
      refine .inr fun direction labels course => ?_
      by_cases same : turned = direction
      · simp [same]
      · rw [finished direction same] at course
        obtain ⟨early, rfl, -⟩ := course.stands
        simp

end Courses

/-! ## Along a trail -/

/-- What the history of a session tells about the pair of a client. -/
structure Carries (start : Session) (history : List Entry) (session : Session) (client : Nat) :
    Prop where
  /-- The labels of each pump form a course, which leads to where the pump is. -/
  course : ∀ direction, ∃ status,
    Pump.Course (pumpLabels client direction history) status ∧
      ∀ stage, session.Runs client stage → status = some (stage.pump direction)
  ended : HasEnded start history client →
    (∃ label ∈ pairLabels client history, label.breaks = true) ∨
      ∀ direction, .shut ∈ pumpLabels client direction history

/-- What it tells about all pairs and about the counters. -/
structure Ledger (start : Session) (history : List Entry) (session : Session) : Prop where
  carries : ∀ client, Carries start history session client
  /-- Nothing is known of clients that are not accepted yet. -/
  unknown : ∀ client, session.counters.connections ≤ client → pairLabels client history = []
  bytes_eq : ∀ direction, bytesCounted session.counters direction =
    ∑ client ∈ Finset.range session.counters.connections,
      Pump.counted (pumpLabels client direction history)

section Moving

variable {start session next : Session} {history : List Entry} {label : Label}
  {report : Option Report} {client : Nat} {own : Pair.Label}

theorem Carries.course_of_runs {stage : PairStage} (carries : Carries start history session client)
    (runs : session.Runs client stage) (direction : Direction) :
    Pump.Course (pumpLabels client direction history) (some (stage.pump direction)) := by
  obtain ⟨status, course, stands⟩ := carries.course direction
  exact stands stage runs ▸ course

/-- A step that is not of the pair moves neither of its pumps. -/
theorem Carries.move_other (carries : Carries start history session client)
    (trail : Trail Goes start history session) (moves : Moves session label next report)
    (others : ∀ own, label ≠ .pair client own)
    (unknown : client = session.counters.connections → pairLabels client history = []) :
    Carries start (history ++ [(label, report)]) next client := by
  have pair_eq : pairLabels client (history ++ [(label, report)]) = pairLabels client history :=
    pairLabels_concat_of_ne history others
  have pump_eq (direction : Direction) :
      pumpLabels client direction (history ++ [(label, report)]) =
        pumpLabels client direction history :=
    pumpLabels_concat_of_ne direction history others
  constructor
  case course =>
    intro direction
    obtain ⟨status, course, stands⟩ := carries.course direction
    rw [pump_eq]
    refine ⟨status, course, fun stage runs => ?_⟩
    rcases moves.runs_before others runs with before | ⟨-, newcomer, channel, rfl⟩
    · exact stands stage before
    · rw [pumpLabels, unknown newcomer] at course
      exact course.eq_reading
  case ended =>
    intro ended
    rw [pair_eq]
    simp only [pump_eq]
    exact carries.ended (hasEnded_of_hasEnded_concat trail moves others ended)

/-- A step of the pair takes its pumps along their courses. -/
theorem Carries.move_own (carries : Carries start history session client)
    (trail : Trail Goes start history session) (tidy : session.Tidy)
    (moves : Moves session (.pair client own) next report) :
    Carries start (history ++ [(.pair client own, report)]) next client := by
  obtain ⟨stage, runs⟩ := moves.exists_runs
  obtain ⟨rfl, isCancelled, outcome, step, -, result⟩ := moves.outcome runs
  have advance := Pair.Advance.of_step step
  constructor
  case course =>
    intro direction
    obtain ⟨status, course, -, goesOn⟩ := advance.course (carries.course_of_runs runs direction)
    rw [pumpLabels_concat_own]
    refine ⟨status, course, fun stage' runs' => ?_⟩
    rcases result with ⟨exit, -, -, gone⟩ | ⟨reached, effect, continues, runsOn⟩
    · exact (gone stage' runs').elim
    · rw [runs'.unique runsOn]
      exact goesOn reached effect continues
  case ended =>
    intro ended
    rw [pairLabels_concat_own]
    simp only [pumpLabels_concat_own]
    rcases result with ⟨exit, rfl, -, -⟩ | ⟨reached, effect, -, runsOn⟩
    · rcases advance.shut with breaks | shut
      · exact .inl ⟨own, by simp, breaks⟩
      · exact .inr fun direction => shut direction _ (carries.course_of_runs runs direction)
    · -- The pair goes on, so it has not ended now.
      rcases (hasEnded_concat_iff trail moves.goes).1 ended with before | ⟨exit, waits⟩
      · rcases carries.ended before with ⟨label, member, breaks⟩ | shut
        · exact .inl ⟨label, List.mem_append_left _ member, breaks⟩
        · exact .inr fun direction => List.mem_append_left _ (shut direction)
      · exact (runsOn.not_waits (tidy.move moves) waits).elim

/-- What a step of the pair adds to a counter of the session has been written by its pump. -/
theorem Carries.bytes_own (carries : Carries start history session client)
    (moves : Moves session (.pair client own) next report) (direction : Direction) :
    ∃ bytes,
      bytesCounted next.counters direction = bytesCounted session.counters direction + bytes ∧
        Pump.counted (pumpLabels client direction (history ++ [(.pair client own, report)])) =
          Pump.counted (pumpLabels client direction history) + bytes := by
  obtain ⟨stage, runs⟩ := moves.exists_runs
  obtain ⟨-, isCancelled, outcome, step, bytes_eq, -⟩ := moves.outcome runs
  have advance := Pair.Advance.of_step step
  obtain ⟨-, -, counted_eq, -⟩ := advance.course (carries.course_of_runs runs direction)
  exact ⟨_, bytes_eq direction, by rw [pumpLabels_concat_own, counted_eq]⟩

theorem Ledger.move (ledger : Ledger start history session)
    (trail : Trail Goes start history session) (tidy : session.Tidy)
    (moves : Moves session label next report) :
    Ledger start (history ++ [(label, report)]) next := by
  constructor
  case carries =>
    intro client
    by_cases own : ∃ own, label = .pair client own
    · obtain ⟨own, rfl⟩ := own
      exact (ledger.carries client).move_own trail tidy moves
    · apply (ledger.carries client).move_other trail moves
      · exact fun label same => own ⟨label, same⟩
      · exact fun newcomer => ledger.unknown client newcomer.ge
  case unknown =>
    intro client unknown
    rw [moves.connections_eq] at unknown
    have unknown := le_of_add_le_left unknown
    rw [pairLabels_concat_of_ne history]
    · exact ledger.unknown client unknown
    · rintro own rfl
      obtain ⟨stage, runs⟩ := moves.exists_runs
      exact unknown.not_gt (runs.lt_connections tidy)
  case bytes_eq =>
    intro direction
    by_cases own : ∃ client own, label = .pair client own
    · obtain ⟨client, own, rfl⟩ := own
      obtain ⟨stage, runs⟩ := moves.exists_runs
      have connections_eq : next.counters.connections = session.counters.connections :=
        moves.connections_eq
      obtain ⟨bytes, bytes_eq, counted_eq⟩ := (ledger.carries client).bytes_own moves direction
      have each (other : Nat) :
          Pump.counted (pumpLabels other direction (history ++ [(.pair client own, report)])) =
            Pump.counted (pumpLabels other direction history) +
              if other = client then bytes else 0 := by
        by_cases same : other = client
        · rw [same, if_pos rfl, counted_eq]
        · rw [if_neg same, Nat.add_zero, pumpLabels_concat_of_ne]
          rintro own' ⟨⟩
          exact same rfl
      rw [bytes_eq, ledger.bytes_eq, connections_eq]
      simp only [each, Finset.sum_add_distrib, Finset.sum_ite_eq', Finset.mem_range,
        runs.lt_connections tidy, if_true]
    · have others (client : Nat) (label' : Pair.Label) : label ≠ .pair client label' :=
        fun same => own ⟨client, label', same⟩
      have pump_eq (client : Nat) :
          pumpLabels client direction (history ++ [(label, report)]) =
            pumpLabels client direction history :=
        pumpLabels_concat_of_ne direction history (others client)
      rw [moves.bytesCounted_eq others, ledger.bytes_eq, moves.connections_eq]
      simp only [pump_eq]
      split
      · rw [Finset.sum_range_succ, pumpLabels, ledger.unknown _ le_rfl]
        rfl
      · rfl

end Moving

section Trails

variable {forward : Forward} {policy : Retry.Policy} {asked : Bool} {history : List Entry}
  {session : Session}

theorem ledger_of_trail (trail : Trail Goes (fresh forward policy asked) history session) :
    Ledger (fresh forward policy asked) history session := by
  induction trail with
  | here =>
      constructor
      case carries =>
        intro client
        constructor
        case course =>
          intro direction
          refine ⟨_, .begun, ?_⟩
          rintro stage ⟨phase, pair, ⟨⟩, -⟩
        case ended => exact fun ended => (not_hasEnded_nil client ended).elim
      case unknown => exact fun client _ => rfl
      case bytes_eq => exact fun direction => by cases direction <;> rfl
  | onward trail step ih => exact ih.move trail (tidy_of_trail trail) (step_eq_some_iff.1 step)

end Trails

/-! ## Transparency -/

section Relaying

variable {session next : Session} {client channel count : Nat} {outbound inbound pump : Pump}
  {direction : Direction} {own : Pump.Label} {outcome : Pump.Outcome} {report : Option Report}

theorem Pump.Moves.isFailure_eq_false {next : Pump}
    (moves : Pump.Moves pump own (.continues next count)) : own.isFailure = false := by
  cases moves <;> rfl

theorem Pump.Moves.eq_shutting {next : Pump}
    (moves : Pump.Moves pump .readEnd (.continues next count)) : next = .shutting := by
  cases moves
  rfl

/-- A pump goes on in its session whatever the other pump does.  The other stays where it is, and
the pair goes on with both unless both are finished. -/
theorem Session.Runs.relays (runs : session.Runs client (.relaying channel outbound inbound))
    (moves : Pump.Moves ((PairStage.relaying channel outbound inbound).pump direction) own
      outcome) :
    ∃ next, Goes session (.pair client (.relay direction own), none) next ∧
      ∀ pump count, outcome = .continues pump count →
        next.Runs client ((PairStage.relaying channel outbound inbound).setPump direction pump) ∨
          (next.Waits client .closed ∧ ∀ other,
            ((PairStage.relaying channel outbound inbound).setPump direction pump).pump other =
              .finished) := by
  obtain ⟨reached, step⟩ := exists_relayStep moves
  have pairStep (isCancelled : Bool) :
      Pair.step session.forward.destination session.calls isCancelled
        (.relaying channel outbound inbound) (.relay direction own) = some reached :=
    step
  obtain ⟨next, moved⟩ := runs.exists_moves pairStep
  refine ⟨next, moved.goes, ?_⟩
  rintro pump count rfl
  obtain ⟨-, isCancelled, _, step', -, result⟩ := moved.outcome runs
  cases step'.symm.trans step
  cases Pair.Advance.of_relayStep step with
  | prepares idle => simpa using idle direction
  | @carries _ _ _ pump' _ _ _ _ _ moves' next_eq =>
      cases moves.step.symm.trans moves'.step
      rcases result with ⟨exit, ⟨⟩, -⟩ | ⟨_, _, ⟨⟩, runsOn⟩
      exact .inl (next_eq ▸ runsOn)
  | closes moves' finished =>
      cases moves.step.symm.trans moves'.step
      rcases result with ⟨_, ⟨⟩, waits, -⟩ | ⟨_, _, ⟨⟩, -⟩
      refine .inr ⟨waits, fun other => ?_⟩
      rw [PairStage.pump_setPump]
      split
      · rfl
      · rename_i different
        exact finished other different
  | breaks breaks =>
      rw [Pair.Label.breaks, moves.isFailure_eq_false] at breaks
      cases breaks

/-- The end of a stream leaves the pair at work, and the other pump where it is. -/
theorem Session.Moves.halfCloses {stage : PairStage}
    (moves : Moves session (.pair client (.relay direction .readEnd)) next report)
    (runs : session.Runs client stage) : next.Runs client (stage.setPump direction .shutting) := by
  obtain ⟨-, isCancelled, outcome, step, -, result⟩ := moves.outcome runs
  cases Pair.Advance.of_step step with
  | prepares idle => simpa using idle direction
  | carries moves' next_eq =>
      rcases result with ⟨exit, ⟨⟩, -⟩ | ⟨_, _, ⟨⟩, runsOn⟩
      rw [next_eq, moves'.eq_shutting] at runsOn
      exact runsOn
  | breaks breaks => cases breaks

end Relaying

/-- Nothing is lost, added or reordered on the way between clients and the cluster. -/
structure Transparent (start : Session) (history : List Entry) (session : Session) : Prop where
  /-- Each pump copies faithfully. -/
  faithful : ∀ client direction, Pump.Faithful (pumpLabels client direction history)
  /-- Whatever stream a pump reads, its first bytes are written in their order.  At the end of
  the stream all of them have been, and as many have been counted. -/
  delivers : ∀ client direction stream, Pump.Feeds stream (pumpLabels client direction history) →
    Pump.output (pumpLabels client direction history) <+: stream ∧
      (.readEnd ∈ pumpLabels client direction history →
        Pump.output (pumpLabels client direction history) = stream ∧
          Pump.counted (pumpLabels client direction history) = stream.length)
  /-- The counters of the session are what its pumps count. -/
  bytes_eq : ∀ direction, bytesCounted session.counters direction =
    ∑ client ∈ Finset.range session.counters.connections,
      Pump.counted (pumpLabels client direction history)
  /-- No pump waits for the other one, or ends the pair before the other is finished. -/
  relays : ∀ client channel outbound inbound direction own outcome,
    session.Runs client (.relaying channel outbound inbound) →
      Pump.Moves ((PairStage.relaying channel outbound inbound).pump direction) own outcome →
        ∃ next, Goes session (.pair client (.relay direction own), none) next ∧
          ∀ pump count, outcome = .continues pump count →
            next.Runs client
                ((PairStage.relaying channel outbound inbound).setPump direction pump) ∨
              (next.Waits client .closed ∧ ∀ other,
                ((PairStage.relaying channel outbound inbound).setPump direction pump).pump
                  other = .finished)
  /-- The end of one stream neither ends the pair nor moves the other pump. -/
  halfCloses : ∀ client stage direction report next, session.Runs client stage →
    Goes session (.pair client (.relay direction .readEnd), report) next →
      next.Runs client (stage.setPump direction .shutting)
  /-- A pair that has ended was broken, or both streams had ended and have been shut. -/
  ended : ∀ client, HasEnded start history client →
    (∃ label ∈ pairLabels client history, label.breaks = true) ∨
      ∀ direction, .shut ∈ pumpLabels client direction history

/-- In every state of every session, and for each of its clients, the relay is transparent to the
bytes of both directions, however they are split into reads and writes, and whatever fails. -/
theorem relay_is_transparent {forward : Forward} {policy : Retry.Policy} {asked : Bool}
    {history : List Entry} {session : Session}
    (trail : Trail Goes (fresh forward policy asked) history session) :
    Transparent (fresh forward policy asked) history session := by
  have ledger := ledger_of_trail trail
  have faithful (client : Nat) (direction : Direction) :
      Pump.Faithful (pumpLabels client direction history) := by
    obtain ⟨status, course, -⟩ := (ledger.carries client).course direction
    exact course.faithful
  constructor
  case faithful => exact faithful
  case delivers => exact fun client direction stream => (faithful client direction).delivers
  case bytes_eq => exact ledger.bytes_eq
  case relays => exact fun _ _ _ _ _ _ _ runs moves => runs.relays moves
  case halfCloses =>
    intro client stage direction report next runs step
    have moves : Moves session _ next report := step_eq_some_iff.1 step
    exact moves.halfCloses runs
  case ended => exact fun client => (ledger.carries client).ended

/-- The bytes that the pumps of a direction have read for all clients. -/
def bytesRead (history : List Entry) (direction : Direction) : Nat :=
  ∑ client ∈ Finset.range (acceptances history),
    (Pump.input (pumpLabels client direction history)).length

/-- Words of 64 bits hold the counters of a session, unless it accepts that many clients or that
many bytes are read in one direction. -/
theorem fits_of_trail {forward : Forward} {policy : Retry.Policy} {asked : Bool}
    {history : List Entry} {session : Session}
    (trail : Trail Goes (fresh forward policy asked) history session)
    (clients : acceptances history < Number.twoTo 64)
    (bytes : ∀ direction, bytesRead history direction < Number.twoTo 64) :
    session.counters.Fits := by
  have ledger := ledger_of_trail trail
  have counted_le (direction : Direction) :
      bytesCounted session.counters direction ≤ bytesRead history direction := by
    rw [ledger.bytes_eq, bytesRead, connections_eq_acceptances trail]
    refine Finset.sum_le_sum fun client _ => ?_
    obtain ⟨status, course, -⟩ := (ledger.carries client).course direction
    exact course.faithful.counted_le.trans course.faithful.inOrder.length_le
  have connections_eq := connections_eq_acceptances trail
  constructor
  case connections => exact connections_eq ▸ clients
  case live => exact (live_le_connections_of_trail trail).trans_lt (connections_eq ▸ clients)
  case sent => exact (counted_le .outbound).trans_lt (bytes .outbound)
  case received => exact (counted_le .inbound).trans_lt (bytes .inbound)

/-- A client who ends its stream first.  Its bytes are written in two parts, and the cluster goes
on to send after that. -/
def halfClosedLabels : List Label :=
  [.bound, .announce, .call, .opened, .activate, .accept, .pair 0 .start,
    .pair 0 (.relay .outbound (.read [1, 2, 3])), .pair 0 (.relay .inbound (.read [7])),
    .pair 0 (.relay .outbound (.wrote [1, 2])), .pair 0 (.relay .inbound (.wrote [7])),
    .pair 0 (.relay .outbound (.wrote [3])), .pair 0 (.relay .outbound .readEnd),
    .pair 0 (.relay .outbound .shut), .pair 0 (.relay .inbound (.read [8, 9])),
    .pair 0 (.relay .inbound (.wrote [8, 9])), .pair 0 (.relay .inbound .readEnd),
    .pair 0 (.relay .inbound .shut)]

theorem half_closed_relay_is_transparent :
    ∃ history session, Trail Goes (fresh sampleForward {} false) history session ∧
      session.Waits 0 .closed ∧
        Pump.output (pumpLabels 0 .outbound history) = [1, 2, 3] ∧
          Pump.output (pumpLabels 0 .inbound history) = [7, 8, 9] ∧
            session.counters.sent = 3 ∧ session.counters.received = 3 ∧
              Transparent (fresh sampleForward {} false) history session := by
  obtain ⟨history, session, played, waits, outbound_eq, inbound_eq, sent_eq, received_eq⟩ :
      ∃ history session, (fresh sampleForward {} false).play halfClosedLabels =
        some (history, session) ∧ session.Waits 0 .closed ∧
          Pump.output (pumpLabels 0 .outbound history) = [1, 2, 3] ∧
            Pump.output (pumpLabels 0 .inbound history) = [7, 8, 9] ∧
              session.counters.sent = 3 ∧ session.counters.received = 3 :=
    ⟨_, _, rfl, ⟨_, rfl, List.mem_singleton_self _⟩, rfl, rfl, rfl, rfl⟩
  have trail := trail_of_play played
  exact ⟨history, session, trail, waits, outbound_eq, inbound_eq, sent_eq, received_eq,
    relay_is_transparent trail⟩

end PortTunnel.Tunnel
