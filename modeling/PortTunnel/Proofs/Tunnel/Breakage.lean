import PortTunnel.Proofs.Tunnel.Loss
import PortTunnel.Proofs.Tunnel.Pumps

/-!
# Broken channels

From the moment when a channel breaks, every read from it and every write to it
fails.  Its pair learns of that by the first use of the channel.  A read that
fails ends the pair as one that lost its channel, and the session leaves its
serving phase.  A write that fails ends the pair as one that was closed, and then
nothing reads any more, so the session goes on serving.

The main result says that the first use decides, whatever the two directions
carry and in whatever order they go on.
-/

namespace PortTunnel.Tunnel

open Session

/-! ## The uses of a broken channel -/

/-- A use of a channel that failed. -/
inductive FailedUse where
  | read (reason : String)
  | write (reason : String)
  deriving DecidableEq

/-- The failed use that a label tells of. -/
def failedUse? : Pair.Label → Option FailedUse
  | .relay .inbound (.readFailed reason) => some (.read reason)
  | .relay .outbound (.writeFailed reason) => some (.write reason)
  | _ => none

theorem failedUse?_eq_read {label : Pair.Label} {reason : String} :
    failedUse? label = some (.read reason) → label = .relay .inbound (.readFailed reason) := by
  fun_cases failedUse? label <;> intro use_eq <;> cases use_eq
  rfl

theorem failedUse?_eq_write {label : Pair.Label} {reason : String} :
    failedUse? label = some (.write reason) → label = .relay .outbound (.writeFailed reason) := by
  fun_cases failedUse? label <;> intro use_eq <;> cases use_eq
  rfl

/-- How a pair ends by a failed use of its channel. -/
def FailedUse.exit (destination : Destination) : FailedUse → Exit
  | .read reason => .remoteFailed (Pair.lost destination reason)
  | .write _ => .closed

/-- Whether a label fits a pair whose channel is broken, which is not cancelled and whose
client does not fail.  The client may send, end its stream and take what had been read from
the channel before. -/
def Pair.Label.fitsBreak : Label → Bool
  | .relay .outbound (.read _) | .relay .outbound .readEnd | .relay .outbound (.writeFailed _)
  | .relay .outbound .shut => true
  | .relay .inbound (.readFailed _) | .relay .inbound (.wrote _) | .relay .inbound .shut => true
  | _ => false

/-- A pair with a broken channel ends by a failed use of it, or goes on.  Without such a use
it ends only if the cluster had ended its stream. -/
theorem Pair.step_of_fitsBreak {destination : Destination} {nextCall channel : Nat}
    {isCancelled : Bool} {outbound inbound : Pump} {label : Pair.Label} {outcome : Pair.Outcome}
    (fits : label.fitsBreak = true)
    (step : Pair.step destination nextCall isCancelled (.relaying channel outbound inbound) label =
      some outcome) :
    (∃ use, failedUse? label = some use ∧ outcome = .ends (use.exit destination)) ∨
      (failedUse? label = none ∧
        ((inbound.isOpen = false ∧ outcome = .ends .closed) ∨
          ∃ outbound' inbound' effect,
            outcome = .continues (.relaying channel outbound' inbound') effect ∧
              (inbound.isOpen = true → inbound'.isOpen = true))) := by
  have relayed {outbound' inbound' : Pump} {effect : Pair.Effect}
      (stays : inbound.isOpen = true → inbound'.isOpen = true)
      (same : relayOutcome channel outbound' inbound' effect = outcome) :
      (inbound.isOpen = false ∧ outcome = .ends .closed) ∨
        ∃ outbound' inbound' effect,
          outcome = .continues (.relaying channel outbound' inbound') effect ∧
            (inbound.isOpen = true → inbound'.isOpen = true) := by
    subst same
    unfold relayOutcome
    split
    · refine .inl ⟨Bool.eq_false_iff.2 fun open_ => ?_, rfl⟩
      cases stays open_
    · exact .inr ⟨_, _, _, rfl, stays⟩
  cases label with
  | start | opened | openFailed | cancelled => cases fits
  | relay direction label =>
      cases direction with
      | outbound =>
          cases label with
          | readFailed | wrote => cases fits
          | writeFailed reason =>
              refine .inl ⟨.write reason, rfl, ?_⟩
              cases outbound <;> cases step
              rfl
          | read | readEnd | shut =>
              refine .inr ⟨rfl, ?_⟩
              simp only [Pair.step, relayStep] at step
              split at step
              · cases step
              · rename_i broke
                cases Pump.eq_readFailed_of_step broke
              · rename_i broke
                cases Pump.eq_writeFailed_of_step broke
              · exact relayed id (Option.some.inj step)
      | inbound =>
          cases label with
          | read | readEnd | writeFailed => cases fits
          | readFailed reason =>
              refine .inl ⟨.read reason, rfl, ?_⟩
              cases inbound <;> cases step
              rfl
          | wrote | shut =>
              refine .inr ⟨rfl, ?_⟩
              simp only [Pair.step, relayStep] at step
              split at step
              · cases step
              · rename_i broke
                cases Pump.eq_readFailed_of_step broke
              · rename_i broke
                cases Pump.eq_writeFailed_of_step broke
              · rename_i moves
                exact relayed (Pump.isOpen_of_step moves (by simp)) (Option.some.inj step)

/-! ## From the break on -/

/-- The uses of its channel that failed for a client. -/
def failedUses (client : Nat) (history : List Entry) : List FailedUse :=
  (pairLabels client history).filterMap failedUse?

/-- The pair of a client ends by a label, which comes before any failed use of its channel,
and the session goes on. -/
structure EndsBy (start : Session) (client : Nat) (label : Pair.Label) (exit : Exit)
    (history : List Entry) (last : Session) (early rest : List Entry) (ended : Session) :
    Prop where
  history_eq : history = early ++ (.pair client label, none) :: rest
  unused : failedUses client early = []
  before : Trail Goes start (early ++ [(.pair client label, none)]) ended
  waits : ended.Waits client exit
  after : Trail Goes ended rest last

/-- What has become of the pair of a client since its channel broke.  At that time the pair
read from the channel by the pump `inbound`. -/
inductive AfterBreak (start : Session) (client : Nat) (inbound : Pump) (history : List Entry)
    (last : Session) : Prop
  /-- It has not used the channel and goes on. -/
  | unused {channel : Nat} {outbound inbound' : Pump}
      (runs : last.Runs client (.relaying channel outbound inbound'))
      (none_ : failedUses client history = [])
      (reads : inbound.isOpen = true → inbound'.isOpen = true)
  /-- The first use was a read: the pair ended with the loss of its channel.  If the session
  served then, it can come to report this, and it has not gone on in another way. -/
  | lost {early rest : List Entry} {ended : Session} (reason : String)
      (ends : EndsBy start client (.relay .inbound (.readFailed reason))
        (.remoteFailed (Pair.lost start.forward.destination reason)) history last early rest ended)
      (noticed : ∀ phase pausing, ended.stage = .serving phase pausing →
        Reporting ended (Pair.lost start.forward.destination reason) ∧
          Noticing client (Pair.lost start.forward.destination reason) last (reports rest))
  /-- The first use was a write: the pair ended as if it had been closed. -/
  | missed {early rest : List Entry} {ended : Session} (reason : String)
      (ends : EndsBy start client (.relay .outbound (.writeFailed reason)) .closed history last
        early rest ended)
  /-- Both streams ended without another use; the cluster had ended its own before the break. -/
  | finished {label : Pair.Label} {early rest : List Entry} {ended : Session}
      (ends : EndsBy start client label .closed history last early rest ended)
      (harmless : failedUse? label = none) (noMore : inbound.isOpen = false)

theorem failedUses_concat (client : Nat) (history : List Entry) (entry : Entry) :
    failedUses client (history ++ [entry]) =
      failedUses client history ++ ((pairLabel? client entry).bind failedUse?).toList := by
  cases label_eq : pairLabel? client entry with
  | none => simp [failedUses, pairLabels, label_eq]
  | some label =>
      cases use_eq : failedUse? label <;> simp [failedUses, pairLabels, label_eq, use_eq]

section Breaking

variable {start last next : Session} {client : Nat} {label : Pair.Label} {exit : Exit}
  {inbound : Pump} {history early rest : List Entry} {ended : Session} {entry : Entry}

theorem EndsBy.onward (ends : EndsBy start client label exit history last early rest ended)
    (step : Goes last entry next) :
    EndsBy start client label exit (history ++ [entry]) next early (rest ++ [entry]) ended := by
  obtain ⟨rfl, unused, before, waits, after⟩ := ends
  exact ⟨by simp, unused, before, waits, after.onward step⟩

/-- The end of a pair that has not used its channel before. -/
theorem EndsBy.now (trail : Trail Goes start history last)
    (step : Goes last (.pair client label, none) next) (none_ : failedUses client history = [])
    (waits : next.Waits client exit) :
    EndsBy start client label exit (history ++ [(.pair client label, none)]) next history []
      next :=
  ⟨rfl, none_, trail.onward step, waits, .here⟩

/-- One step more after the break. -/
theorem AfterBreak.move (broken : AfterBreak start client inbound history last)
    (trail : Trail Goes start history last) (step : Goes last entry next)
    (forward_eq : last.forward = start.forward) (tidy : last.Tidy) (nextTidy : next.Tidy)
    (names : NamesLosses last) (kept : entry.1 ≠ .drop)
    (fits : ∀ label, pairLabel? client entry = some label → label.fitsBreak = true) :
    AfterBreak start client inbound (history ++ [entry]) next := by
  have moves : Moves last entry.1 next entry.2 := step_eq_some_iff.1 step
  cases broken with
  | unused runs none_ reads =>
      by_cases own : ∃ label, entry.1 = .pair client label
      · obtain ⟨label, label_eq⟩ := own
        obtain ⟨_, report⟩ := entry
        obtain rfl : _ = Label.pair client label := label_eq
        obtain ⟨rfl, isCancelled, outcome, pairStep, -, result⟩ := moves.outcome runs
        have label_eq : pairLabel? client (.pair client label, none) = some label := by
          simp [pairLabel?]
        rcases Pair.step_of_fitsBreak (fits label label_eq) pairStep with
          ⟨use, use_eq, rfl⟩ | ⟨use_eq, ⟨noMore, rfl⟩ | ⟨_, _, _, rfl, stays⟩⟩
        · -- The pair ends by its first use of the channel.
          obtain ⟨_, ⟨⟩, waits, -⟩ | ⟨_, _, ⟨⟩, -⟩ := result
          cases use with
          | read reason =>
              obtain rfl := failedUse?_eq_read use_eq
              rw [FailedUse.exit, forward_eq] at waits
              refine .lost reason (.now trail step none_ waits) fun phase pausing stage_eq => ?_
              rw [waits_iff_of_serving stage_eq] at waits
              exact ⟨reporting_of_waiting nextTidy stage_eq waits, .waiting stage_eq waits⟩
          | write reason =>
              obtain rfl := failedUse?_eq_write use_eq
              exact .missed reason (.now trail step none_ waits)
        · obtain ⟨_, ⟨⟩, waits, -⟩ | ⟨_, _, ⟨⟩, -⟩ := result
          have noMoreBefore : inbound.isOpen = false := by
            cases open_ : inbound.isOpen with
            | false => rfl
            | true => exact ((reads open_).symm.trans noMore)
          exact .finished (.now trail step none_ waits) use_eq noMoreBefore
        · obtain ⟨_, ⟨⟩, -⟩ | ⟨_, _, ⟨⟩, stillRuns⟩ := result
          have none_' : failedUses client (history ++ [(.pair client label, none)]) = [] := by
            simp [failedUses_concat, none_, label_eq, use_eq]
          exact .unused stillRuns none_' fun open_ => stays (reads open_)
      · have others : ∀ label, entry.1 ≠ .pair client label := fun label same => own ⟨label, same⟩
        have label_eq : pairLabel? client entry = none := pairLabel?_of_ne others
        have none_' : failedUses client (history ++ [entry]) = [] := by
          simp [failedUses_concat, none_, label_eq]
        exact .unused (moves.runs kept others runs) none_' reads
  | lost reason ends noticed =>
      refine .lost reason (ends.onward step) fun phase pausing stage_eq => ?_
      obtain ⟨reporting, noticing⟩ := noticed phase pausing stage_eq
      rw [reports_concat]
      exact ⟨reporting, noticing.move tidy names moves kept⟩
  | missed reason ends => exact .missed reason (ends.onward step)
  | finished ends harmless noMore => exact .finished (ends.onward step) harmless noMore

end Breaking

/-- The channel of a pair breaks while the pair is at work; it is not cancelled, its client does
not fail, and the session is not torn down.  Then the first use of the channel decides, in
whatever order the two directions go on.  If it is a read, the pair ends with the loss of its
channel.  If it is a write, the pair ends as closed, and the session does not learn of the loss.
Without any use the pair goes on, or it ends as closed when the client has ended its stream and
the cluster had done so before the break. -/
theorem broken_channel_decided_by_first_use {forward : Forward} {policy : Retry.Policy}
    {asked : Bool} {before after : List Entry} {session last : Session} {client channel : Nat}
    {outbound inbound : Pump}
    (first : Trail Goes (fresh forward policy asked) before session)
    (runs : session.Runs client (.relaying channel outbound inbound))
    (later : Trail Goes session after last) (kept : ∀ entry ∈ after, entry.1 ≠ .drop)
    (broken : ∀ label ∈ pairLabels client after, label.fitsBreak = true) :
    AfterBreak session client inbound after last := by
  induction later with
  | here => exact .unused runs rfl id
  | @onward history middle entry stop trail step ih =>
      rw [List.forall_mem_append] at kept
      have keptNow : entry.1 ≠ .drop := kept.2 entry (List.mem_singleton_self entry)
      have fits : ∀ label, pairLabel? client entry = some label → label.fitsBreak = true := by
        intro label label_eq
        exact broken label (List.mem_filterMap.2 ⟨entry, by simp, label_eq⟩)
      have soFar : AfterBreak session client inbound history middle := by
        refine ih kept.1 fun label member => broken label ?_
        rw [pairLabels, List.filterMap_append]
        exact List.mem_append_left _ member
      have reached := first.trans trail
      have forward_eq := (forward_eq_and_policy_eq_of_trail trail).1
      exact soFar.move trail step forward_eq (tidy_of_trail reached)
        (tidy_of_trail (reached.onward step)) (namesLosses_of_trail reached) keptNow fits

/-- A session that serves one client through a channel. -/
def relayingLabels : List Label :=
  [.bound, .announce, .call, .opened, .activate, .accept, .pair 0 .start]

/-- The client sends something, but reading is the first to fail. -/
theorem channel_lost_by_read :
    ∃ before session after last,
      Trail Goes (fresh sampleForward {} false) before session ∧
        session.Runs 0 (.relaying 0 .reading .reading) ∧ Trail Goes session after last ∧
          (∀ entry ∈ after, entry.1 ≠ .drop) ∧
            (∀ label ∈ pairLabels 0 after, label.fitsBreak = true) ∧
              last.stage = .resting ∧ AfterBreak session 0 .reading after last := by
  obtain ⟨before, session, after, last, played, runs, playedOn, kept, broken, stage_eq⟩ :
      ∃ before session after last,
        (fresh sampleForward {} false).play relayingLabels = some (before, session) ∧
          session.Runs 0 (.relaying 0 .reading .reading) ∧
            session.play [.pair 0 (.relay .outbound (.read [120])),
              .pair 0 (.relay .inbound (.readFailed "reset")), .join 0, .drained, .degrade,
              .schedule []] = some (after, last) ∧
              (∀ entry ∈ after, entry.1 ≠ .drop) ∧
                (∀ label ∈ pairLabels 0 after, label.fitsBreak = true) ∧
                  last.stage = .resting :=
    ⟨_, _, _, _, rfl, ⟨_, _, rfl, rfl, rfl⟩, rfl, by decide, by decide, rfl⟩
  have first := trail_of_play played
  have later := trail_of_play playedOn
  exact ⟨before, session, after, last, first, runs, later, kept, broken, stage_eq,
    broken_channel_decided_by_first_use first runs later kept broken⟩

/-- The client sends something, and writing it is the first to fail: the pair ends as closed,
and the session goes on serving and shows no failure. -/
theorem channel_loss_missed_by_write :
    ∃ before session after ended late last,
      Trail Goes (fresh sampleForward {} false) before session ∧
        session.Runs 0 (.relaying 0 .reading .reading) ∧ Trail Goes session after ended ∧
          (∀ label ∈ pairLabels 0 after, label.fitsBreak = true) ∧
            failedUses 0 after = [.write "reset"] ∧ ended.Waits 0 .closed ∧
              Trail Goes ended late last ∧ (∃ phase, last.stage = .serving phase false ∧
                phase.isQuiet = true) ∧ reports (after ++ late) = [] := by
  obtain ⟨before, session, after, ended, late, last, played, runs, playedOn, broken, uses, waits,
      playedLate, serves, silent⟩ :
      ∃ before session after ended late last,
        (fresh sampleForward {} false).play relayingLabels = some (before, session) ∧
          session.Runs 0 (.relaying 0 .reading .reading) ∧
            session.play [.pair 0 (.relay .outbound (.read [120])),
              .pair 0 (.relay .outbound (.writeFailed "reset"))] = some (after, ended) ∧
              (∀ label ∈ pairLabels 0 after, label.fitsBreak = true) ∧
                failedUses 0 after = [.write "reset"] ∧ ended.Waits 0 .closed ∧
                  ended.play [.join 0] = some (late, last) ∧
                    (∃ phase, last.stage = .serving phase false ∧ phase.isQuiet = true) ∧
                      reports (after ++ late) = [] :=
    ⟨_, _, _, _, _, _, rfl, ⟨_, _, rfl, rfl, rfl⟩, rfl, by decide, rfl,
      ⟨_, rfl, List.mem_singleton_self _⟩, rfl, ⟨_, rfl, rfl⟩, rfl⟩
  exact ⟨before, session, after, ended, late, last, trail_of_play played, runs,
    trail_of_play playedOn, broken, uses, waits, trail_of_play playedLate, serves, silent⟩

end PortTunnel.Tunnel
