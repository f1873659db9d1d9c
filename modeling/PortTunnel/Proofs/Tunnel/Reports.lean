import PortTunnel.Proofs.Tunnel.Moves

/-!
# What sessions report

The reports of a session follow a grammar.  A session connects again and again;
each time it may serve for a while, and then it has failed and waits, or it ends.
The grammar is given by inductive predicates on lists of reports.  They grow at
the end, as histories do.

The invariant `Story` says for each stage of a session which reports lead to it.
It is shown move by move, so it holds along every trail.
-/

namespace PortTunnel.Tunnel

open Session

/-! ## The grammar -/

/-- The reports made while serving.  The flag tells whether the last of them was a
failure; only then the session can report that it recovered. -/
inductive Service : List Report → Bool → Prop
  | begun : Service [] false
  | degraded {reports : List Report} {flag : Bool} (failure : Failure)
      (service : Service reports flag) :
      Service (reports ++ [.state .degraded (some failure)]) true
  | recovered {reports : List Report} (service : Service reports true) :
      Service (reports ++ [.state .active none]) false

/-- The reports of one connection, with or without success. -/
inductive Attempt : List Report → Prop
  | unconnected : Attempt [.state .connecting none]
  | connected {service : List Report} {flag : Bool} (served : Service service flag) :
      Attempt (.state .connecting none :: .state .active none :: service)

/-- An attempt that failed and is to be repeated. -/
inductive Cycle : List Report → Prop
  | failed {attempt : List Report} (tried : Attempt attempt) (failure : Failure)
      (number : UInt32) (delay : Span) :
      Cycle (attempt ++ [.state .degraded (some failure), .retry number delay])

/-- Any number of cycles. -/
inductive Cycles : List Report → Prop
  | none : Cycles []
  | more {past cycle : List Report} (cycles : Cycles past) (last : Cycle cycle) :
      Cycles (past ++ cycle)

/-- How the reports of a session end after its last repetition. -/
inductive Ending : List Report → Prop
  | stopped {attempt : List Report} (tried : Attempt attempt) :
      Ending (attempt ++ [.state .closed none])
  | gaveUp {attempt : List Report} (tried : Attempt attempt) (failure : Failure) :
      Ending (attempt ++ [.state .degraded (some failure), .state .closed (some failure)])
  | stoppedResting {cycle : List Report} (last : Cycle cycle) :
      Ending (cycle ++ [.state .closed none])

/-- All reports of a session from its beginning to its end. -/
inductive Chronicle : List Report → Prop
  | refused (failure : Failure) (kind_eq : failure.kind = .bindFailed) :
      Chronicle [.state .closed (some failure)]
  | lived {past ending : List Report} (cycles : Cycles past) (last : Ending ending) :
      Chronicle (past ++ ending)

/-! ## Reports of closing -/

/-- The state of the forward that a report tells. -/
def Report.state? : Report → Option Status.State
  | .state shown _ => some shown
  | .retry _ _ => none

/-- None of the reports says that the forward is closed. -/
def Unclosed (reports : List Report) : Prop :=
  ∀ report ∈ reports, report.state? ≠ some .closed

theorem unclosed_append_iff {first second : List Report} :
    Unclosed (first ++ second) ↔ Unclosed first ∧ Unclosed second :=
  List.forall_mem_append

theorem Service.unclosed {service : List Report} {flag : Bool} (served : Service service flag) :
    Unclosed service := by
  induction served with
  | begun => simp [Unclosed]
  | degraded failure _ ih => exact unclosed_append_iff.2 ⟨ih, by simp [Unclosed, Report.state?]⟩
  | recovered _ ih => exact unclosed_append_iff.2 ⟨ih, by simp [Unclosed, Report.state?]⟩

theorem Attempt.unclosed {attempt : List Report} (tried : Attempt attempt) : Unclosed attempt := by
  cases tried with
  | unconnected => simp [Unclosed, Report.state?]
  | connected served => simpa [Unclosed, Report.state?] using served.unclosed

theorem Cycle.unclosed {cycle : List Report} (last : Cycle cycle) : Unclosed cycle := by
  cases last with
  | failed tried failure number delay =>
      exact unclosed_append_iff.2 ⟨tried.unclosed, by simp [Unclosed, Report.state?]⟩

theorem Cycles.unclosed {past : List Report} (cycles : Cycles past) : Unclosed past := by
  induction cycles with
  | none => simp [Unclosed]
  | more _ last ih => exact unclosed_append_iff.2 ⟨ih, last.unclosed⟩

theorem Ending.closing_last {ending : List Report} (last : Ending ending) :
    ∃ before failure, ending = before ++ [.state .closed failure] ∧ Unclosed before := by
  cases last with
  | stopped tried => exact ⟨_, _, rfl, tried.unclosed⟩
  | @gaveUp attempt tried failure =>
      refine ⟨attempt ++ [.state .degraded (some failure)], some failure, by simp, ?_⟩
      exact unclosed_append_iff.2 ⟨tried.unclosed, by simp [Unclosed, Report.state?]⟩
  | stoppedResting last => exact ⟨_, _, rfl, last.unclosed⟩

/-- A chronicle ends with its only report of closing. -/
theorem Chronicle.closing_last {reports : List Report} (chronicle : Chronicle reports) :
    ∃ before failure, reports = before ++ [.state .closed failure] ∧ Unclosed before := by
  cases chronicle with
  | refused failure => exact ⟨[], some failure, rfl, by simp [Unclosed]⟩
  | @lived past _ cycles last =>
      obtain ⟨before, failure, rfl, open_⟩ := last.closing_last
      exact ⟨past ++ before, failure, by simp, unclosed_append_iff.2 ⟨cycles.unclosed, open_⟩⟩

/-! ## The reports that lead to a stage -/

/-- Past cycles and an attempt that goes on or has just failed. -/
def Tried (reports : List Report) : Prop :=
  ∃ past attempt, Cycles past ∧ Attempt attempt ∧ reports = past ++ attempt

/-- At least one cycle, and nothing after the last. -/
def Rested (reports : List Report) : Prop :=
  ∃ past cycle, Cycles past ∧ Cycle cycle ∧ reports = past ++ cycle

theorem Tried.stopped {reports : List Report} (tried : Tried reports) :
    Chronicle (reports ++ [.state .closed none]) := by
  obtain ⟨past, attempt, cycles, last, rfl⟩ := tried
  rw [List.append_assoc]
  exact .lived cycles (.stopped last)

theorem Tried.gaveUp {reports : List Report} (tried : Tried reports) (failure : Failure) :
    Chronicle
      (reports ++ [.state .degraded (some failure)] ++ [.state .closed (some failure)]) := by
  obtain ⟨past, attempt, cycles, last, rfl⟩ := tried
  rw [List.append_assoc, List.append_assoc]
  exact .lived cycles (.gaveUp last failure)

theorem Rested.stopped {reports : List Report} (rested : Rested reports) :
    Chronicle (reports ++ [.state .closed none]) := by
  obtain ⟨past, cycle, cycles, last, rfl⟩ := rested
  rw [List.append_assoc]
  exact .lived cycles (.stoppedResting last)

theorem Tried.rested {reports : List Report} (tried : Tried reports) (failure : Failure)
    (number : UInt32) (delay : Span) :
    Rested (reports ++ [.state .degraded (some failure)] ++ [.retry number delay]) := by
  obtain ⟨past, attempt, cycles, last, rfl⟩ := tried
  exact ⟨past, _, cycles, .failed last failure number delay, by simp⟩

/-- The reports that may have been made when a session has come to a stage. -/
def Story : Stage → List Report → Prop
  | .unbound, reports => reports = []
  | .announcing, reports => Cycles reports
  | .connecting _, reports | .connected _, reports =>
      ∃ past, Cycles past ∧ reports = past ++ [.state .connecting none]
  | .serving phase _, reports =>
      ∃ past service, Cycles past ∧ Service service phase.degraded ∧
        reports = past ++ (.state .connecting none :: .state .active none :: service)
  | .draining _ _, reports | .failed _, reports => Tried reports
  | .judging failure, reports | .ending (some failure), reports =>
      ∃ before, Tried before ∧ reports = before ++ [.state .degraded (some failure)]
  | .resting, reports => Rested reports
  | .ending none, reports => Tried reports ∨ Rested reports
  | .closed, reports => Chronicle reports
  | .dropped, reports => ∃ rest, Chronicle (reports ++ rest)

theorem Story.tried_of_connecting {reports past : List Report} (cycles : Cycles past)
    (reports_eq : reports = past ++ [.state .connecting none]) : Tried reports :=
  ⟨past, _, cycles, .unconnected, reports_eq⟩

theorem Story.tried_of_serving {phase : Phase} {pausing : Bool} {reports : List Report}
    (story : Story (.serving phase pausing) reports) : Tried reports := by
  obtain ⟨past, service, cycles, served, reports_eq⟩ := story
  exact ⟨past, _, cycles, .connected served, reports_eq⟩

/-- Whatever the stage, the reports so far can be continued to a chronicle. -/
theorem Story.continues {stage : Stage} {reports : List Report} (story : Story stage reports) :
    ∃ rest, Chronicle (reports ++ rest) := by
  cases stage with
  | unbound =>
      obtain rfl : reports = [] := story
      exact ⟨_, .refused (.bindFailed "" "") rfl⟩
  | announcing => exact ⟨_, .lived story (.stopped .unconnected)⟩
  | connecting call =>
      obtain ⟨past, cycles, reports_eq⟩ := story
      exact ⟨_, (tried_of_connecting cycles reports_eq).stopped⟩
  | connected channel =>
      obtain ⟨past, cycles, reports_eq⟩ := story
      exact ⟨_, (tried_of_connecting cycles reports_eq).stopped⟩
  | serving phase pausing => exact ⟨_, story.tried_of_serving.stopped⟩
  | draining phase failure => exact ⟨_, Tried.stopped story⟩
  | failed failure => exact ⟨_, Tried.stopped story⟩
  | judging failure =>
      obtain ⟨before, tried, rfl⟩ := story
      exact ⟨_, tried.gaveUp failure⟩
  | resting => exact ⟨_, Rested.stopped story⟩
  | ending failure =>
      cases failure with
      | none =>
          rcases story with tried | rested
          · exact ⟨_, tried.stopped⟩
          · exact ⟨_, rested.stopped⟩
      | some failure =>
          obtain ⟨before, tried, rfl⟩ := story
          exact ⟨_, tried.gaveUp failure⟩
  | closed =>
      have chronicle : Chronicle reports := story
      exact ⟨[], by rwa [List.append_nil]⟩
  | dropped => exact story

/-! ## Every move fits the story -/

/-- A move leads from a story to a story. -/
theorem Story.move {session next : Session} {label : Label} {report : Option Report}
    {reports : List Report} (story : Story session.stage reports)
    (moves : Moves session label next report) : Story next.stage (reports ++ report.toList) := by
  have silent : reports ++ (none : Option Report).toList = reports := List.append_nil reports
  cases moves with
  | stop =>
      rw [silent]
      exact story
  | bound stage_eq =>
      rw [stage_eq] at story
      obtain rfl : reports = [] := story
      exact Cycles.none
  | refused stage_eq =>
      rw [stage_eq] at story
      obtain rfl : reports = [] := story
      exact Chronicle.refused _ rfl
  | announce stage_eq =>
      rw [stage_eq] at story
      exact ⟨reports, story, rfl⟩
  | call stage_eq | opened stage_eq =>
      rw [stage_eq] at story
      rw [silent]
      exact story
  | openFailed stage_eq =>
      rw [stage_eq] at story
      obtain ⟨past, cycles, reports_eq⟩ := story
      rw [silent]
      exact tried_of_connecting cycles reports_eq
  | heedConnecting stage_eq =>
      rw [stage_eq] at story
      obtain ⟨past, cycles, reports_eq⟩ := story
      rw [silent]
      exact .inl (tried_of_connecting cycles reports_eq)
  | activate stage_eq =>
      rw [stage_eq] at story
      obtain ⟨past, cycles, rfl⟩ := story
      exact ⟨past, [], cycles, .begun, by simp⟩
  | heedServing stage_eq | joinLost stage_eq | joinLastUnopened stage_eq =>
      rw [stage_eq] at story
      rw [silent]
      exact story.tried_of_serving
  | accept stage_eq | acceptFailed stage_eq | resume stage_eq =>
      rw [stage_eq] at story
      rw [silent]
      exact story
  | @joinUnopened _ _ _ failure stage_eq join_eq =>
      rw [stage_eq] at story
      obtain ⟨past, service, cycles, served, rfl⟩ := story
      exact ⟨past, _, cycles, .degraded failure served, by simp⟩
  | joinEnded stage_eq join_eq =>
      rw [stage_eq] at story
      obtain ⟨past, service, cycles, served, reports_eq⟩ := story
      obtain ⟨-, rfl⟩ := join?_eq_some join_eq
      rw [silent]
      exact ⟨past, service, cycles, served, reports_eq⟩
  | recover stage_eq degraded =>
      rw [stage_eq] at story
      obtain ⟨past, service, cycles, served, rfl⟩ := story
      rw [degraded] at served
      exact ⟨past, _, cycles, .recovered served, by simp⟩
  | pairServing stage_eq moves =>
      rw [stage_eq] at story
      obtain ⟨past, service, cycles, served, reports_eq⟩ := story
      rw [← moves.degraded_eq] at served
      rw [silent]
      exact ⟨past, service, cycles, served, reports_eq⟩
  | pairDraining stage_eq | joinDraining stage_eq | drainedFailed stage_eq | giveUp stage_eq =>
      rw [stage_eq] at story
      rw [silent]
      exact story
  | drainedAsked stage_eq =>
      rw [stage_eq] at story
      rw [silent]
      exact .inl story
  | degrade stage_eq =>
      rw [stage_eq] at story
      exact ⟨reports, story, rfl⟩
  | schedule stage_eq =>
      rw [stage_eq] at story
      obtain ⟨before, tried, rfl⟩ := story
      exact tried.rested _ _ _
  | wake stage_eq =>
      rw [stage_eq] at story
      obtain ⟨past, cycle, cycles, last, rfl⟩ := story
      rw [silent]
      exact Cycles.more cycles last
  | heedResting stage_eq =>
      rw [stage_eq] at story
      rw [silent]
      exact .inr story
  | @close failure stage_eq =>
      rw [stage_eq] at story
      cases failure with
      | none =>
          rcases story with tried | rested
          · exact tried.stopped
          · exact rested.stopped
      | some failure =>
          obtain ⟨before, tried, rfl⟩ := story
          exact tried.gaveUp failure
  | drop =>
      rw [silent]
      exact story.continues

/-! ## What comes before a report -/

/-- Whether a label brings the news that a channel was opened. -/
def Session.Label.opensChannel : Label → Bool
  | .opened | .pair _ .opened => true
  | _ => false

/-- The labels that were followed since the last report, the latest first. -/
def Session.sinceReport (history : List Entry) : List Label :=
  (history.reverse.takeWhile (·.2.isNone)).map (·.1)

@[simp]
theorem sinceReport_silent (history : List Entry) (label : Label) :
    sinceReport (history ++ [(label, none)]) = label :: sinceReport history := by
  simp [sinceReport]

@[simp]
theorem sinceReport_reported (history : List Entry) (label : Label) (report : Report) :
    sinceReport (history ++ [(label, some report)]) = [] := by
  simp [sinceReport]

/-- A session that is about to report that it is active has had a channel opened. -/
def Founded : Stage → List Label → Prop
  | .connected _, labels => ∃ label ∈ labels, label.opensChannel = true
  | .serving phase _, labels =>
      phase.degraded = true → phase.seen ≠ phase.opened →
        ∃ label ∈ labels, label.opensChannel = true
  | _, _ => True

theorem Founded.move {session next : Session} {label : Label} {report : Option Report}
    {history : List Entry} (founded : Founded session.stage (sinceReport history))
    (moves : Moves session label next report) :
    Founded next.stage (sinceReport (history ++ [(label, report)])) := by
  -- A label more since the last report does no harm.
  have later {label : Label} {labels : List Label}
      (opening : ∃ early ∈ labels, early.opensChannel = true) :
      ∃ early ∈ label :: labels, early.opensChannel = true := by
    obtain ⟨early, member, opens⟩ := opening
    exact ⟨early, List.mem_cons_of_mem label member, opens⟩
  cases moves with
  | stop =>
      rw [sinceReport_silent]
      cases stage_eq : session.stage with
      | connected channel =>
          rw [stage_eq] at founded
          exact later founded
      | serving phase pausing =>
          rw [stage_eq] at founded
          exact fun degraded fresh => later (founded degraded fresh)
      | _ => trivial
  | opened stage_eq =>
      rw [sinceReport_silent]
      exact ⟨_, List.mem_cons_self, rfl⟩
  | activate stage_eq => exact nofun
  | accept stage_eq | acceptFailed stage_eq | resume stage_eq =>
      rw [stage_eq] at founded
      rw [sinceReport_silent]
      exact fun degraded fresh => later (founded degraded fresh)
  | joinUnopened stage_eq => exact fun _ fresh => (fresh rfl).elim
  | joinEnded stage_eq join_eq =>
      rw [stage_eq] at founded
      obtain ⟨-, rfl⟩ := join?_eq_some join_eq
      rw [sinceReport_silent]
      exact fun degraded fresh => later (founded degraded fresh)
  | recover stage_eq => exact nofun
  | pairServing stage_eq moves =>
      rw [stage_eq] at founded
      rw [sinceReport_silent]
      intro degraded fresh
      rw [moves.degraded_eq] at degraded
      rcases moves.opened_eq_or with opened_eq | rfl
      · rw [moves.seen_eq, opened_eq] at fresh
        exact later (founded degraded fresh)
      · exact ⟨_, List.mem_cons_self, rfl⟩
  | _ => trivial

/-- A session ends without a failure only if it was asked to. -/
def EndsAsked (session : Session) : Prop :=
  (∃ phase, session.stage = .draining phase none) ∨ session.stage = .ending none →
    session.stopRequested = true

theorem EndsAsked.move {session next : Session} {label : Label} {report : Option Report}
    (endsAsked : EndsAsked session) (moves : Moves session label next report) :
    EndsAsked next := by
  cases moves with
  | stop => exact fun _ => rfl
  | heedConnecting _ asked | heedServing _ asked | heedResting _ asked => exact fun _ => asked
  | pairDraining stage_eq | joinDraining stage_eq =>
      rintro (⟨phase, same⟩ | same)
      · cases same
        exact endsAsked (.inl ⟨_, stage_eq⟩)
      · cases same
  | drainedAsked stage_eq => exact fun _ => endsAsked (.inl ⟨_, stage_eq⟩)
  | _ =>
      rintro (⟨phase, same⟩ | same)
      · cases same
      · cases same

/-! ## Along a trail -/

section Trails

variable {forward : Forward} {policy : Retry.Policy} {asked : Bool} {history : List Entry}
  {session : Session}

/-- Along every trail of a session that has not begun, the reports fit the stage. -/
theorem story_of_trail (trail : Trail Goes (fresh forward policy asked) history session) :
    Story session.stage (reports history) := by
  induction trail with
  | here => exact rfl
  | onward _ step ih =>
      rw [reports_concat]
      exact ih.move (step_eq_some_iff.1 step)

theorem founded_of_trail (trail : Trail Goes (fresh forward policy asked) history session) :
    Founded session.stage (sinceReport history) := by
  induction trail with
  | here => trivial
  | onward _ step ih => exact ih.move (step_eq_some_iff.1 step)

theorem endsAsked_of_trail (trail : Trail Goes (fresh forward policy asked) history session) :
    EndsAsked session := by
  refine trail.preserves (by rintro (⟨phase, same⟩ | same) <;> cases same) ?_
  intro state entry later holds step
  exact holds.move (step_eq_some_iff.1 step)

/-- A session knows of a request to stop exactly if there was one. -/
theorem stopRequested_iff_of_trail
    (trail : Trail Goes (fresh forward policy asked) history session) :
    session.stopRequested = true ↔ asked = true ∨ .stop ∈ history.map (·.1) := by
  induction trail with
  | here => simp [fresh]
  | onward _ step ih =>
      rw [(step_eq_some_iff.1 step).stopRequested_iff, ih, List.map_append, List.mem_append,
        List.map_singleton, List.mem_singleton, or_assoc, eq_comm (b := Label.stop)]

/-- The reports of a session form a chronicle once it has closed, and only the last of them
says so; at any time they can be continued to a chronicle.  A session reports that it is active
only if a channel was opened since the report before, and that it closed without a failure only
after it was asked to stop. -/
theorem reports_form_chronicle
    (trail : Trail Goes (fresh forward policy asked) history session) :
    (session.stage = .closed →
      Chronicle (reports history) ∧
        ∃ before failure, reports history = before ++ [.state .closed failure] ∧ Unclosed before) ∧
      (∃ rest, Chronicle (reports history ++ rest)) ∧
      (∀ before label after failure,
        history = before ++ (label, some (.state .active failure)) :: after →
          ∃ early ∈ sinceReport before, early.opensChannel = true) ∧
      (∀ before label after,
        history = before ++ (label, some (.state .closed none)) :: after →
          asked = true ∨ .stop ∈ before.map (·.1)) := by
  have story := story_of_trail trail
  refine ⟨fun closed => ?_, story.continues, ?_, ?_⟩
  · rw [closed] at story
    exact ⟨story, Chronicle.closing_last story⟩
  · rintro before label after failure rfl
    obtain ⟨middle, later, first, step, -⟩ := trail.step_at
    have founded := founded_of_trail first
    cases step_eq_some_iff.1 step with
    | activate stage_eq =>
        rw [stage_eq] at founded
        exact founded
    | recover stage_eq degraded fresh =>
        rw [stage_eq] at founded
        exact founded degraded fresh
  · rintro before label after rfl
    obtain ⟨middle, later, first, step, -⟩ := trail.step_at
    cases step_eq_some_iff.1 step with
    | close stage_eq =>
        exact (stopRequested_iff_of_trail first).1 (endsAsked_of_trail first (.inr stage_eq))

end Trails

/-- A session whose second client gets no channel and whose third does.  Then it loses the
channel of the first, and it is asked to stop while it connects again. -/
def eventfulLabels : List Label :=
  [.bound, .announce, .call, .opened, .activate, .accept, .pair 0 .start, .accept,
    .pair 1 .start, .pair 1 (.openFailed (.connectFailed "refused")), .join 1, .accept,
    .pair 2 .start, .pair 2 .opened, .recover,
    .pair 0 (.relay .inbound (.readFailed "reset")), .join 0, .pair 2 .cancelled, .join 2,
    .drained, .degrade, .schedule [], .wake, .announce, .stop, .heed, .close]

theorem eventful_reports_form_chronicle :
    ∃ history session, Trail Goes (fresh sampleForward {} false) history session ∧
      session.stage = .closed ∧ (reports history).length = 8 ∧ Chronicle (reports history) := by
  obtain ⟨history, session, played, closed, length_eq⟩ :
      ∃ history session, (fresh sampleForward {} false).play eventfulLabels =
        some (history, session) ∧ session.stage = .closed ∧ (reports history).length = 8 :=
    ⟨_, _, rfl, rfl, rfl⟩
  have trail := trail_of_play played
  exact ⟨history, session, trail, closed, length_eq, ((reports_form_chronicle trail).1 closed).1⟩

end PortTunnel.Tunnel
