import PortTunnel.Proofs.Tunnel.Reports

/-!
# Degraded sessions and their recovery

A session that has reported a failure should be on its way back.  It either still
serves other pairs, and the end of the last of them decides what comes next, or
it has left its serving phase and will try again or close.

There is one gap.  When a call fails for a new client the session is degraded as
long as other pairs are there.  If the last of these ends without the loss of its
channel, the session goes on serving nobody, and nothing but a new client or a
request to stop leads out of it.  The main result says that this is the only way
in which a degraded session rests.
-/

namespace PortTunnel.Tunnel

open Session

/-! ## The state that is shown -/

/-- The state told by the last report that tells one. -/
def shownState? (reports : List Report) : Option Status.State :=
  (reports.filterMap Report.state?).getLast?

@[simp]
theorem shownState?_state (reports : List Report) (state : Status.State)
    (failure : Option Failure) :
    shownState? (reports ++ [.state state failure]) = some state := by
  simp [shownState?, Report.state?]

/-- While a session serves, its last report is a failure exactly if it is degraded. -/
theorem Service.shownState?_eq {service : List Report} {flag : Bool}
    (served : Service service flag) (before : List Report) :
    shownState? (before ++ (.state .connecting none :: .state .active none :: service)) =
      some (if flag then .degraded else .active) := by
  cases served with
  | begun => simp [shownState?, Report.state?]
  | @degraded reports _ failure =>
      rw [← List.cons_append, ← List.cons_append, ← List.append_assoc]
      exact shownState?_state _ _ _
  | @recovered reports =>
      rw [← List.cons_append, ← List.cons_append, ← List.append_assoc]
      exact shownState?_state _ _ _

/-! ## Recovering and resting -/

/-- A session works on its recovery.  A pair that it serves has not ended, or has
not been joined; or it has left its serving phase, and is going to schedule a
retry, waits for it or begins it, or is going to close. -/
def Recovering : Stage → Prop
  | .serving phase _ => phase.isQuiet = false
  | .draining _ _ | .failed _ | .judging _ | .resting | .announcing | .ending _ => True
  | .unbound | .connecting _ | .connected _ | .closed | .dropped => False

/-- A session is degraded and serves nobody. -/
def Stranded : Stage → Prop
  | .serving phase _ => phase.degraded = true ∧ phase.isQuiet = true
  | _ => False

/-- A session that shows a failure is recovering exactly if it is not stranded. -/
theorem Story.recovering_iff {stage : Stage} {reports : List Report} (story : Story stage reports)
    (present : stage ≠ .dropped) (shown : shownState? reports = some .degraded) :
    Recovering stage ↔ ¬ Stranded stage := by
  cases stage with
  | unbound =>
      obtain rfl : reports = [] := story
      cases shown
  | connecting call =>
      obtain ⟨past, cycles, rfl⟩ := story
      rw [shownState?_state] at shown
      cases shown
  | connected channel =>
      obtain ⟨past, cycles, rfl⟩ := story
      rw [shownState?_state] at shown
      cases shown
  | serving phase pausing =>
      obtain ⟨past, service, cycles, served, rfl⟩ := story
      rw [served.shownState?_eq] at shown
      have degraded : phase.degraded = true := by
        cases flag : phase.degraded with
        | true => rfl
        | false =>
            rw [flag] at shown
            cases shown
      simp [Recovering, Stranded, degraded]
  | closed =>
      have chronicle : Chronicle reports := story
      obtain ⟨before, failure, rfl, -⟩ := chronicle.closing_last
      rw [shownState?_state] at shown
      cases shown
  | dropped => exact (present rfl).elim
  | _ => simp [Recovering, Stranded]

/-! ## How a session is stranded -/

/-- Labels that leave a stranded session where it is. -/
def Session.Label.isIdle : Label → Bool
  | .stop | .acceptFailed | .resume => true
  | _ => false

/-- A degraded session has a last pair, which ended but not by the loss of its
channel, and the pair is that of the client. -/
def LastPairLeft (session : Session) (client : Nat) : Prop :=
  ∃ phase exit joined,
    session.stage = .serving phase false ∧ phase.degraded = true ∧
      phase.join? client = some (exit, joined) ∧
        (exit = .closed ∨ exit = .localFailed ∨ exit = .cancelled) ∧ joined.isQuiet = true

/-- In its history the session joined the last pair while it was degraded, and
since then it did nothing that would help. -/
def Idled (start : Session) (history : List Entry) : Prop :=
  ∃ before client after session,
    history = before ++ (.join client, none) :: after ∧ Trail Goes start before session ∧
      LastPairLeft session client ∧ ∀ entry ∈ after, entry.1.isIdle = true

theorem lastPairLeft_iff {session : Session} {phase joined : Phase} {client : Nat} {exit : Exit}
    (stage_eq : session.stage = .serving phase false)
    (join_eq : phase.join? client = some (exit, joined)) :
    LastPairLeft session client ↔
      phase.degraded = true ∧ (exit = .closed ∨ exit = .localFailed ∨ exit = .cancelled) ∧
        joined.isQuiet = true := by
  constructor
  · rintro ⟨phase', exit', joined', stage_eq', degraded, join_eq', harmless, quiet⟩
    rw [stage_eq] at stage_eq'
    cases stage_eq'
    rw [join_eq] at join_eq'
    cases join_eq'
    exact ⟨degraded, harmless, quiet⟩
  · rintro ⟨degraded, harmless, quiet⟩
    exact ⟨phase, exit, joined, stage_eq, degraded, join_eq, harmless, quiet⟩

/-- No pair moves while there is none, and a pair that moves is still there. -/
theorem Session.PairMoves.isQuiet_eq_false {session : Session} {phase phase' : Phase}
    {isCancelled : Bool} {client calls : Nat} {label : Pair.Label} {counters : Status.Counters}
    (moves : PairMoves session phase isCancelled client label phase' calls counters) :
    phase.isQuiet = false ∧ phase'.isQuiet = false := by
  have busy {pair : Pair} (found : phase.pair? client = some pair) : phase.running ≠ [] :=
    List.ne_nil_of_mem (List.mem_of_find?_eq_some found)
  cases moves with
  | ended found =>
      exact ⟨by simp [Phase.isQuiet, busy found], by simp [Phase.isQuiet, Phase.finish]⟩
  | silent found | called found | opened found | carried found =>
      constructor
      · simp [Phase.isQuiet, busy found]
      · simp [Phase.isQuiet, Phase.setStage, busy found]

/-- A move strands a session by joining its last pair, or leaves it stranded. -/
theorem Session.Moves.stranded_iff {session next : Session} {label : Label}
    {report : Option Report} (moves : Moves session label next report) :
    Stranded next.stage ↔
      (Stranded session.stage ∧ label.isIdle = true) ∨
        ∃ client, label = .join client ∧ report = none ∧ LastPairLeft session client := by
  cases moves with
  | stop => simp [Session.Label.isIdle]
  | acceptFailed stage_eq | resume stage_eq => simp [stage_eq, Stranded, Session.Label.isIdle]
  | joinEnded stage_eq join_eq harmless =>
      obtain ⟨-, rfl⟩ := join?_eq_some join_eq
      simp [Stranded, Session.Label.isIdle, lastPairLeft_iff stage_eq join_eq, harmless]
  | joinUnopened _ _ busy =>
      constructor
      · exact fun stranded => absurd stranded.2 (Bool.eq_false_iff.1 busy)
      · simp [Session.Label.isIdle]
  | joinLost stage_eq join_eq | joinLastUnopened stage_eq join_eq =>
      simp [Stranded, Session.Label.isIdle, lastPairLeft_iff stage_eq join_eq]
  | joinDraining stage_eq => simp [Stranded, Session.Label.isIdle, LastPairLeft, stage_eq]
  | accept => simp [Stranded, Session.Label.isIdle, Phase.isQuiet, Phase.accept]
  | pairServing _ moves => simp [Stranded, Session.Label.isIdle, moves.isQuiet_eq_false.2]
  | _ => simp [Stranded, Session.Label.isIdle]

/-- With one label a session goes on in one way. -/
theorem Session.Goes.functional {session next next' : Session} {entry : Entry}
    (goes : Goes session entry next) (goes' : Goes session entry next') : next = next' := by
  have both : some (next, entry.2) = some (next', entry.2) := goes.symm.trans goes'
  cases both
  rfl

/-- A history leads a session to one end. -/
theorem Session.eq_of_trails {start session session' : Session} {history : List Entry}
    (trail : Trail Goes start history session) (trail' : Trail Goes start history session') :
    session = session' :=
  trail.functional (fun goes goes' => goes.functional goes') trail'

section Trails

variable {start session : Session} {history : List Entry}

/-- A session has idled if it had and does so still, or if it now joins its last pair. -/
theorem idled_concat_iff (trail : Trail Goes start history session) (entry : Entry) :
    Idled start (history ++ [entry]) ↔
      (Idled start history ∧ entry.1.isIdle = true) ∨
        ∃ client, entry.1 = .join client ∧ entry.2 = none ∧ LastPairLeft session client := by
  constructor
  · rintro ⟨before, client, after, early, history_eq, first, left, idle⟩
    rcases concat_eq_append_cons history_eq with ⟨rfl, rfl, rfl⟩ | ⟨rest, rfl, rfl⟩
    · obtain rfl : early = session :=
        eq_of_trails first trail
      exact .inr ⟨client, rfl, rfl, left⟩
    · rw [List.forall_mem_append] at idle
      have idled : Idled start (before ++ (.join client, none) :: rest) :=
        ⟨before, client, rest, early, rfl, first, left, idle.1⟩
      exact .inl ⟨idled, idle.2 entry (List.mem_singleton_self entry)⟩
  · rintro (⟨⟨before, client, after, early, rfl, first, left, idle⟩, still⟩ |
      ⟨client, label_eq, silent, left⟩)
    · have all_idle : ∀ other ∈ after ++ [entry], other.1.isIdle = true := by
        simpa [or_imp, forall_and, still] using idle
      exact ⟨before, client, after ++ [entry], early, by simp, first, left, all_idle⟩
    · have history_eq : history ++ [entry] = history ++ [(.join client, none)] := by
        rw [← label_eq, ← silent]
      exact ⟨history, client, [], session, history_eq, trail, left, by simp⟩

/-- A session is stranded exactly if it has idled. -/
theorem stranded_iff_of_trail (begins : ¬ Stranded start.stage)
    (trail : Trail Goes start history session) :
    Stranded session.stage ↔ Idled start history := by
  induction trail with
  | here =>
      constructor
      · exact fun stranded => (begins stranded).elim
      · rintro ⟨before, client, after, middle, history_eq, -⟩
        simp at history_eq
  | @onward history middle entry last trail step ih =>
      rw [(step_eq_some_iff.1 step).stranded_iff, ih, idled_concat_iff trail]

end Trails

/-- A session whose last report is a failure works on its recovery, with one exception: a
client got no channel while it served others, the last of these ended without the loss of
its channel, and nothing that would help has happened since. -/
theorem recovering_iff_not_idled {forward : Forward} {policy : Retry.Policy} {asked : Bool}
    {history : List Entry} {session : Session}
    (trail : Trail Goes (fresh forward policy asked) history session)
    (present : session.stage ≠ .dropped)
    (degraded : shownState? (reports history) = some .degraded) :
    Recovering session.stage ↔ ¬ Idled (fresh forward policy asked) history := by
  have begins : ¬ Stranded (fresh forward policy asked).stage := fun stranded => stranded
  rw [(story_of_trail trail).recovering_iff present degraded, stranded_iff_of_trail begins trail]

/-- A session that serves one client when another gets no channel. -/
def degradingLabels : List Label :=
  [.bound, .announce, .call, .opened, .activate, .accept, .pair 0 .start, .accept,
    .pair 1 .start, .pair 1 (.openFailed (.connectFailed "refused")), .join 1]

theorem degraded_session_is_recovering :
    ∃ history session, Trail Goes (fresh sampleForward {} false) history session ∧
      session.stage ≠ .dropped ∧ shownState? (reports history) = some .degraded ∧
        Recovering session.stage ∧ ¬ Idled (fresh sampleForward {} false) history := by
  obtain ⟨history, session, played, present, degraded, recovering⟩ :
      ∃ history session, (fresh sampleForward {} false).play degradingLabels =
        some (history, session) ∧ session.stage ≠ .dropped ∧
          shownState? (reports history) = some .degraded ∧ Recovering session.stage :=
    ⟨_, _, rfl, nofun, rfl, rfl⟩
  have trail := trail_of_play played
  exact ⟨history, session, trail, present, degraded, recovering,
    (recovering_iff_not_idled trail present degraded).1 recovering⟩

/-- The client that was served goes away, and the session goes on as it is. -/
theorem stranded_session_is_not_recovering :
    ∃ history session, Trail Goes (fresh sampleForward {} false) history session ∧
      session.stopRequested = false ∧ session.stage ≠ .dropped ∧
        shownState? (reports history) = some .degraded ∧ ¬ Recovering session.stage := by
  obtain ⟨history, session, played, unasked, present, degraded, stranded⟩ :
      ∃ history session, (fresh sampleForward {} false).play
          (degradingLabels ++ [.pair 0 (.relay .outbound (.readFailed "reset")), .join 0]) =
        some (history, session) ∧ session.stopRequested = false ∧ session.stage ≠ .dropped ∧
          shownState? (reports history) = some .degraded ∧ Stranded session.stage :=
    ⟨_, _, rfl, rfl, nofun, rfl, rfl, rfl⟩
  have trail := trail_of_play played
  exact ⟨history, session, trail, unasked, present, degraded, fun recovering =>
    ((story_of_trail trail).recovering_iff present degraded).1 recovering stranded⟩

end PortTunnel.Tunnel
