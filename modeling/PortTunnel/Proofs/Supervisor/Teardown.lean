import PortTunnel.Proofs.Supervisor.Cancellation
import PortTunnel.Proofs.Supervisor.Histories
import PortTunnel.Proofs.Tunnel.Connections

/-!
# Sessions that are torn down

Sessions that are late are torn down, with their pairs, wherever these are.  A pair takes
itself off the count of live clients by its last step, and after a teardown no pair takes a
step.  So the counters stay as they were: all clients are counted that were accepted, and
those are counted as live whose pairs were at work when the session was torn down.
-/

namespace PortTunnel

open Tunnel

namespace Supervisor

/-! ## Accepted clients -/

namespace Fleet

variable {fleet next : Fleet} {id : String} {session after : Session}

/-- Whether a client is accepted for the forward of an id. -/
def Label.accepts (id : String) : Label → Bool
  | .session other .accept => other == id
  | _ => false

theorem Label.accepts_session_iff {other : String} {told : Session.Label} :
    (Label.session other told).accepts id = true ↔ told = .accept ∧ other = id := by
  cases told <;> simp [accepts]

theorem counters_eq_of_get? (found : fleet.sessions.get? id = some session) :
    fleet.counters id = session.counters := by
  rw [counters, found]

theorem counters_eq_of_sessions_eq (sessions_eq : next.sessions = fleet.sessions) (id : String) :
    next.counters id = fleet.counters id := by
  rw [counters, counters, sessions_eq]

/-- A session that goes on counts one connection more if it accepts a client. -/
theorem connections_advance (fleet : Fleet) {mover : String} {told : Session.Label}
    {report : Option Report} (found : fleet.sessions.get? mover = some session)
    (moves : Session.Moves session told after report) (id : String) :
    ((fleet.advance mover session after report).counters id).connections =
      (fleet.counters id).connections + if told = .accept ∧ mover = id then 1 else 0 := by
  rw [counters, advance_sessions, NameMap.get?_insert]
  by_cases same : id = mover
  · subst same
    simp [counters_eq_of_get? found, moves.connections_eq]
  · simp [counters, same, Ne.symm same]

theorem Moves.connections_eq {label : Label} (moves : Moves fleet label next) (id : String) :
    (next.counters id).connections =
      (fleet.counters id).connections + if label.accepts id then 1 else 0 := by
  cases moves with
  | link => rfl
  | @answer name label link answer session after told report own step found told_eq moves =>
      -- No session accepts a client because it gets an answer.
      have other : told ≠ .accept := by
        rintro rfl
        cases isAnswer_of_answerLabel? told_eq
      have unchanged := connections_advance (fleet.setLink name link) found moves id
      rw [if_neg fun accepts => other accepts.1] at unchanged
      exact unchanged
  | session unanswered found moves =>
      rw [connections_advance fleet found moves]
      simp only [Label.accepts_session_iff]

end Fleet

namespace Run

variable {terms : Terms} {sharing : Bool} {forwards : List Forward} {labels : List Label}
  {label : Label} {run next : Run} {id : String} {session : Session}

/-- Whether a client is accepted for the forward of an id. -/
def Label.accepts (id : String) : Label → Bool
  | .fleet label => label.accepts id
  | _ => false

/-- The number of clients that have been accepted for the forward of an id. -/
def accepted (labels : List Label) (id : String) : Nat :=
  labels.countP (·.accepts id)

theorem Moves.connections_eq (moves : Moves run label next) (filling : Filling forwards run)
    (id : String) :
    (next.fleet.counters id).connections =
      (run.fleet.counters id).connections + if label.accepts id then 1 else 0 := by
  cases moves with
  | fleet permitted moves => exact moves.connections_eq id
  | cancelToken | heed =>
      simp only [Fleet.counters, stopAll, NameMap.get?_mapValues]
      cases run.fleet.sessions.get? id <;> rfl
  | @start forward left stage_eq unknown =>
      -- Nothing has been counted yet where a session begins.
      have unstarted : run.fleet.sessions.get? forward.id = none :=
        Option.eq_none_iff_forall_ne_some.2 fun session found =>
          unknown ((filling _ stage_eq).listed forward.id ⟨session, found⟩)
      simp only [Fleet.counters, Fleet.start, NameMap.get?_insert]
      by_cases same : id = forward.id
      · subst same
        simp [unstarted, Label.accepts]
      · simp [same, Label.accepts]
  | forceClosed =>
      rw [Fleet.counters_eq_of_sessions_eq (Fleet.report_sessions _ _ _)]
      rfl
  | _ => rfl

/-- All accepted clients are counted, whatever has become of the session. -/
theorem connections_eq_of_trail
    (trail : Trail Goes (ofForwards terms sharing forwards) labels run) (id : String) :
    (run.fleet.counters id).connections = accepted labels id := by
  induction trail with
  | here => rfl
  | @onward labels middle label last trail step ih =>
      rw [(step_eq_some_iff.1 step).connections_eq (filling_of_trail trail), ih, accepted, accepted,
        List.countP_append, List.countP_singleton]

/-! ## Teardowns -/

/-- After the deadline the session of a forward was torn down, and it was not over then. -/
def TornDown (start : Run) (labels : List Label) (id : String) (torn : Session) : Prop :=
  ∃ before after run, labels = before ++ .fleet (.session id .drop) :: after ∧
    Trail Goes start before run ∧ .deadline ∈ before ∧
      run.fleet.sessions.get? id = some torn ∧ torn.isOver = false

theorem TornDown.later {start : Run} {torn : Session} (tornDown : TornDown start labels id torn)
    (label : Label) : TornDown start (labels ++ [label]) id torn := by
  obtain ⟨before, after, run, rfl, rest⟩ := tornDown
  exact ⟨before, after ++ [label], run, by simp, rest⟩

/-- Sessions are torn down after the deadline only. -/
theorem deadline_mem_of_trail
    (trail : Trail Goes (ofForwards terms sharing forwards) labels run)
    (tearing : run.tearingDown = true) : .deadline ∈ labels := by
  induction trail with
  | here => cases tearing
  | onward trail step ih =>
      cases step_eq_some_iff.1 step with
      | deadline => exact List.mem_append_right _ (List.mem_singleton_self _)
      | _ => exact List.mem_append_left _ (ih tearing)

/-- A session is dropped because it was before or because it is torn down now, when it is not
over.  Either way it counts nothing more. -/
theorem Moves.drops (moves : Moves run label next)
    (found : next.fleet.sessions.get? id = some session) (dropped : session.stage = .dropped) :
    ∃ was, run.fleet.sessions.get? id = some was ∧ session.counters = was.counters ∧
      (was.stage = .dropped ∨
        label = .fleet (.session id .drop) ∧ run.tearingDown = true ∧ was.isOver = false) := by
  cases moves with
  | fleet permitted moves =>
      rcases moves.sessions_and_board with
        ⟨sessions_eq, -⟩ | ⟨mover, was, told, after, report, goes, label_eq⟩
      · exact ⟨session, sessions_eq ▸ found, rfl, .inl dropped⟩
      · rw [goes.sessions_eq, NameMap.get?_insert] at found
        by_cases same : id = mover
        · rw [if_pos same] at found
          obtain rfl := Option.some.inj found
          subst same
          refine ⟨was, goes.found, goes.moves.counters_eq_of_dropped dropped, ?_⟩
          rcases goes.moves.dropped_iff.1 dropped with already | rfl
          · exact .inl already
          · rcases label_eq with rfl | answers
            · cases goes.moves with
              | drop notOver => exact .inr ⟨rfl, permitted, notOver⟩
            · cases answers
        · rw [if_neg same] at found
          exact ⟨session, found, rfl, .inl dropped⟩
  | cancelToken | heed =>
      simp only [stopAll, NameMap.get?_mapValues, Option.map_eq_some_iff] at found
      obtain ⟨was, there, rfl⟩ := found
      exact ⟨was, there, rfl, .inl dropped⟩
  | start =>
      simp only [Fleet.start, NameMap.get?_insert] at found
      split at found
      · cases found
        cases dropped
      · exact ⟨session, found, rfl, .inl dropped⟩
  | forceClosed =>
      rw [Fleet.report_sessions] at found
      exact ⟨session, found, rfl, .inl dropped⟩
  | _ => exact ⟨session, found, rfl, .inl dropped⟩

/-- A session that has been dropped was torn down on the way, and it counts what it did then. -/
theorem exists_tornDown_of_trail
    (trail : Trail Goes (ofForwards terms sharing forwards) labels run)
    (found : run.fleet.sessions.get? id = some session) (dropped : session.stage = .dropped) :
    ∃ torn, TornDown (ofForwards terms sharing forwards) labels id torn ∧
      session.counters = torn.counters := by
  induction trail generalizing session with
  | here => cases found
  | @onward labels middle label last before step ih =>
      obtain ⟨was, there, counters_eq, already | ⟨rfl, tearing, notOver⟩⟩ :=
        (step_eq_some_iff.1 step).drops found dropped
      · obtain ⟨torn, tornDown, same⟩ := ih there already
        exact ⟨torn, tornDown.later label, counters_eq.trans same⟩
      · have deadline := deadline_mem_of_trail before tearing
        exact ⟨was, ⟨labels, [], middle, rfl, before, deadline, there, notOver⟩, counters_eq⟩

/-- The session of a forward that has been torn down leaves the counters as they were then.  All
accepted clients are counted, and as many count as live as pairs were at work, so none does
exactly if no pair was. -/
theorem torn_down_session_keeps_counters
    (trail : Trail Goes (ofForwards terms sharing forwards) labels run)
    (found : run.fleet.sessions.get? id = some session) (dropped : session.stage = .dropped) :
    ∃ torn, TornDown (ofForwards terms sharing forwards) labels id torn ∧
      run.fleet.counters id = torn.counters ∧
        (run.fleet.counters id).connections = accepted labels id ∧
          (run.fleet.counters id).live = torn.busy.length ∧
            ((run.fleet.counters id).live = 0 ↔ torn.busy = []) := by
  obtain ⟨torn, tornDown, same⟩ := exists_tornDown_of_trail trail found dropped
  have counters_eq : run.fleet.counters id = torn.counters :=
    (Fleet.counters_eq_of_get? found).trans same
  have live_eq : (run.fleet.counters id).live = torn.busy.length := by
    obtain ⟨before, after, middle, -, first, -, there, notOver⟩ := tornDown
    obtain ⟨asked, history, recorded⟩ := records_of_trail first id torn there
    have present : torn.stage ≠ .dropped := fun gone => by simp [Session.isOver, gone] at notOver
    rw [counters_eq, (counts_of_trail recorded.trail present).live_eq]
  refine ⟨torn, tornDown, counters_eq, connections_eq_of_trail trail id, live_eq, ?_⟩
  rw [live_eq, List.length_eq_zero_iff]

/-- A run whose only forward becomes active and does not close in time.  Its session does
something before it is asked to stop and something after, and then it is torn down. -/
def abandonedLabels (before after : List Session.Label) : List Label :=
  let id := Session.sampleForward.id
  let told (label : Session.Label) : Label := .fleet (.session id label)
  activeLabels ++ before.map told ++ [.requestShutdown, .heed] ++ after.map told ++
    [.deadline, .inspect id, .forceClosed, .swept, .finish, told .drop]

/-- Of two clients one is still served when the session is torn down. -/
theorem one_of_two_clients_stays_live :
    ∃ run session torn,
      Trail Goes (ofForwards {} true [Session.sampleForward])
        (abandonedLabels [.accept, .accept, .pair 0 .start] [.pair 0 .cancelled]) run ∧
        run.fleet.sessions.get? Session.sampleForward.id = some session ∧
          session.stage = .dropped ∧
            TornDown (ofForwards {} true [Session.sampleForward])
              (abandonedLabels [.accept, .accept, .pair 0 .start] [.pair 0 .cancelled])
              Session.sampleForward.id torn ∧
              (run.fleet.counters Session.sampleForward.id).connections = 2 ∧
                (run.fleet.counters Session.sampleForward.id).live = 1 ∧
                  torn.busy.length = 1 := by
  obtain ⟨run, session, followed, found, dropped, live_eq⟩ :
      ∃ run session, follow step (ofForwards {} true [Session.sampleForward])
        (abandonedLabels [.accept, .accept, .pair 0 .start] [.pair 0 .cancelled]) = some run ∧
          run.fleet.sessions.get? Session.sampleForward.id = some session ∧
            session.stage = .dropped ∧
              (run.fleet.counters Session.sampleForward.id).live = 1 :=
    ⟨_, _, rfl, rfl, rfl, rfl⟩
  have trail := follow_eq_some_iff.1 followed
  obtain ⟨torn, tornDown, -, connections_eq, busy_eq, -⟩ :=
    torn_down_session_keeps_counters trail found dropped
  exact ⟨run, session, torn, trail, found, dropped, tornDown, connections_eq, live_eq,
    busy_eq.symm.trans live_eq⟩

/-- A client that is served when the session is torn down counts as live ever after. -/
theorem abandoned_client_stays_live :
    ∃ run report session,
      Trail Goes (ofForwards {} true [Session.sampleForward])
        (abandonedLabels [.accept, .pair 0 .start] []) run ∧
        run.stage = .over report ∧ report.timeouts = [Session.sampleForward.id] ∧
          run.fleet.sessions.get? Session.sampleForward.id = some session ∧
            session.stage = .dropped ∧
              (run.fleet.counters Session.sampleForward.id).connections = 1 ∧
                (run.fleet.counters Session.sampleForward.id).live ≠ 0 :=
  ⟨_, _, _, follow_eq_some_iff.1 rfl, rfl, List.mergeSort_singleton _, rfl, rfl, rfl, nofun⟩

end Run

end Supervisor

end PortTunnel
