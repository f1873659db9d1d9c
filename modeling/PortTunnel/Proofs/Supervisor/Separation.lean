import PortTunnel.Proofs.Status.Separation
import PortTunnel.Proofs.Supervisor.Histories

/-!
# Forwards that share a run

A run keeps its sessions, its registry and its board by the ids of forwards, and passes a
forward over whose id it has registered already.  If all its forwards are plain, that is
right: a forward is passed over only if one of the same identity has come before it.  So
there is one session and one entry for each identity, the session of an id serves the
forward of that id and the entry shows it, from the first step of a run to its report.
-/

namespace PortTunnel

open Tunnel

/-! ## Entries and their forwards -/

namespace Status.Entry

@[simp]
theorem forward_told (entry : Entry) (report : Report) :
    (entry.told report).forward = entry.forward := by
  cases report with
  | state state failure => exact entry.forward_reported state failure
  | retry attempt delay => rfl

@[simp]
theorem forward_toldAll (entry : Entry) (reports : List Report) :
    (entry.toldAll reports).forward = entry.forward := by
  induction reports using List.reverseRecOn with
  | nil => rfl
  | append_singleton reports report ih => rw [toldAll_concat, forward_told, ih]

end Status.Entry

namespace Supervisor.Run

variable {forwards considered : List Forward} {run next : Run} {labels : List Label}
  {label : Label} {terms : Terms} {sharing : Bool}

/-- What the board shows of a session is the entry of the forward that it serves. -/
theorem Shown.forward_eq {forward : Forward} {history : List Session.Entry}
    {entry : Status.Entry} (shown : Shown run forward history)
    (found : run.fleet.board.entries.get? forward.id = some entry) : entry.forward = forward := by
  cases shown with
  | own itsEntry =>
      cases found.symm.trans itsEntry
      rw [Status.Entry.forward_toldAll]
  | abandoned _ _ _ itsEntry =>
      cases found.symm.trans itsEntry
      rw [Status.Entry.forward_told, Status.Entry.forward_toldAll]

/-! ## The forwards considered so far -/

/-- A run has considered some of its forwards, and it has started a session for each of their
ids and for nothing else. -/
structure Considers (forwards considered : List Forward) (run : Run) : Prop where
  forwards_eq : forwards = considered ++ run.stage.unstarted
  started_iff : ∀ id, run.fleet.Started id ↔ ∃ forward ∈ considered, forward.id = id

/-- One forward more has been considered. -/
theorem Considers.start {forward : Forward} {left : List Forward}
    (considers : Considers forwards considered run)
    (stage_eq : run.stage = .starting (forward :: left))
    (unstarted_eq : next.stage.unstarted = left)
    (started_iff : ∀ id, next.fleet.Started id ↔ id = forward.id ∨ run.fleet.Started id) :
    Considers forwards (considered ++ [forward]) next := by
  constructor
  case forwards_eq =>
    rw [considers.forwards_eq, stage_eq, unstarted_eq, List.append_assoc]
    rfl
  case started_iff =>
    intro id
    rw [started_iff, considers.started_iff]
    simp only [List.mem_append, List.mem_singleton]
    constructor
    · rintro (rfl | ⟨other, member, id_eq⟩)
      · exact ⟨forward, .inr rfl, rfl⟩
      · exact ⟨other, .inl member, id_eq⟩
    · rintro ⟨other, member | rfl, id_eq⟩
      · exact .inr ⟨other, member, id_eq⟩
      · exact .inl id_eq.symm

theorem Considers.move (considers : Considers forwards considered run)
    (orderly : Orderly forwards run) (moves : Moves run label next) :
    ∃ considered, Considers forwards considered next := by
  by_cases starting : label = .start
  · subst starting
    cases moves with
    | @startAgain forward left stage_eq known =>
        refine ⟨_, considers.start stage_eq rfl fun id => ?_⟩
        -- A forward that is passed over has its session already.
        have started := orderly.roster.registered forward.id known
        exact (or_iff_right_of_imp fun same => same ▸ started).symm
    | start stage_eq unknown =>
        exact ⟨_, considers.start stage_eq rfl fun id => Fleet.started_start_iff⟩
  · refine ⟨considered, ?_, fun id => ?_⟩
    · rw [moves.unstarted_eq starting]
      exact considers.forwards_eq
    · rw [(moves.keeps starting).started_iff]
      exact considers.started_iff id

theorem exists_considers_of_trail
    (trail : Trail Goes (ofForwards terms sharing forwards) labels run) :
    ∃ considered, Considers forwards considered run := by
  induction trail with
  | here =>
      refine ⟨[], rfl, fun id => ⟨?_, nofun⟩⟩
      rintro ⟨session, ⟨⟩⟩
  | onward trail step ih =>
      obtain ⟨considered, considers⟩ := ih
      exact considers.move (orderly_of_trail trail) (step_eq_some_iff.1 step)

section Trails

variable {id : String} (trail : Trail Goes (ofForwards terms sharing forwards) labels run)
include trail

/-- While sessions are started, the registry has the ids of the forwards considered so far. -/
theorem Considers.mem_registry_iff (considers : Considers forwards considered run)
    {left : List Forward} (stage_eq : run.stage = .starting left) :
    id ∈ run.registry ↔ ∃ forward ∈ considered, forward.id = id := by
  rw [← considers.started_iff]
  exact ⟨(orderly_of_trail trail).roster.registered id,
    (filling_of_trail trail left stage_eq).listed id⟩

/-- The board has their ids at any time. -/
theorem Considers.mem_entries_iff (considers : Considers forwards considered run) :
    id ∈ run.fleet.board.entries.names ↔ ∃ forward ∈ considered, forward.id = id := by
  rw [← considers.started_iff, (orderly_of_trail trail).sound.entered, NameMap.mem_names_iff,
    Option.isSome_iff_exists]

/-! ## Sessions and entries of their own -/

/-- What the board shows under an id is the forward that the session of the id serves. -/
theorem exists_served_of_trail {entry : Status.Entry}
    (found : run.fleet.board.entries.get? id = some entry) :
    ∃ session, run.fleet.sessions.get? id = some session ∧ entry.forward = session.forward := by
  have entered : (run.fleet.board.entries.get? id).isSome = true := by rw [found]; rfl
  obtain ⟨session, itsSession⟩ := ((orderly_of_trail trail).sound.entered id).2 entered
  obtain ⟨asked, history, recorded⟩ := records_of_trail trail id session itsSession
  exact ⟨session, itsSession, recorded.shown.forward_eq (recorded.id_eq.symm ▸ found)⟩

variable (plain : ∀ forward ∈ forwards, forward.IsPlain) {forward : Forward}
  (isPlain : forward.IsPlain)
include plain isPlain

/-- The session of a plain forward serves it, but perhaps at another address. -/
theorem session_identity_eq {session : Session}
    (found : run.fleet.sessions.get? forward.id = some session) :
    session.forward.identity = forward.identity := by
  have first := servesFirst_of_trail trail forward.id session found
  have same_id : session.forward.id = forward.id := by simpa using List.find?_some first
  apply (Forward.id_eq_id_iff_of_isPlain _ isPlain).1 same_id
  exact plain _ (List.mem_of_find?_eq_some first)

/-- Its entry shows it. -/
theorem entry_identity_eq {entry : Status.Entry}
    (found : run.fleet.board.entries.get? forward.id = some entry) :
    entry.forward.identity = forward.identity := by
  obtain ⟨session, itsSession, forward_eq⟩ := exists_served_of_trail trail found
  rw [forward_eq]
  exact session_identity_eq trail plain isPlain itsSession

end Trails

/-- A run of plain forwards does not take one for another.  It has considered the first of them
so far. -/
structure TellsApart (considered : List Forward) (run : Run) : Prop where
  /-- There is one session for each identity, -/
  sessions_perm : run.fleet.sessions.names.Perm
    ((Forward.identities considered).map Identity.text)
  /-- one entry on the board, -/
  entries_perm : run.fleet.board.entries.names.Perm
    ((Forward.identities considered).map Identity.text)
  /-- and, while sessions are started, one in the registry. -/
  registry_perm : ∀ left, run.stage = .starting left →
    run.registry.Perm ((Forward.identities considered).map Identity.text)
  /-- The next forward is found there, and passed over, exactly if one of its identity has been
  considered. -/
  known_iff : ∀ forward left, run.stage = .starting (forward :: left) →
    (forward.id ∈ run.registry ↔ ∃ earlier ∈ considered, earlier.identity = forward.identity)
  /-- A forward leaves the registry only when it is closed itself. -/
  closed : ∀ forward ∈ considered, forward.id ∉ run.registry → run.fleet.ShowsClosed forward.id
  /-- The session of an id serves the forward of that id, -/
  session_own : ∀ forward : Forward, forward.IsPlain → ∀ session,
    run.fleet.sessions.get? forward.id = some session →
      session.forward.identity = forward.identity
  /-- and the entry shows it. -/
  entry_own : ∀ forward : Forward, forward.IsPlain → ∀ entry,
    run.fleet.board.entries.get? forward.id = some entry →
      entry.forward.identity = forward.identity
  /-- The report of the run has one entry for each identity, and it is its own. -/
  reported : ∀ report, run.stage = .over report →
    report.snapshot.names.Perm ((Forward.identities considered).map Identity.text) ∧
      ∀ forward : Forward, forward.IsPlain → ∀ standing,
        report.snapshot.get? forward.id = some standing →
          standing.entry.forward.identity = forward.identity

theorem tellsApart_of_trail (plain : ∀ forward ∈ forwards, forward.IsPlain)
    (trail : Trail Goes (ofForwards terms sharing forwards) labels run) :
    ∃ considered, forwards = considered ++ run.stage.unstarted ∧ TellsApart considered run := by
  obtain ⟨considered, considers⟩ := exists_considers_of_trail trail
  have forwards_eq := considers.forwards_eq
  have orderly := orderly_of_trail trail
  have plainSoFar : ∀ forward ∈ considered, forward.IsPlain := by
    intro forward member
    apply plain
    rw [forwards_eq]
    exact List.mem_append_left _ member
  refine ⟨considered, forwards_eq, ?_⟩
  constructor
  case sessions_perm =>
    apply Forward.perm_texts plainSoFar (NameMap.nodup_names _)
    intro id
    rw [NameMap.mem_names_iff]
    exact considers.started_iff id
  case entries_perm =>
    apply Forward.perm_texts plainSoFar (NameMap.nodup_names _)
    exact fun id => considers.mem_entries_iff trail
  case registry_perm =>
    intro left stage_eq
    apply Forward.perm_texts plainSoFar orderly.joined.nodup
    exact fun id => considers.mem_registry_iff trail stage_eq
  case known_iff =>
    intro forward left stage_eq
    have isPlain : forward.IsPlain := by
      apply plain
      rw [forwards_eq, stage_eq]
      exact List.mem_append_right _ List.mem_cons_self
    rw [considers.mem_registry_iff trail stage_eq]
    apply exists_congr
    intro earlier
    apply and_congr_right
    intro member
    exact Forward.id_eq_id_iff_of_isPlain (plainSoFar earlier member) isPlain
  case closed =>
    intro forward member unlisted
    exact orderly.joined.closed _ ((considers.started_iff _).2 ⟨forward, member, rfl⟩) unlisted
  case session_own =>
    exact fun forward isPlain session found => session_identity_eq trail plain isPlain found
  case entry_own =>
    exact fun forward isPlain entry found => entry_identity_eq trail plain isPlain found
  case reported =>
    intro report stage_eq
    have progress := orderly.progress
    rw [stage_eq] at progress
    obtain ⟨-, -, -, entries_eq⟩ := progress
    constructor
    · apply Forward.perm_texts plainSoFar (NameMap.nodup_names _)
      intro id
      rw [← considers.mem_entries_iff trail, NameMap.mem_names_iff, NameMap.mem_names_iff,
        entries_eq]
      simp
    · intro forward isPlain standing found
      apply entry_identity_eq trail plain isPlain
      rw [entries_eq, found, Option.map_some]

/-- Two plain forwards have the same id exactly if they have the same context, namespace, kind,
name and ports.  So no board that serves plain forwards takes one for another, and no run of
them does. -/
theorem ids_tell_forwards_apart :
    (∀ forward other : Forward, forward.IsPlain → other.IsPlain →
      (forward.id = other.id ↔
        forward.context = other.context ∧ forward.space = other.space ∧
          forward.kind = other.kind ∧ forward.name = other.name ∧
            forward.localPort = other.localPort ∧ forward.remotePort = other.remotePort)) ∧
    (∀ requests : List (Forward × Status.Request), (∀ request ∈ requests, request.1.IsPlain) →
      Status.TellsApart requests
        ((default : Status.Board).performAll (Status.callsFor requests))) ∧
    ∀ terms sharing forwards labels run, (∀ forward ∈ forwards, forward.IsPlain) →
      Trail Goes (ofForwards terms sharing forwards) labels run →
        ∃ considered, forwards = considered ++ run.stage.unstarted ∧
          TellsApart considered run := by
  refine ⟨?_, ?_, ?_⟩
  · intro forward other plain plain'
    rw [Forward.id_eq_id_iff_of_isPlain plain plain', Forward.identity_eq_iff]
  · exact fun requests plain => Status.tellsApart_of_isPlain plain
  · exact fun terms sharing forwards labels run plain trail => tellsApart_of_trail plain trail

/-- A forward whose context and name hold the separators of ids. -/
def tangledForward : Forward :=
  ⟨"x/y", "web", .pod, "a:1->2", 80, 81, .v4 .loopback, none⟩

/-- Another, with whose id the id of the first begins. -/
def shorterForward : Forward :=
  { tangledForward with name := "a", localPort := 1, remotePort := 2 }

/-- The first again, but for its address and its container. -/
def tangledElsewhere : Forward :=
  { tangledForward with bindAddress := default, container := some "main" }

/-- All of them. -/
def tangledForwards : List Forward :=
  [tangledForward, shorterForward, tangledElsewhere]

/-- Both are registered, the first is closed, and the second goes on. -/
def tangledRequests : List (Forward × Status.Request) :=
  [(tangledForward, .register), (shorterForward, .register),
    (tangledElsewhere, .report .closed none), (shorterForward, .report .connecting none)]

theorem tangled_forwards_stay_apart :
    tangledForward.id ≠ shorterForward.id ∧ tangledForward.id = tangledElsewhere.id ∧
      Status.TellsApart tangledRequests
        ((default : Status.Board).performAll (Status.callsFor tangledRequests)) ∧
      ∃ run considered, Trail Goes (ofForwards {} true tangledForwards)
          [.start, .start, .start] run ∧
        tangledForwards = considered ++ run.stage.unstarted ∧ TellsApart considered run ∧
          run.stage = .starting [] ∧ run.registry = [tangledForward.id, shorterForward.id] := by
  have plain : tangledForward.IsPlain := ⟨by decide, by decide⟩
  have plain' : shorterForward.IsPlain := ⟨by decide, by decide⟩
  have plain'' : tangledElsewhere.IsPlain := ⟨plain.space, plain.name⟩
  refine ⟨?_, ?_, ?_, ?_⟩
  · intro same
    have parts := (ids_tell_forwards_apart.1 tangledForward shorterForward plain plain').1 same
    exact absurd parts.2.2.2.2.1 (by decide)
  · apply (ids_tell_forwards_apart.1 tangledForward tangledElsewhere plain plain'').2
    exact ⟨rfl, rfl, rfl, rfl, rfl, rfl⟩
  · apply ids_tell_forwards_apart.2.1
    simp [tangledRequests, plain, plain', plain'']
  · obtain ⟨run, followed, stage_eq, registry_eq⟩ :
        ∃ run, follow step (ofForwards {} true tangledForwards) [.start, .start, .start] =
            some run ∧
          run.stage = .starting [] ∧ run.registry = [tangledForward.id, shorterForward.id] :=
      ⟨_, rfl, rfl, rfl⟩
    have trail := follow_eq_some_iff.1 followed
    have allPlain : ∀ forward ∈ tangledForwards, forward.IsPlain := by
      simp [tangledForwards, plain, plain', plain'']
    obtain ⟨considered, forwards_eq, apart⟩ := ids_tell_forwards_apart.2.2 {} true
      tangledForwards [.start, .start, .start] run allPlain trail
    exact ⟨run, considered, trail, forwards_eq, apart, stage_eq, registry_eq⟩

end Supervisor.Run

end PortTunnel
