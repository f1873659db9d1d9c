import PortTunnel.Proofs.Environment.Resolution
import PortTunnel.Proofs.Forward.Identity
import PortTunnel.Proofs.Supervisor.Shutdown

/-!
# Forwards and their sessions

A run considers its forwards one after another and starts a session for each id that it has
not met before.  While it does so nobody leaves the registry, so the session of an id is
that of the first forward with it, and no session is ever replaced by another.  The board
shows exactly these ids, from the moment when all have been started to the report of the
run.

The forwards of an environment have different local ports and therefore different ids.  So
each of them gets its own session, and the run reports one forward for each port entry.
-/

namespace PortTunnel.Supervisor

open Tunnel

/-! ## Sessions that go on -/

namespace Fleet

/-- Every session of a fleet is there later, where steps of its own have led it. -/
def Continues (fleet next : Fleet) : Prop :=
  ∀ id session, fleet.sessions.get? id = some session →
    ∃ history later, Trail Session.Goes session history later ∧
      next.sessions.get? id = some later

namespace Continues

variable {fleet middle next : Fleet}

theorem of_sessions_eq (sessions_eq : next.sessions = fleet.sessions) : fleet.Continues next := by
  intro id session found
  exact ⟨[], session, .here, by rw [sessions_eq, found]⟩

theorem trans (first : fleet.Continues middle) (second : middle.Continues next) :
    fleet.Continues next := by
  intro id session found
  rcases first id session found with ⟨before, between, trail, foundThen⟩
  rcases second id between foundThen with ⟨after, later, rest, foundLater⟩
  exact ⟨before ++ after, later, trail.trans rest, foundLater⟩

end Continues

theorem Moves.continues {fleet next : Fleet} {label : Label} (moves : Moves fleet label next) :
    fleet.Continues next := by
  rcases moves.sessions_and_board with
    ⟨sessions_eq, -⟩ | ⟨mover, before, told, after, report, goes, -⟩
  · exact .of_sessions_eq sessions_eq
  · intro id session found
    rw [goes.sessions_eq, NameMap.get?_insert]
    by_cases same : id = mover
    · rw [if_pos same]
      subst same
      cases goes.found.symm.trans found
      exact ⟨_, after, .single goes.moves.goes, rfl⟩
    · rw [if_neg same]
      exact ⟨[], session, .here, found⟩

/-- The session of an id serves the first forward of a list that has the id. -/
def ServesFirst (forwards : List Forward) (fleet : Fleet) : Prop :=
  ∀ id session, fleet.sessions.get? id = some session →
    forwards.find? (·.id == id) = some session.forward

/-- Sessions that go on serve the same forwards. -/
theorem ServesFirst.of_continues {forwards : List Forward} {fleet next : Fleet}
    (serves : ServesFirst forwards fleet) (continues : fleet.Continues next)
    (started : ∀ id, next.Started id → fleet.Started id) : ServesFirst forwards next := by
  intro id later found
  rcases started id ⟨later, found⟩ with ⟨session, before⟩
  rcases continues id session before with ⟨history, same, trail, foundLater⟩
  cases found.symm.trans foundLater
  rw [(Session.forward_eq_and_policy_eq_of_trail trail).1]
  exact serves id session before

end Fleet

namespace Run

variable {forwards left : List Forward} {run next : Run} {label : Label}

/-! ## While sessions are started -/

/-- How far a run has come that has these forwards left to consider. -/
structure Filled (forwards left : List Forward) (run : Run) : Prop where
  /-- Those that it has considered are in the registry. -/
  considered : ∃ done, forwards = done ++ left ∧ ∀ forward ∈ done, forward.id ∈ run.registry
  /-- Nobody has left the registry. -/
  listed : ∀ id, run.fleet.Started id → id ∈ run.registry

theorem Filled.keep (filled : Filled forwards left run) (keeps : run.fleet.Keeps next.fleet)
    (registry_eq : next.registry = run.registry) : Filled forwards left next := by
  constructor
  · rw [registry_eq]
    exact filled.considered
  · intro id started
    rw [registry_eq]
    exact filled.listed id ((keeps.started_iff id).1 started)

/-- One forward more has been considered. -/
theorem Filled.consider {forward : Forward} (filled : Filled forwards (forward :: left) run)
    (grows : run.registry ⊆ next.registry) (listedNow : forward.id ∈ next.registry)
    (started : ∀ id, next.fleet.Started id → id = forward.id ∨ run.fleet.Started id) :
    Filled forwards left next := by
  rcases filled.considered with ⟨done, rfl, allListed⟩
  constructor
  · refine ⟨done ++ [forward], by simp, ?_⟩
    intro other member
    rcases List.mem_append.1 member with before | last
    · exact grows (allListed other before)
    · rw [List.mem_singleton.1 last]
      exact listedNow
  · intro id startedNow
    rcases started id startedNow with rfl | before
    · exact listedNow
    · exact grows (filled.listed id before)

/-- While a run starts sessions it is filled so far. -/
def Filling (forwards : List Forward) (run : Run) : Prop :=
  ∀ left, run.stage = .starting left → Filled forwards left run

theorem Filling.move (filling : Filling forwards run) (moves : Moves run label next) :
    Filling forwards next := by
  intro left stage_eq
  cases moves with
  | requestShutdown => exact (filling left stage_eq).keep (.refl _) rfl
  | cancelToken => exact (filling left stage_eq).keep run.keeps_stopAll rfl
  | fleet permitted moves => exact (filling left stage_eq).keep moves.keeps rfl
  | startAgain before known =>
      cases stage_eq
      apply (filling _ before).consider
      · exact List.Subset.refl _
      · exact known
      · exact fun id started => .inr started
  | @start forward _ before unknown =>
      cases stage_eq
      apply (filling _ before).consider
      · exact List.subset_append_left _ _
      · exact List.mem_append_right _ (List.mem_singleton_self _)
      · exact fun id started => Fleet.started_start_iff.1 started
  | join before =>
      rcases before with before | before
      · cases before.symm.trans stage_eq
      · cases before.symm.trans stage_eq
  | _ => cases stage_eq

/-! ## The sessions of a run -/

/-- No move replaces a session. -/
theorem Moves.continues (moves : Moves run label next) (filling : Filling forwards run) :
    run.fleet.Continues next.fleet := by
  have asked : run.fleet.Continues run.stopAll.fleet := by
    intro id session found
    refine ⟨[(.stop, none)], { session with stopRequested := true }, ?_, ?_⟩
    · exact .single Session.Moves.stop.goes
    · simp [stopAll, found]
  cases moves with
  | fleet permitted moves => exact moves.continues
  | cancelToken | heed => exact asked
  | @start forward left stage_eq unknown =>
      intro id session found
      have listed := (filling _ stage_eq).listed id ⟨session, found⟩
      have different : id ≠ forward.id := fun same => unknown (same ▸ listed)
      refine ⟨[], session, .here, ?_⟩
      simp [Fleet.start, different, found]
  | forceClosed => exact .of_sessions_eq (Fleet.report_sessions _ _ _)
  | _ => exact .of_sessions_eq rfl

theorem servesFirst_move (serves : run.fleet.ServesFirst forwards) (filling : Filling forwards run)
    (moves : Moves run label next) : next.fleet.ServesFirst forwards := by
  by_cases starting : label = .start
  · subst starting
    cases moves with
    | startAgain => exact serves
    | @start forward left stage_eq unknown =>
        intro id session found
        simp only [Fleet.start, NameMap.get?_insert] at found
        by_cases same : id = forward.id
        · rw [if_pos same] at found
          cases found
          rcases (filling _ stage_eq).considered with ⟨done, rfl, allListed⟩
          have unmet : done.find? (·.id == id) = none := by
            rw [List.find?_eq_none]
            intro other member named
            rw [beq_iff_eq, same] at named
            exact unknown (named ▸ allListed other member)
          rw [List.find?_append, unmet, Option.none_or]
          simp [same]
        · rw [if_neg same] at found
          exact serves id session found
  · apply serves.of_continues (moves.continues filling)
    exact fun id started => ((moves.keeps starting).started_iff id).1 started

/-- How the forwards of a list and the sessions of a run belong together. -/
structure Staffed (start : Run) (forwards : List Forward) (labels : List Label) (run : Run) :
    Prop where
  /-- The session of an id serves the first forward with that id. -/
  first : run.fleet.ServesFirst forwards
  /-- A session that has been started is never started anew.  Whatever it has come to later, it
  came to by steps of its own. -/
  continues : ∀ before after middle, labels = before ++ after → Trail Goes start before middle →
    middle.fleet.Continues run.fleet
  /-- When all forwards have been considered, the sessions to be joined are one for each id. -/
  registered : run.stage = .starting [] →
    run.registry.Nodup ∧ ∀ id, id ∈ run.registry ↔ ∃ forward ∈ forwards, forward.id = id
  /-- From then on there is a session for each id and for nothing else, -/
  started_iff : run.stage.unstarted = [] →
    ∀ id, run.fleet.Started id ↔ ∃ forward ∈ forwards, forward.id = id
  /-- and that is also what a snapshot shows, -/
  shown_iff : run.stage.unstarted = [] →
    ∀ id, id ∈ run.fleet.snapshot.names ↔ ∃ forward ∈ forwards, forward.id = id
  /-- and what the run reports. -/
  reported_iff : ∀ report, run.stage = .over report →
    ∀ id, id ∈ report.snapshot.names ↔ ∃ forward ∈ forwards, forward.id = id

section Trails

variable {terms : Terms} {sharing : Bool} {labels : List Label}

theorem filling_of_trail (trail : Trail Goes (ofForwards terms sharing forwards) labels run) :
    Filling forwards run := by
  apply trail.preserves
  · rintro left ⟨⟩
    exact ⟨⟨[], rfl, nofun⟩, by rintro id ⟨session, ⟨⟩⟩⟩
  · exact fun filling step => filling.move (step_eq_some_iff.1 step)

theorem servesFirst_of_trail (trail : Trail Goes (ofForwards terms sharing forwards) labels run) :
    run.fleet.ServesFirst forwards := by
  induction trail with
  | here =>
      intro id session found
      cases found
  | onward trail step ih =>
      exact servesFirst_move ih (filling_of_trail trail) (step_eq_some_iff.1 step)

/-- From one state of a run to another all sessions go on. -/
theorem continues_of_trail {middle : Run} {before after : List Label}
    (first : Trail Goes (ofForwards terms sharing forwards) before middle)
    (rest : Trail Goes middle after run) : middle.fleet.Continues run.fleet := by
  induction rest with
  | here => exact .of_sessions_eq rfl
  | onward trail step ih =>
      exact ih.trans ((step_eq_some_iff.1 step).continues (filling_of_trail (first.trans trail)))

/-- All forwards have a session once none is left to be considered. -/
theorem started_iff_of_unstarted
    (trail : Trail Goes (ofForwards terms sharing forwards) labels run)
    (allDone : run.stage.unstarted = []) {id : String} :
    run.fleet.Started id ↔ ∃ forward ∈ forwards, forward.id = id := by
  have roster := (orderly_of_trail trail).roster
  constructor
  · exact roster.declared id
  · rintro ⟨forward, member, rfl⟩
    rcases roster.accounted forward member with started | waiting
    · exact started
    · rw [allDone] at waiting
      cases waiting

theorem staffed_of_trail (trail : Trail Goes (ofForwards terms sharing forwards) labels run) :
    Staffed (ofForwards terms sharing forwards) forwards labels run := by
  have orderly := orderly_of_trail trail
  constructor
  case first => exact servesFirst_of_trail trail
  case continues =>
    rintro before after middle rfl first
    rcases trail.split with ⟨same, first', rest⟩
    have unique : middle = same := by
      apply first.functional _ first'
      intro state label later later' step step'
      exact Option.some.inj (step.symm.trans step')
    exact continues_of_trail first (unique ▸ rest)
  case registered =>
    intro stage_eq
    refine ⟨orderly.joined.nodup, fun id => ?_⟩
    rw [← started_iff_of_unstarted trail (by rw [stage_eq]; rfl)]
    exact ⟨orderly.roster.registered id, (filling_of_trail trail _ stage_eq).listed id⟩
  case started_iff => exact fun allDone id => started_iff_of_unstarted trail allDone
  case shown_iff =>
    intro allDone id
    rw [← started_iff_of_unstarted trail allDone, orderly.sound.entered, NameMap.mem_names_iff,
      Fleet.snapshot, Status.Board.get?_snapshot, Option.isSome_iff_exists]
    simp
  case reported_iff => exact fun report ended id => mem_names_iff_declared trail ended

/-- The snapshot of a run that is over has one entry for each of its forwards, if their ids are
different. -/
theorem names_perm_ids (trail : Trail Goes (ofForwards terms sharing forwards) labels run)
    {report : RunReport} (ended : run.stage = .over report)
    (distinct : (forwards.map Forward.id).Nodup) :
    report.snapshot.names.Perm (forwards.map Forward.id) := by
  rw [List.perm_ext_iff_of_nodup (NameMap.nodup_names _) distinct]
  intro id
  rw [mem_names_iff_declared trail ended, List.mem_map]

end Trails

/-- Every run starts one session for each id of its forwards, that of the first forward with the
id, and the board shows these ids from then on.  The forwards to which an environment resolves
have different ids; so each of them has its session, and a run of them reports one forward for
each port entry. -/
theorem every_forward_gets_its_session :
    (∀ terms sharing forwards labels run,
      Trail Goes (ofForwards terms sharing forwards) labels run →
        Staffed (ofForwards terms sharing forwards) forwards labels run) ∧
    ∀ config name forwards, Environment.resolve config name = .ok forwards →
      (forwards.map Forward.id).Nodup ∧
      ∀ terms sharing labels run, Trail Goes (ofForwards terms sharing forwards) labels run →
        (run.stage.unstarted = [] → ∀ forward ∈ forwards,
          ∃ session, run.fleet.sessions.get? forward.id = some session ∧
            session.forward = forward) ∧
        ∀ report, run.stage = .over report →
          report.snapshot.names.Perm (forwards.map Forward.id) ∧
            ∃ environment, Environment.effective config name = .ok environment ∧
              List.Forall₂
                (Environment.Describes environment.context environment.bindAddress)
                (Environment.portEntries environment.namespaces) forwards ∧
              report.snapshot.size = (Environment.portEntries environment.namespaces).length := by
  constructor
  · exact fun terms sharing forwards labels run trail => staffed_of_trail trail
  intro config name forwards resolved
  rcases Environment.resolve_eq_ok_iff_effective.1 resolved with
    ⟨environment, isEffective, forwardable, described⟩
  have distinct : (forwards.map Forward.id).Nodup :=
    Forward.nodup_ids ((Environment.nodup_localPort_iff described).2 forwardable.distinct)
  refine ⟨distinct, fun terms sharing labels run trail => ⟨?_, ?_⟩⟩
  · intro allDone forward member
    rcases (started_iff_of_unstarted trail allDone).2 ⟨forward, member, rfl⟩ with
      ⟨session, found⟩
    have first := servesFirst_of_trail trail forward.id session found
    have member' := List.mem_of_find?_eq_some first
    have same_id : session.forward.id = forward.id := by simpa using List.find?_some first
    exact ⟨session, found, List.inj_on_of_nodup_map distinct member' member same_id⟩
  · intro report ended
    have names_perm := names_perm_ids trail ended distinct
    have size_eq : report.snapshot.size = report.snapshot.names.length :=
      (List.length_map _).symm
    refine ⟨names_perm, environment, isEffective, described, ?_⟩
    rw [size_eq, names_perm.length_eq, List.length_map, described.length_eq]

/-- An environment whose names hold the separators of ids. -/
def oddlyNamed : Config :=
  { environments := .ofList
      [("dev",
        { target := { context := some "x/y" }
          namespaces := .ofList
            [("web/api",
              [{ kind := "svc", name := "a:1->2", ports := [⟨8080, 80, none⟩, ⟨8081, 80, none⟩] }])]
        })] }

/-- The first forward of that environment. -/
def oddForward : Forward :=
  ⟨"x/y", "web/api", .service, "a:1->2", 8080, 80, .v4 .loopback, none⟩

/-- The second. -/
def oddSibling : Forward :=
  { oddForward with localPort := 8081 }

/-- All of them. -/
def oddForwards : List Forward :=
  [oddForward, oddSibling]

/-- The first of them again, but for another address. -/
def againElsewhere : Forward :=
  { oddForward with bindAddress := default, container := some "web" }

/-- Two forwards are refused their local ports, the first before the second is started. -/
def refusedLabels : List Label :=
  let first := oddForward.id
  let second := oddSibling.id
  [.start, .fleet (.session first (.refused .inUse)), .start, .started,
    .fleet (.session second (.refused .notPermitted)), .join second, .join first, .allJoined,
    .finish]

/-- The first of three forwards goes on while the others are considered. -/
def repeatedLabels : List Label :=
  [.start, .fleet (.session oddForward.id .bound), .start, .start, .started]

theorem oddly_named_forwards_get_their_sessions :
    (∃ run report, Environment.resolve oddlyNamed "dev" = .ok oddForwards ∧
      Trail Goes (ofForwards {} true oddForwards) refusedLabels run ∧ run.stage = .over report ∧
        report.snapshot.names.Perm (oddForwards.map Forward.id)) ∧
    ∃ run session, Trail Goes (ofForwards {} true (oddForwards ++ [againElsewhere])) repeatedLabels
        run ∧ againElsewhere.id = oddForward.id ∧
      Staffed (ofForwards {} true (oddForwards ++ [againElsewhere]))
        (oddForwards ++ [againElsewhere]) repeatedLabels run ∧
      run.fleet.sessions.get? againElsewhere.id = some session ∧
        session.forward = oddForward ∧ session.stage = .announcing := by
  have resolved : Environment.resolve oddlyNamed "dev" = .ok oddForwards := by decide +kernel
  constructor
  · obtain ⟨run, report, followed, ended⟩ :
        ∃ run report, follow step (ofForwards {} true oddForwards) refusedLabels = some run ∧
          run.stage = .over report :=
      ⟨_, _, rfl, rfl⟩
    have trail := follow_eq_some_iff.1 followed
    have reports := (every_forward_gets_its_session.2 oddlyNamed "dev" oddForwards resolved).2
      {} true refusedLabels run trail
    exact ⟨run, report, resolved, trail, ended, (reports.2 report ended).1⟩
  · obtain ⟨run, session, followed, same, found, forward_eq, stage_eq⟩ :
        ∃ run session, follow step (ofForwards {} true (oddForwards ++ [againElsewhere]))
            repeatedLabels = some run ∧ againElsewhere.id = oddForward.id ∧
          run.fleet.sessions.get? againElsewhere.id = some session ∧
            session.forward = oddForward ∧ session.stage = .announcing :=
      ⟨_, _, rfl, rfl, rfl, rfl, rfl⟩
    have trail := follow_eq_some_iff.1 followed
    have staffed := every_forward_gets_its_session.1 {} true (oddForwards ++ [againElsewhere])
      repeatedLabels run trail
    exact ⟨run, session, trail, same, staffed, found, forward_eq, stage_eq⟩

end Run

end PortTunnel.Supervisor
