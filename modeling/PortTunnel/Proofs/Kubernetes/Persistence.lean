import PortTunnel.Kubeconfig.Access
import PortTunnel.Kubernetes.Lookup
import PortTunnel.Proofs.Except
import PortTunnel.Proofs.Supervisor.Histories
import PortTunnel.Proofs.Tunnel.Causes

/-!
# Forwards that outlast their cluster

Much can go wrong between a forward and its cluster: files may be missing or wrong, no
client may come about, the server may be away or refuse, what it describes may not lead
to a pod, and a channel may be lost.  All of it is told as the failure of a connection,
which is worth another attempt.  This holds for every library that makes clients, whatever
its errors are and whenever it has them.

So without a budget a session that hears of nothing else goes on for ever.  It closes only
because its listener is refused or because it was asked to stop, and apart from that a
forward is closed only by the run that abandons its session.
-/

namespace PortTunnel

open Tunnel Supervisor

namespace Kubernetes

/-! ## Replies in sequence -/

namespace Dialogue

variable {α β : Type}

/-- What a dialogue comes to with these replies, if they suffice. -/
def outcome? : Dialogue α → List Reply → Option α
  | done outcome, _ => some outcome
  | ask _ _, [] => none
  | ask _ next, reply :: replies => (next reply).outcome? replies

/-- A dialogue asks at most so many times, whatever the replies are. -/
def AsksAtMost : Nat → Dialogue α → Prop
  | _, done _ => True
  | 0, ask _ _ => False
  | most + 1, ask _ next => ∀ reply, (next reply).AsksAtMost most

theorem asksAtMost_done (most : Nat) (outcome : α) : (done outcome).AsksAtMost most := by
  cases most <;> trivial

theorem AsksAtMost.mono {dialogue : Dialogue α} {most more : Nat}
    (limited : dialogue.AsksAtMost most) (le : most ≤ more) : dialogue.AsksAtMost more := by
  induction dialogue generalizing most more with
  | done outcome => exact asksAtMost_done more outcome
  | ask request next ih =>
      cases most with
      | zero => exact limited.elim
      | succ most =>
          cases more with
          | zero => cases le
          | succ more => exact fun reply => ih reply (limited reply) (Nat.le_of_succ_le_succ le)

theorem AsksAtMost.bind {first : Dialogue α} {continuation : α → Dialogue β} {most more : Nat}
    (limited : first.AsksAtMost most) (limitedThen : ∀ value, (continuation value).AsksAtMost more) :
    (first.bind continuation).AsksAtMost (most + more) := by
  induction first generalizing most with
  | done outcome => exact (limitedThen outcome).mono (Nat.le_add_left _ _)
  | ask request next ih =>
      cases most with
      | zero => exact limited.elim
      | succ most =>
          rw [Nat.succ_add]
          exact fun reply => ih reply (limited reply)

/-- So many replies suffice. -/
theorem AsksAtMost.isSome_outcome? {dialogue : Dialogue α} {most : Nat} {replies : List Reply}
    (limited : dialogue.AsksAtMost most) (enough : most ≤ replies.length) :
    (dialogue.outcome? replies).isSome = true := by
  induction dialogue generalizing most replies with
  | done outcome => rfl
  | ask request next ih =>
      cases most with
      | zero => exact limited.elim
      | succ most =>
          cases replies with
          | nil => cases enough
          | cons reply replies => exact ih reply (limited reply) (Nat.le_of_succ_le_succ enough)

end Dialogue

theorem Inquiry.asksAtMost_andThen {α β : Type} {first : Inquiry α} {continuation : α → Inquiry β}
    {most more : Nat} (limited : first.AsksAtMost most)
    (limitedThen : ∀ value, (continuation value).AsksAtMost more) :
    (first.andThen continuation).AsksAtMost (most + more) := by
  apply Dialogue.AsksAtMost.bind limited
  intro outcome
  cases outcome with
  | ok value => exact limitedThen value
  | error trouble => exact Dialogue.asksAtMost_done more _

theorem asksAtMost_inquire {α β : Type} (request : Request) (reader : Schema.Reader α)
    {continuation : α → Inquiry β} {more : Nat}
    (limitedThen : ∀ value, (continuation value).AsksAtMost more) :
    ((inquire request reader).andThen continuation).AsksAtMost (more + 1) := by
  have asks : (inquire request reader).AsksAtMost 1 :=
    fun reply => Dialogue.asksAtMost_done 0 (describe reader reply)
  rw [Nat.add_comm]
  exact Inquiry.asksAtMost_andThen asks limitedThen

theorem asksAtMost_readyPod (space : String) (labels : NameMap String) :
    (readyPod space labels).AsksAtMost 1 := by
  unfold readyPod
  split
  · exact Dialogue.asksAtMost_done 1 _
  · apply asksAtMost_inquire
    intro pods
    split <;> exact Dialogue.asksAtMost_done 0 _

/-- A place behind a pod that is still to be found takes one question. -/
theorem asksAtMost_readyPod_andThen {space : String} {labels : NameMap String}
    {continuation : Pod → Inquiry Place}
    (silent : ∀ pod, (continuation pod).AsksAtMost 0) :
    ((readyPod space labels).andThen continuation).AsksAtMost 1 :=
  Inquiry.asksAtMost_andThen (asksAtMost_readyPod space labels) silent

theorem asksAtMost_locate (destination : Destination) : (locate destination).AsksAtMost 2 := by
  have arrives (outcome : Except Trouble Place) :
      Dialogue.AsksAtMost 0 (.done outcome : Inquiry Place) := Dialogue.asksAtMost_done 0 outcome
  simp only [locate]
  cases destination.kind with
  | pod =>
      apply asksAtMost_inquire
      exact fun pod => Dialogue.asksAtMost_done 1 _
  | deployment | statefulSet =>
      apply asksAtMost_inquire
      exact fun workload => asksAtMost_readyPod_andThen fun pod => arrives _
  | service =>
      apply asksAtMost_inquire
      refine fun service => asksAtMost_readyPod_andThen fun pod => ?_
      cases portBehind service pod destination.port destination.container with
      | ok port => exact arrives _
      | error trouble => exact arrives _

/-- To open a channel the server is asked for a resource, for pods and for the channel. -/
theorem asksAtMost_openChannel (destination : Destination) :
    (openChannel destination).AsksAtMost 3 := by
  have agrees (place : Place) : Dialogue.AsksAtMost 1
      (.ask (channelRequest destination.space place) fun reply =>
        .done ((agreement reply).map fun _ => place)) :=
    fun reply => Dialogue.asksAtMost_done 0 ((agreement reply).map fun _ => place)
  exact Inquiry.asksAtMost_andThen (asksAtMost_locate destination) agrees

/-- Whether the stream is there takes no question. -/
theorem asksAtMost_openStream (hasStream : UInt16 → Bool) (destination : Destination) :
    (openStream hasStream destination).AsksAtMost 3 :=
  Inquiry.asksAtMost_andThen (asksAtMost_openChannel destination) fun _ =>
    Dialogue.asksAtMost_done 0 _

/-! ## Failures of a cluster -/

/-- What the request for a channel comes to with these replies of the server. -/
def channel? (hasStream : UInt16 → Bool) (destination : Destination) (replies : List Reply) :
    Option (Except Failure Place) :=
  ((openStream hasStream destination).outcome? replies).map
    (·.mapError (Trouble.failure destination))

/-- The connection failed, so that another attempt is worth it. -/
def Passing (failure : Failure) : Prop :=
  failure.kind = .connectFailed ∧ failure.isRetryable = true

theorem passing_of_kind_eq {failure : Failure} (kind_eq : failure.kind = .connectFailed) :
    Passing failure := by
  refine ⟨kind_eq, ?_⟩
  rw [Failure.isRetryable, kind_eq]
  rfl

section Connecting

variable {Description Settings Client : Type} {library : Library Description Settings Client}
  {path? : Option String} {context : String} {failure : Failure}

/-- Whatever is being done, an error becomes a failure that may pass. -/
theorem passing_of_mapError {α : Type} {result : Except String α} {occasion : Occasion}
    (failed : result.mapError occasion.failure = .error failure) : Passing failure := by
  obtain ⟨error, -, rfl⟩ := mapError_eq_error_iff.1 failed
  exact passing_of_kind_eq rfl

theorem passing_of_settings (failed : settings library path? context = .error failure) :
    Passing failure := by
  cases path? with
  | none => exact passing_of_mapError failed
  | some path =>
      rcases bind_eq_error_iff.1 failed with unread | ⟨description, -, unselected⟩
      · exact passing_of_mapError unread
      · exact passing_of_mapError unselected

theorem passing_of_connect (failed : connect library path? context = .error failure) :
    Passing failure := by
  rcases bind_eq_error_iff.1 failed with unsettled | ⟨settings, -, refused⟩
  · exact passing_of_settings unsettled
  · exact passing_of_mapError refused

end Connecting

theorem passing_of_channel? {hasStream : UInt16 → Bool} {destination : Destination}
    {replies : List Reply} {failure : Failure}
    (failed : channel? hasStream destination replies = some (.error failure)) :
    Passing failure := by
  obtain ⟨outcome, -, outcome_eq⟩ := Option.map_eq_some_iff.1 failed
  obtain ⟨trouble, -, rfl⟩ := mapError_eq_error_iff.1 outcome_eq
  exact passing_of_kind_eq rfl

/-- The failures that the requests of a forward may come to, with any library and any server:
no client for the context, or no channel to the destination. -/
inductive Returns (forward : Forward) : Failure → Prop
  | unconnected {Description Settings Client : Type}
      {library : Library Description Settings Client} {path? : Option String} {failure : Failure}
      (failed : connect library path? forward.context = .error failure) : Returns forward failure
  | unopened {hasStream : UInt16 → Bool} {replies : List Reply} {failure : Failure}
      (failed : channel? hasStream forward.destination replies = some (.error failure)) :
      Returns forward failure

theorem Returns.passing {forward : Forward} {failure : Failure}
    (returns : Returns forward failure) : Passing failure := by
  cases returns with
  | unconnected failed => exact passing_of_connect failed
  | unopened failed => exact passing_of_channel? failed

end Kubernetes

open Kubernetes

/-! ## Sessions -/

namespace Tunnel

variable {forward : Forward} {policy : Retry.Policy} {asked : Bool}
  {history : List Session.Entry} {session next : Session} {label : Session.Label}
  {cause : Option Failure}

theorem failsRetryably_of_kind_eq
    (connects : ∀ entry ∈ history, ∀ failure, entry.1.failure? = some failure →
      failure.kind = .connectFailed) :
    ∀ entry ∈ history, entry.1.failsRetryably = true := by
  intro entry member
  rw [Session.Label.failsRetryably_iff]
  exact fun failure told => (passing_of_kind_eq (connects entry member failure told)).2

/-- A session that hears only of connections that failed reports that it closed only because its
listener was refused or because it was asked to stop. -/
theorem bindFailed_or_asked_of_closing
    (trail : Trail Session.Goes (Session.fresh forward policy asked) history session)
    (unbounded : policy.maxRetries = none)
    (connects : ∀ entry ∈ history, ∀ failure, entry.1.failure? = some failure →
      failure.kind = .connectFailed)
    (closes : session.step label = some (next, some (.state .closed cause))) :
    (∃ failure, cause = some failure ∧ failure.kind = .bindFailed) ∨
      session.stopRequested = true := by
  cases Session.step_eq_some_iff.1 closes with
  | refused => exact .inl ⟨_, rfl, rfl⟩
  | close stage_eq =>
      right
      cases cause with
      | none => exact endsAsked_of_trail trail (.inr stage_eq)
      | some failure =>
          exfalso
          rcases bound_or_refused_of_trail trail with bound | ⟨closed, -⟩
          · have mild := failsRetryably_of_kind_eq connects
            exact (persists_of_trail trail unbounded bound mild).1 failure stage_eq
          · cases stage_eq.symm.trans closed

end Tunnel

/-! ## Runs -/

namespace Supervisor.Run

/-- The failures that the links of a run tell are such as the requests of its forwards may come
to. -/
def OverKubernetes (forwards : List Forward) (labels : List Label) : Prop :=
  ∀ name label failure, .fleet (.link name label) ∈ labels → label.failure? = some failure →
    ∃ forward ∈ forwards, forward.id = label.id.1 ∧ Returns forward failure

section Trails

variable {terms : Terms} {sharing : Bool} {forwards : List Forward} {labels : List Label}
  {run : Run} {id : String}

/-- A forward is shown as closed because its listener was refused, because its session was asked
to stop, or because the run has abandoned the session. -/
theorem bindFailed_or_asked_of_showsClosed
    (trail : Trail Goes (ofForwards terms sharing forwards) labels run)
    (unbounded : terms.retry.maxRetries = none) (connects : Connects labels)
    (closed : run.fleet.ShowsClosed id) :
    (∃ entry failure, run.fleet.board.entries.get? id = some entry ∧
        entry.lastFailure = some failure ∧ failure.kind = .bindFailed) ∨
      (∃ session, run.fleet.sessions.get? id = some session ∧ session.stopRequested = true) ∨
        id ∈ run.stage.timeouts := by
  obtain ⟨entry, entered, -⟩ := Option.map_eq_some_iff.1 closed
  obtain ⟨session, found⟩ := ((orderly_of_trail trail).sound.entered id).2 (by rw [entered]; rfl)
  obtain ⟨asked, history, recorded⟩ := records_of_trail trail id session found
  obtain rfl := recorded.id_eq
  have unbounded' : run.terms.retry.maxRetries = none := by
    rw [terms_eq_of_trail trail]
    exact unbounded
  rcases recorded.shown.state_eq_closed closed with notUnclosed | named
  · rcases bound_or_refused_of_trail recorded.trail with bound | ⟨-, refusal, refused⟩
    · have reportedClosed : session.stage = .closed := by
        rcases unclosed_or_closing_last recorded.trail with unclosed | ⟨before, failure, eq, -⟩
        · exact (notUnclosed unclosed).elim
        · have reported : .state .closed failure ∈ Session.reports history := by
            rw [eq]
            exact List.mem_append_right _ (List.mem_singleton_self _)
          exact closed_of_reported recorded.trail reported
      have mild := failsRetryably_of_kind_eq (connects.kind_eq_of_recorded recorded)
      exact .inr (.inl ⟨session, found,
        (persists_of_trail recorded.trail unbounded' bound mild).2 reportedClosed⟩)
    · cases recorded.shown with
      | abandoned _ _ named => exact .inr (.inr named)
      | own shown =>
          rw [refused.reports_eq] at shown
          exact .inl ⟨_, _, shown, rfl, rfl⟩
  · exact .inr (.inr named)

end Trails

/-- What may happen between forwards and their clusters. -/
structure Outlasts : Prop where
  /-- Whatever a library does with the files and the context, connecting fails in a way that may
  pass. -/
  connecting : ∀ {Description Settings Client : Type}
    (library : Library Description Settings Client) path? context failure,
      connect library path? context = .error failure → Passing failure
  /-- Whatever the server replies, so does opening a channel. -/
  opening : ∀ hasStream destination replies failure,
    channel? hasStream destination replies = some (.error failure) → Passing failure
  /-- It comes to an end after three replies at most. -/
  answered : ∀ hasStream destination replies, 3 ≤ replies.length →
    (channel? hasStream destination replies).isSome = true
  /-- The loss of an open channel may pass as well, in whatever state the pair is that uses it. -/
  losing : ∀ destination nextCall isCancelled stage label failure,
    Pair.step destination nextCall isCancelled stage label =
      some (.ends (.remoteFailed failure)) → Passing failure
  /-- So the links of a run tell of nothing but connections that failed. -/
  telling : ∀ forwards labels, OverKubernetes forwards labels → Connects labels
  /-- A session without a budget that hears of nothing else reports that it closed only because
  its listener was refused or after it was asked to stop. -/
  session : ∀ forward policy asked history session,
    Trail Session.Goes (Session.fresh forward policy asked) history session →
      policy.maxRetries = none →
        (∀ entry ∈ history, ∀ failure, entry.1.failure? = some failure →
          failure.kind = .connectFailed) →
          ∀ label next cause, session.step label = some (next, some (.state .closed cause)) →
            (∃ failure, cause = some failure ∧ failure.kind = .bindFailed) ∨
              asked = true ∨ .stop ∈ history.map (·.1)
  /-- The same holds of every session of a run, -/
  closing : ∀ terms sharing forwards labels run,
    Trail Goes (ofForwards terms sharing forwards) labels run → terms.retry.maxRetries = none →
      Connects labels → ∀ id session label next cause,
        run.fleet.sessions.get? id = some session →
          session.step label = some (next, some (.state .closed cause)) →
            (∃ failure, cause = some failure ∧ failure.kind = .bindFailed) ∨
              session.stopRequested = true
  /-- and no forward is shown as closed for another reason, unless the run has abandoned its
  session. -/
  shown : ∀ terms sharing forwards labels run,
    Trail Goes (ofForwards terms sharing forwards) labels run → terms.retry.maxRetries = none →
      Connects labels → ∀ id, run.fleet.ShowsClosed id →
        (∃ entry failure, run.fleet.board.entries.get? id = some entry ∧
            entry.lastFailure = some failure ∧ failure.kind = .bindFailed) ∨
          (∃ session, run.fleet.sessions.get? id = some session ∧
            session.stopRequested = true) ∨
            id ∈ run.stage.timeouts

/-- No trouble with a cluster ends a forward that has no retry budget. -/
theorem remote_trouble_ends_no_forward : Outlasts := by
  constructor
  case connecting => exact fun library path? context failure failed => passing_of_connect failed
  case opening =>
    exact fun hasStream destination replies failure failed => passing_of_channel? failed
  case answered =>
    intro hasStream destination replies enough
    rw [channel?, Option.isSome_map]
    exact (asksAtMost_openStream hasStream destination).isSome_outcome? enough
  case losing =>
    intro destination nextCall isCancelled stage label failure lost
    obtain ⟨reason, -, rfl⟩ := Pair.eq_readFailed_of_step lost
    exact passing_of_kind_eq rfl
  case telling =>
    intro forwards labels hosted name label failure happened failure_eq
    obtain ⟨forward, -, -, returns⟩ := hosted name label failure happened failure_eq
    exact returns.passing.1
  case session =>
    intro forward policy asked history session trail unbounded connects label next cause closes
    rw [← stopRequested_iff_of_trail trail]
    exact bindFailed_or_asked_of_closing trail unbounded connects closes
  case closing =>
    intro terms sharing forwards labels run trail unbounded connects id session label next cause
      found closes
    obtain ⟨asked, history, recorded⟩ := records_of_trail trail id session found
    have told := connects.kind_eq_of_recorded recorded
    apply bindFailed_or_asked_of_closing recorded.trail _ told closes
    rw [terms_eq_of_trail trail]
    exact unbounded
  case shown =>
    exact fun terms sharing forwards labels run trail unbounded connects id closed =>
      bindFailed_or_asked_of_showsClosed trail unbounded connects closed

/-- What is said of a user who is to be identified by a command that is missing. -/
def missingHelper : String :=
  "auth error: unable to run auth exec: No such file or directory (os error 2)"

/-- A library that finds settings for every context, whose users are identified so. -/
def helperless : Library Unit Unit Unit where
  readFile _ := .ok ()
  select _ _ := .ok ()
  selectSurrounding _ := .ok ()
  client _ := .error missingHelper

/-- What connecting to a cluster comes to if the file that describes it is missing. -/
def missingFile : Failure :=
  (Occasion.reading "config").failure (Kubeconfig.Defect.text (.unreadable "config" .absent))

/-- What it comes to if the file has been added and the command of its user is missing. -/
def missingCommand : Failure :=
  (Occasion.connecting "dev").failure missingHelper

/-- The file that describes the cluster is missing at the first attempt and the command of its
user at the second, and the run is shut down while the session waits for its third. -/
def missingHelpersLabels : List Label :=
  let id := Session.sampleForward.id
  [.start, .started, .fleet (.session id .bound), .fleet (.session id .announce),
    .fleet (.session id .call), .fleet (.link "dev" (.establish (id, 0))),
    .fleet (.link "dev" (.notEstablished (id, 0) missingFile)),
    .fleet (.session id .degrade), .fleet (.session id (.schedule [])),
    .fleet (.session id .wake), .fleet (.session id .announce), .fleet (.session id .call),
    .fleet (.link "dev" (.establish (id, 1))),
    .fleet (.link "dev" (.notEstablished (id, 1) missingCommand)),
    .fleet (.session id .degrade), .fleet (.session id (.schedule [])), .requestShutdown, .heed,
    .fleet (.session id .heed)]

theorem overKubernetes_missingHelpersLabels :
    OverKubernetes [Session.sampleForward] missingHelpersLabels := by
  intro name label failure happened failure_eq
  have unread : connect (Kubeconfig.library (fun _ => .absent) (.named "config")) (some "config")
      Session.sampleForward.context = .error missingFile := rfl
  have unidentified : connect helperless (some "config") Session.sampleForward.context =
      .error missingCommand := rfl
  simp only [missingHelpersLabels, List.mem_cons, reduceCtorEq, Label.fleet.injEq,
    Fleet.Label.link.injEq, List.not_mem_nil, false_or, or_false] at happened
  rcases happened with ⟨-, rfl⟩ | ⟨-, rfl⟩ | ⟨-, rfl⟩ | ⟨-, rfl⟩ <;> cases failure_eq
  · exact ⟨_, List.mem_singleton_self _, rfl, .unconnected unread⟩
  · exact ⟨_, List.mem_singleton_self _, rfl, .unconnected unidentified⟩

/-- Both troubles pass, and the session closes without an error because it was asked to stop. -/
theorem missing_file_and_command_end_no_forward :
    ∃ run session next,
      Trail Goes (ofForwards {} true [Session.sampleForward]) missingHelpersLabels run ∧
        OverKubernetes [Session.sampleForward] missingHelpersLabels ∧
          run.fleet.sessions.get? Session.sampleForward.id = some session ∧
            session.step .close = some (next, some (.state .closed none)) ∧
              session.stopRequested = true := by
  obtain ⟨run, session, next, followed, found, closes⟩ :
      ∃ run session next,
        follow step (ofForwards {} true [Session.sampleForward]) missingHelpersLabels = some run ∧
          run.fleet.sessions.get? Session.sampleForward.id = some session ∧
            session.step .close = some (next, some (.state .closed none)) :=
    ⟨_, _, _, rfl, rfl, rfl⟩
  have trail := follow_eq_some_iff.1 followed
  have hosted := overKubernetes_missingHelpersLabels
  have connects := remote_trouble_ends_no_forward.telling _ _ hosted
  have asked := remote_trouble_ends_no_forward.closing {} true _ _ run trail rfl connects _ session
    .close next none found closes
  exact ⟨run, session, next, trail, hosted, found, closes, asked.resolve_left nofun⟩

end Supervisor.Run

end PortTunnel
