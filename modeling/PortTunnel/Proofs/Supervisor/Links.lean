import PortTunnel.Proofs.Cluster.Sharing
import PortTunnel.Proofs.Supervisor.Starts

/-!
# The links of a run

The sessions of a run reach their clusters by links.  Seen from one of its links, a run is
a sequence of requests that come, are answered and are dropped; so all that holds of links
in general holds of it.  If forwards share links, a link is named by its context, and only
the contexts of forwards ever have one.
-/

namespace PortTunnel.Supervisor

open Tunnel Cluster

/-! ## Links and the steps of a fleet -/

namespace Fleet

variable {fleet next : Fleet}

theorem link_setLink (fleet : Fleet) (name other : String) (link : Link CallId) :
    (fleet.setLink name link).link other = if other = name then link else fleet.link other := by
  unfold Fleet.link setLink
  rw [NameMap.get?_insert]
  split <;> rfl

@[simp]
theorem report_link (fleet : Fleet) (id name : String) (report : Option Report) :
    (fleet.report id report).link name = fleet.link name := by
  rcases report with - | ⟨state, failure⟩ | ⟨attempt, delay⟩ <;> rfl

/-- A session that goes on changes its own link only. -/
theorem link_advance (fleet : Fleet) (id name : String) (session after : Session)
    (report : Option Report) :
    (fleet.advance id session after report).link name =
      if name = fleet.linkName session.forward then
        requested id session after (fleet.link name)
      else fleet.link name := by
  rw [advance, report_link, link_setLink]
  by_cases same : name = fleet.linkName session.forward
  · rw [if_pos same, if_pos same, same]
  · rw [if_neg same, if_neg same]
    rfl

/-- What sessions do to a link are steps of it, and none of them establishes it. -/
theorem reaches_onLink {label : Link.Label CallId} (other : label.isEstablished = false)
    (link : Link CallId) : link.Reaches 0 (onLink label link) := by
  unfold onLink
  split
  · rename_i next answer step
    have reaches := Link.Reaches.single step
    rwa [other] at reaches
  · exact .here link

theorem reaches_foldl_onLink (label : Nat → Link.Label CallId)
    (others : ∀ call, (label call).isEstablished = false) (calls : List Nat) (link : Link CallId) :
    link.Reaches 0 (calls.foldl (fun link call => onLink (label call) link) link) := by
  induction calls generalizing link with
  | nil => exact .here link
  | cons call calls ih => exact (reaches_onLink (others call) link).trans (ih _)

theorem reaches_requested (id : String) (before after : Session) (link : Link CallId) :
    link.Reaches 0 (requested id before after link) := by
  have dropped := reaches_foldl_onLink (fun call => .drop (id, call)) fun _ => rfl
  have made := reaches_foldl_onLink (fun call => .request (id, call)) fun _ => rfl
  exact (dropped _ link).trans (made _ _)

theorem reaches_advance (fleet : Fleet) (id name : String) (session after : Session)
    (report : Option Report) :
    (fleet.link name).Reaches 0 ((fleet.advance id session after report).link name) := by
  rw [link_advance]
  split
  · exact reaches_requested id session after _
  · exact .here _

/-- The name of the link that a label establishes. -/
def Label.created? : Label → Option String
  | .link name (.established _ _) => some name
  | _ => none

/-- Each link goes on in a step of the fleet, and is established if the label says so. -/
theorem Moves.reaches {label : Label} (moves : Moves fleet label next) (name : String) :
    (fleet.link name).Reaches (label.created?.toList.count name) (next.link name) := by
  cases moves with
  | @link mover label link own step =>
      have reaches := Link.Reaches.single step
      rw [link_setLink]
      by_cases same : name = mover
      · subst same
        rw [if_pos rfl]
        cases label with
        | established => simpa [Label.created?, Link.Label.isEstablished] using reaches
        | _ => exact reaches
      · rw [if_neg same]
        cases label with
        | established => simpa [Label.created?, Ne.symm same] using Link.Reaches.here _
        | _ => exact .here _
  | @answer mover label link answer session after told report own step =>
      -- A request that establishes the link has no answer yet.
      have other : label.isEstablished = false := by
        cases Link.step_eq_some_iff.1 step <;> rfl
      have uncreated : Label.created? (.link mover label) = none := by
        cases label with
        | established => cases other
        | _ => rfl
      have passed : (fleet.link name).Reaches 0 ((fleet.setLink mover link).link name) := by
        rw [link_setLink]
        split
        · rename_i same
          subst same
          have reaches := Link.Reaches.single step
          rwa [other] at reaches
        · exact .here _
      rw [uncreated]
      exact passed.trans (reaches_advance _ _ _ _ _ _)
  | session => exact reaches_advance _ _ _ _ _ _

/-- Only a session begins to use a link. -/
theorem Moves.link_used {label : Label} (moves : Moves fleet label next) {name : String}
    (used : next.link name ≠ {}) :
    fleet.link name ≠ {} ∨
      ∃ id session, fleet.sessions.get? id = some session ∧
        fleet.linkName session.forward = name := by
  -- A link that nobody uses has no request to go on.
  have known {name : String} {label : Link.Label CallId} {link : Link CallId}
      {answer : Option (Except Failure Unit)} (own : label.isFromSession = false)
      (step : (fleet.link name).step label = some (link, answer)) : fleet.link name ≠ {} := by
    intro unused
    rw [unused] at step
    rcases (Link.step_eq_some_iff.1 step).known with label_eq | ⟨stage, known⟩
    · rw [label_eq] at own
      cases own
    · cases known
  have advanced {fleet : Fleet} {id : String} {session after : Session} {report : Option Report}
      (used : (fleet.advance id session after report).link name ≠ {}) :
      fleet.link name ≠ {} ∨ fleet.linkName session.forward = name := by
    rw [link_advance] at used
    split at used
    · rename_i same
      exact .inr same.symm
    · exact .inl used
  have passed {mover : String} {link : Link CallId} (own : fleet.link mover ≠ {})
      (used : (fleet.setLink mover link).link name ≠ {}) : fleet.link name ≠ {} := by
    rw [link_setLink] at used
    split at used
    · rename_i same
      exact same ▸ own
    · exact used
  cases moves with
  | link own step => exact .inl (passed (known own step) used)
  | answer own step found =>
      rcases advanced used with before | same
      · exact .inl (passed (known own step) before)
      · exact .inr ⟨_, _, found, same⟩
  | session unanswered found =>
      rcases advanced used with before | same
      · exact .inl before
      · exact .inr ⟨_, _, found, same⟩

theorem sharing_report (fleet : Fleet) (id : String) (report : Option Report) :
    (fleet.report id report).sharing = fleet.sharing := by
  rcases report with - | ⟨state, failure⟩ | ⟨attempt, delay⟩ <;> rfl

theorem Moves.sharing_eq {label : Label} (moves : Moves fleet label next) :
    next.sharing = fleet.sharing := by
  cases moves with
  | link => rfl
  | answer | session => exact sharing_report _ _ _

end Fleet

/-! ## Links along a run -/

namespace Run

/-- The context whose link a label establishes. -/
def Label.created? : Label → Option String
  | .fleet label => label.created?
  | _ => none

/-- The contexts whose links were established, in order. -/
def creations (labels : List Label) : List String :=
  labels.filterMap Label.created?

variable {forwards : List Forward} {run next : Run} {label : Label} {labels : List Label}

theorem count_creations_concat (labels : List Label) (label : Label) (name : String) :
    (creations (labels ++ [label])).count name =
      (creations labels).count name + label.created?.toList.count name := by
  cases created : label.created? <;> simp [creations, created]

/-- What is known of the links of a run whose forwards share them. -/
structure Linked (forwards : List Forward) (labels : List Label) (run : Run) : Prop where
  sharing : run.fleet.sharing = true
  /-- Each link has a history of its own, in which it was established as often as in the run. -/
  reached : ∀ name, ({} : Link CallId).Reaches ((creations labels).count name) (run.fleet.link name)
  /-- Only contexts of forwards have links that are used. -/
  used : ∀ name, run.fleet.link name ≠ {} → ∃ forward ∈ forwards, forward.context = name

/-- Moves that are not of the fleet leave all links alone. -/
theorem Linked.keep (linked : Linked forwards labels run)
    (uncreated : label.created? = none) (sharing_eq : next.fleet.sharing = run.fleet.sharing)
    (link_eq : ∀ name, next.fleet.link name = run.fleet.link name) :
    Linked forwards (labels ++ [label]) next := by
  constructor
  · rw [sharing_eq]
    exact linked.sharing
  · intro name
    rw [count_creations_concat, uncreated, link_eq]
    exact linked.reached name
  · intro name used
    rw [link_eq] at used
    exact linked.used name used

theorem Linked.move (linked : Linked forwards labels run)
    (serves : run.fleet.ServesFirst forwards) (moves : Moves run label next) :
    Linked forwards (labels ++ [label]) next := by
  cases moves with
  | fleet permitted moves =>
      constructor
      · exact moves.sharing_eq.trans linked.sharing
      · intro name
        rw [count_creations_concat]
        exact (linked.reached name).trans (moves.reaches name)
      · intro name used
        rcases moves.link_used used with before | ⟨id, session, found, named⟩
        · exact linked.used name before
        · have member := List.mem_of_find?_eq_some (serves id session found)
          rw [Fleet.linkName, linked.sharing, if_pos rfl] at named
          exact ⟨session.forward, member, named⟩
  | forceClosed =>
      exact linked.keep rfl (Fleet.sharing_report _ _ _) fun name => Fleet.report_link _ _ _ _
  | _ => exact linked.keep rfl rfl fun name => rfl

theorem linked_of_trail {terms : Terms}
    (trail : Trail Goes (ofForwards terms true forwards) labels run) :
    Linked forwards labels run := by
  induction trail with
  | here =>
      constructor
      · rfl
      · exact fun name => .here _
      · exact fun name used => (used rfl).elim
  | onward trail step ih => exact ih.move (servesFirst_of_trail trail) (step_eq_some_iff.1 step)

/-- Requests for channels that share a link establish it at most once, all use it, take turns if
the cluster asks for it, and leave no trace when they fail or are dropped.  In a run whose
forwards share links this holds of each link, and no context has its link established
twice. -/
theorem contexts_share_links :
    (∀ {Id : Type} [DecidableEq Id] (history : List (Link.Entry Id)) (link : Link Id),
      Trail Link.Goes {} history link → Link.Shared history link) ∧
    ∀ terms forwards labels run, Trail Goes (ofForwards terms true forwards) labels run →
      (∀ name, ∃ history, Trail Link.Goes {} history (run.fleet.link name) ∧
        Link.establishments history = (creations labels).count name ∧
          Link.Shared history (run.fleet.link name)) ∧
      (creations labels).Nodup ∧
        ∀ context ∈ creations labels, ∃ forward ∈ forwards, forward.context = context := by
  constructor
  · exact fun history link trail => Link.shared_of_trail trail
  intro terms forwards labels run trail
  have linked := linked_of_trail trail
  refine ⟨fun name => ?_, ?_, ?_⟩
  · rcases linked.reached name with ⟨history, itsTrail, times⟩
    exact ⟨history, itsTrail, times, Link.shared_of_trail itsTrail⟩
  · rw [List.nodup_iff_count_le_one]
    intro name
    rcases linked.reached name with ⟨history, itsTrail, times⟩
    rw [← times]
    exact (Link.shared_of_trail itsTrail).once
  · intro context member
    apply linked.used context
    intro unused
    rcases linked.reached context with ⟨history, itsTrail, times⟩
    rw [Link.establishments_eq itsTrail, unused] at times
    exact Nat.ne_of_lt (List.count_pos_iff.2 member) times

/-- The cluster answers one request at a time.  The first request fails to establish the link;
the third is dropped during its turn. -/
def contendedHistory : List (Link.Entry Nat) :=
  [(.request 1, none), (.request 2, none), (.establish 1, none),
    (.notEstablished 1 (.connectFailed "refused"), some (.error (.connectFailed "refused"))),
    (.establish 2, none), (.established 2 true, none), (.request 3, none), (.proceed 3, none),
    (.call 3, none), (.drop 3, none), (.call 2, none), (.answered 2 (.ok ()), some (.ok ()))]

/-- Two sessions of one context call.  The first fails to establish their link, the second
establishes it. -/
def contendingLabels : List Label :=
  let first := oddForward.id
  let second := oddSibling.id
  [.start, .start, .started, .fleet (.session first .bound), .fleet (.session second .bound),
    .fleet (.session first .announce), .fleet (.session second .announce),
    .fleet (.session first .call), .fleet (.session second .call),
    .fleet (.link "x/y" (.establish (first, 0))),
    .fleet (.link "x/y" (.notEstablished (first, 0) (.connectFailed "refused"))),
    .fleet (.link "x/y" (.establish (second, 0))),
    .fleet (.link "x/y" (.established (second, 0) true)),
    .fleet (.link "x/y" (.call (second, 0))),
    .fleet (.link "x/y" (.answered (second, 0) (.ok ())))]

theorem contending_requests_share_links :
    (∃ link, Trail Link.Goes {} contendedHistory link ∧ Link.establishments contendedHistory = 1 ∧
      Link.Shared contendedHistory link) ∧
    ∃ run, Trail Goes (ofForwards {} true oddForwards) contendingLabels run ∧
      creations contendingLabels = ["x/y"] ∧ (creations contendingLabels).Nodup ∧
        ∃ history, Trail Link.Goes {} history (run.fleet.link "x/y") ∧
          Link.establishments history = 1 ∧ Link.Shared history (run.fleet.link "x/y") := by
  constructor
  · have goes {link next : Link Nat} {label answer} (moves : Link.Moves link label next answer) :=
      moves.goes
    obtain ⟨link, trail⟩ : ∃ link, Trail Link.Goes {} contendedHistory link :=
      ⟨_, .cons (goes (.request rfl)) <| .cons (goes (.request rfl)) <|
        .cons (goes (.establish rfl rfl rfl)) <| .cons (goes (.notEstablished rfl)) <|
        .cons (goes (.establish rfl rfl rfl)) <| .cons (goes (.established rfl)) <|
        .cons (goes (.request rfl)) <| .cons (goes (.proceed rfl rfl)) <|
        .cons (goes (.call rfl rfl fun _ => rfl)) <| .cons (goes (.drop rfl)) <|
        .cons (goes (.call rfl rfl fun _ => rfl)) <| .cons (goes (.answered rfl)) .here⟩
    exact ⟨link, trail, rfl, contexts_share_links.1 contendedHistory link trail⟩
  · obtain ⟨run, followed⟩ :
        ∃ run, follow step (ofForwards {} true oddForwards) contendingLabels = some run :=
      ⟨_, rfl⟩
    have trail := follow_eq_some_iff.1 followed
    have shares := contexts_share_links.2 {} oddForwards contendingLabels run trail
    have created : creations contendingLabels = ["x/y"] := rfl
    rcases shares.1 "x/y" with ⟨history, itsTrail, times, shared⟩
    rw [created, List.count_singleton_self] at times
    exact ⟨run, trail, created, shares.2.1, history, itsTrail, times, shared⟩

end Run

end PortTunnel.Supervisor
