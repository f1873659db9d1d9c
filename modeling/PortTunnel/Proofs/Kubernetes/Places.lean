import PortTunnel.Kubernetes.Lookup
import PortTunnel.Proofs.NameMap

/-!
# Places that destinations lead to

Where a destination leads is described by what a server tells of its objects: which pod
is the first one that is ready, which entry of a service is the first one for a port,
which port of a container is the first one of a name.  The main result says that a
lookup comes to a place exactly when all that it depends on is told, and to no other
place than the one that this description leads to.
-/

namespace PortTunnel.Kubernetes

open Schema (Reader)

/-! ## What is described -/

/-- The first item of a list that has a property. -/
def IsFirst {α : Type} (property : α → Prop) (items : List α) (item : α) : Prop :=
  ∃ before behind, items = before ++ item :: behind ∧ property item ∧
    ∀ other ∈ before, ¬ property other

/-- The server describes a value in reply to a request. -/
def Describes {α : Type} (server : Request → Reply) (request : Request) (reader : Reader α)
    (value : α) : Prop :=
  describe reader (server request) = .ok value

/-- A pod that is not being deleted and says that it is ready. -/
structure Pod.Ready (pod : Pod) : Prop where
  stays : pod.deleting = false
  announced : ∃ condition ∈ pod.conditions, condition.kind = "Ready" ∧ condition.status = "True"

/-- The pod has the container that is asked for, if one is. -/
def Pod.Offers (pod : Pod) (container : Option String) : Prop :=
  ∀ name ∈ container, ∃ offered ∈ pod.containers, offered.name = name

/-- The ports of the container that is asked for, or of all containers, in their order. -/
def Pod.portsOf (pod : Pod) (container : Option String) : List ContainerPort :=
  (pod.containers.filter fun offered => ∀ name ∈ container, offered.name = name).flatMap (·.ports)

/-- The number of the port of a pod that an entry of a service leads to. -/
inductive ServicePort.LeadsTo (pod : Pod) (container : Option String) (entry : ServicePort) :
    Int → Prop
  | same (untargeted : entry.target = none) : LeadsTo pod container entry entry.number
  | numbered {number : Int} (targeted : entry.target = some (.number number)) :
      LeadsTo pod container entry number
  | named {name : String} {port : ContainerPort} (targeted : entry.target = some (.named name))
      (first : IsFirst (fun other => other.name = some name) (pod.portsOf container) port) :
      LeadsTo pod container entry port.number

/-- The port of a pod that a port of a service leads to, through its first entry. -/
def Service.LeadsTo (service : Service) (pod : Pod) (container : Option String)
    (port number : UInt16) : Prop :=
  ∃ entries entry, service.ports = some entries ∧
    IsFirst (fun other => other.number = (port.toNat : Int)) entries entry ∧
      entry.LeadsTo pod container number.toNat

/-- Behind labels, of which there must be some, stands the first ready pod among those that
the server tells of when it is asked for the running pods that have them. -/
def StandsBehind (server : Request → Reply) (space : String) (labels : NameMap String)
    (pod : Pod) : Prop :=
  labels ≠ .empty ∧ ∃ pods,
    Describes server
      { path := podsPath space
        query := [("labelSelector", labelQuery labels), ("fieldSelector", "status.phase=Running")] }
      podListRecord.reader pods ∧
        IsFirst Pod.Ready pods pod

/-- The kind of an object that manages pods, as a server calls it. -/
def managerKind? : ResourceKind → Option String
  | .deployment => some "Deployment"
  | .statefulSet => some "StatefulSet"
  | .pod | .service => none

/-- The pod that a destination leads to, and the port of it. -/
inductive LeadsTo (server : Request → Reply) (destination : Destination) : Pod → UInt16 → Prop
  | named {pod : Pod} (kind_eq : destination.kind = .pod)
      (described : Describes server { path := resourcePath destination } (objectReader Pod.record)
        pod) :
      LeadsTo server destination pod destination.port
  | managed {kind : String} {workload : Workload} {pod : Pod}
      (kind_eq : managerKind? destination.kind = some kind)
      (described : Describes server { path := resourcePath destination }
        (objectReader (Workload.record kind)) workload)
      (stands : StandsBehind server destination.space workload.selector.labels pod) :
      LeadsTo server destination pod destination.port
  | served {service : Service} {pod : Pod} {port : UInt16} (kind_eq : destination.kind = .service)
      (described : Describes server { path := resourcePath destination }
        (objectReader Service.record) service)
      (stands : StandsBehind server destination.space service.labels pod)
      (leads : service.LeadsTo pod destination.container destination.port port) :
      LeadsTo server destination pod port

/-! ## Dialogues that come to something -/

section Inquiries

variable {α β : Type} {server : Request → Reply}

theorem Inquiry.run_andThen (first : Inquiry α) (continuation : α → Inquiry β) :
    ((first.andThen continuation).run server).2 =
      match (first.run server).2 with
      | .ok value => ((continuation value).run server).2
      | .error trouble => .error trouble := by
  rw [Inquiry.andThen, Dialogue.run_bind]
  cases (first.run server).2 <;> rfl

/-- A dialogue that goes on comes to a value if its parts do. -/
theorem Inquiry.run_andThen_eq_ok_iff {first : Inquiry α} {continuation : α → Inquiry β}
    {value : β} :
    ((first.andThen continuation).run server).2 = .ok value ↔
      ∃ middle, (first.run server).2 = .ok middle ∧
        ((continuation middle).run server).2 = .ok value := by
  rw [Inquiry.run_andThen]
  cases (first.run server).2 <;> simp

theorem run_inquire_eq_ok_iff {request : Request} {reader : Reader α} {value : α} :
    ((inquire request reader).run server).2 = .ok value ↔
      Describes server request reader value :=
  Iff.rfl

end Inquiries

/-! ## Searches -/

theorem find?_eq_some_iff_isFirst {α : Type} {test : α → Bool} {property : α → Prop}
    (tests : ∀ item, test item = true ↔ property item) {items : List α} {item : α} :
    items.find? test = some item ↔ IsFirst property items item := by
  rw [List.find?_eq_some_iff_append, IsFirst]
  constructor
  · rintro ⟨found, before, behind, parts, earlier⟩
    refine ⟨before, behind, parts, (tests item).1 found, fun other member holds => ?_⟩
    have earlierOther := earlier other member
    simp [(tests other).2 holds] at earlierOther
  · rintro ⟨before, behind, parts, holds, earlier⟩
    refine ⟨(tests item).2 holds, before, behind, parts, fun other member => ?_⟩
    simpa using mt (tests other).1 (earlier other member)

theorem Pod.isReady_iff (pod : Pod) : pod.isReady = true ↔ pod.Ready := by
  constructor
  · intro ready
    simp only [isReady, Bool.and_eq_true, Bool.not_eq_true', List.any_eq_true, beq_iff_eq] at ready
    exact ⟨ready.1, ready.2⟩
  · rintro ⟨stays, announced⟩
    simpa [isReady, stays] using announced

theorem Pod.hasContainer_iff (pod : Pod) (name : String) :
    pod.hasContainer name = true ↔ pod.Offers (some name) := by
  simp [hasContainer, Offers]

theorem placeIn_eq_ok_iff {container : Option String} {pod : Pod} {port : UInt16} {place : Place} :
    placeIn container pod port = .ok place ↔ pod.Offers container ∧ place = ⟨pod.name, port⟩ := by
  cases container with
  | none => simp [placeIn, Pod.Offers, eq_comm]
  | some name =>
      by_cases offers : pod.hasContainer name = true
      · simp [placeIn, offers, (pod.hasContainer_iff name).1 offers, eq_comm]
      · simp [placeIn, offers, mt (pod.hasContainer_iff name).2 offers]

theorem run_readyPod_eq_ok_iff {server : Request → Reply} {space : String}
    {labels : NameMap String} {pod : Pod} :
    ((readyPod space labels).run server).2 = .ok pod ↔ StandsBehind server space labels pod := by
  by_cases nothing : labels.isEmpty = true
  · have isEmpty := NameMap.isEmpty_iff.1 nothing
    rw [readyPod, if_pos nothing]
    simp [StandsBehind, isEmpty]
  · have something : labels ≠ .empty := mt NameMap.isEmpty_iff.2 nothing
    rw [readyPod, if_neg nothing, Inquiry.run_andThen_eq_ok_iff]
    simp only [run_inquire_eq_ok_iff, StandsBehind, something, ne_eq, not_false_eq_true, true_and,
      podsRequest, ← find?_eq_some_iff_isFirst Pod.isReady_iff]
    refine exists_congr fun pods => and_congr_right fun _ => ?_
    cases pods.find? Pod.isReady <;> simp

/-! ## Lookups -/

theorem managerKind?_eq_some {resource : ResourceKind} {kind : String}
    (kind_eq : managerKind? resource = some kind) :
    resource = .deployment ∧ kind = "Deployment" ∨
      resource = .statefulSet ∧ kind = "StatefulSet" := by
  cases resource <;> simp_all [managerKind?]

section Lookups

variable {server : Request → Reply} {destination : Destination} {place : Place}

theorem run_locate_of_manager {kind : String} (kind_eq : managerKind? destination.kind = some kind) :
    ((locate destination).run server).2 = .ok place ↔
      ∃ workload, Describes server { path := resourcePath destination }
          (objectReader (Workload.record kind)) workload ∧
        ∃ pod, StandsBehind server destination.space workload.selector.labels pod ∧
          pod.Offers destination.container ∧ place = ⟨pod.name, destination.port⟩ := by
  rcases managerKind?_eq_some kind_eq with ⟨same, rfl⟩ | ⟨same, rfl⟩ <;>
    simp only [locate, same, Inquiry.run_andThen_eq_ok_iff, run_inquire_eq_ok_iff,
      run_readyPod_eq_ok_iff, Dialogue.run_done, placeIn_eq_ok_iff]

end Lookups

end PortTunnel.Kubernetes
