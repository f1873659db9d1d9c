import PortTunnel.NameMap

/-!
# Objects of a cluster

Forwards lead to pods.  A pod may be named itself, or by something that stands
for pods with certain labels: a service, a deployment or a stateful set.
-/

namespace PortTunnel.Kubernetes

/-- A port that a container declares. -/
structure ContainerPort where
  name : Option String := none
  number : Int := 0
  deriving DecidableEq, Repr, Inhabited

/-- A container of a pod. -/
structure Container where
  name : String := ""
  ports : List ContainerPort := []
  deriving DecidableEq, Repr, Inhabited

/-- A condition that a pod is in, or not. -/
structure Condition where
  kind : String := ""
  status : String := ""
  deriving DecidableEq, Repr, Inhabited

/-- A pod. -/
structure Pod where
  name : String := ""
  labels : NameMap String := .empty
  /-- Whether it is being deleted. -/
  deleting : Bool := false
  containers : List Container := []
  conditions : List Condition := []
  deriving DecidableEq

namespace Pod

instance : Inhabited Pod := ⟨{}⟩

/-- Whether a pod takes connections and is to stay. -/
def isReady (pod : Pod) : Bool :=
  !pod.deleting &&
    pod.conditions.any fun condition => condition.kind == "Ready" && condition.status == "True"

/-- Whether a pod has a container of a name. -/
def hasContainer (pod : Pod) (name : String) : Bool :=
  pod.containers.any (·.name == name)

/-- The containers of a name, or all of them if no name is given. -/
def containersOf (pod : Pod) : Option String → List Container
  | some name => pod.containers.filter (·.name == name)
  | none => pod.containers

/-- The number of the first port of a name, in the containers of a name if one
is given. -/
def portNamed? (pod : Pod) (container : Option String) (name : String) : Option Int :=
  (((pod.containersOf container).flatMap (·.ports)).find? (·.name == some name)).map (·.number)

end Pod

/-! ## Selectors -/

/-- What a requirement asks of the label of its key. -/
inductive Operator where
  /-- To have one of some values. -/
  | isIn (values : List String)
  /-- To have none of some values; it may also be missing. -/
  | notIn (values : List String)
  | present
  | absent
  deriving DecidableEq, Repr

/-- A requirement on the labels of a pod. -/
structure Requirement where
  key : String
  operator : Operator
  deriving DecidableEq, Repr

/-- Whether labels meet a requirement. -/
def Requirement.isMet (requirement : Requirement) (labels : NameMap String) : Bool :=
  match requirement.operator, labels.get? requirement.key with
  | .isIn values, some value => values.contains value
  | .isIn _, none => false
  | .notIn values, some value => !values.contains value
  | .notIn _, none => true
  | .present, found => found.isSome
  | .absent, found => found.isNone

/-- What selects pods by their labels. -/
structure Selector where
  /-- Labels that a pod has to have. -/
  labels : NameMap String := .empty
  requirements : List Requirement := []
  deriving DecidableEq

namespace Selector

instance : Inhabited Selector := ⟨{}⟩

/-- Whether a selector selects what has the given labels. -/
def selects (selector : Selector) (labels : NameMap String) : Bool :=
  (selector.labels.toList.all fun label => labels.get? label.1 == some label.2) &&
    selector.requirements.all fun requirement => requirement.isMet labels

end Selector

/-- Labels as a query for those who have them. -/
def labelQuery (labels : NameMap String) : String :=
  String.intercalate "," (labels.toList.map fun label => label.1 ++ "=" ++ label.2)

/-- What manages pods: a deployment or a stateful set. -/
structure Workload where
  selector : Selector := {}
  deriving DecidableEq

instance : Inhabited Workload := ⟨{}⟩

/-! ## Services -/

/-- A port of a pod as a service refers to it. -/
inductive PortReference where
  | number (number : Int)
  | named (name : String)
  deriving DecidableEq, Repr

/-- A port of a service. -/
structure ServicePort where
  number : Int := 0
  /-- The port of the pods, if it is not the same. -/
  target : Option PortReference := none
  deriving DecidableEq, Repr, Inhabited

/-- A service. -/
structure Service where
  /-- The labels of its pods. -/
  labels : NameMap String := .empty
  ports : Option (List ServicePort) := none
  deriving DecidableEq

instance : Inhabited Service := ⟨{}⟩

end PortTunnel.Kubernetes
