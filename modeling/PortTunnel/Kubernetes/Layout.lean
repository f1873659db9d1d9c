import PortTunnel.Config.Loading
import PortTunnel.Kubernetes.Object
import PortTunnel.Number.Power

/-!
# The layout of objects

A server describes objects in JSON.  Of their many members those are read on
which forwards depend; all of them may be missing or `null`.
-/

namespace PortTunnel.Kubernetes

open Schema

/-- A description of objects only: an array does not stand for one. -/
def objectReader {α : Type} (record : Record α) : Reader α where
  json source
    | .array items ending => .error (jsonMismatch (.array items ending) record.title)
    | draft => record.reader.json source draft
  yaml := record.reader.yaml

/-- A number of 32 bits with a sign. -/
def signed32 : Reader Int where
  json _
    | .integer number =>
        if -(Number.twoTo 31 : Int) ≤ number && number < Number.twoTo 31 then .ok number
        else .error (.problem (.wrongValue (.integer number) "i32"))
    | draft => .error (jsonMismatch draft "i32")
  yaml := (Reader.signed "i32").yaml

/-- Labels by their keys. -/
def labels : Reader (NameMap String) :=
  string.keyed

/-- Exactly the expected text. -/
def exactly (expected : String) : Reader Unit where
  json _
    | .text content =>
        if content == expected then .ok ()
        else .error (.problem (.wrongValue (.text content) expected))
    | draft => .error (jsonMismatch draft "a string")
  yaml := yamlScalar "a string" fun _ content _ =>
    if content == expected then .ok () else .error (.wrongValue (.text content) expected)

/-- The members by which an object says what it is.  Both may be missing, but an
object that claims to be something else is refused. -/
def heading {α : Type} (version kind : String) : List (RecordField α) :=
  [.of "apiVersion" false (exactly version) fun _ object => object,
    .of "kind" false (exactly kind) fun _ object => object]

/-! ## Pods -/

/-- What is read of the metadata of an object: its name or, where it has none,
the text that its name is made from; its labels; and whether it is being deleted. -/
structure Metadata where
  name : Option String := none
  generatedFrom : Option String := none
  labels : NameMap String := .empty
  deleting : Bool := false

/-- The layout of metadata. -/
def Metadata.record : Record Metadata where
  title := "ObjectMeta"
  blank := {}
  fields :=
    [member "name" string fun value metadata => { metadata with name := some value },
      member "generateName" string fun value metadata =>
        { metadata with generatedFrom := some value },
      member "labels" Kubernetes.labels fun value metadata => { metadata with labels := value },
      member "deletionTimestamp" string fun _ metadata => { metadata with deleting := true }]
  strict := false

/-- The layout of a port of a container. -/
def ContainerPort.record : Record ContainerPort where
  title := "ContainerPort"
  blank := {}
  fields :=
    [member "name" string fun value port => { port with name := some value },
      member "containerPort" signed32 fun value port => { port with number := value }]
  strict := false

/-- The layout of a container. -/
def Container.record : Record Container where
  title := "Container"
  blank := {}
  fields :=
    [member "name" string fun value container => { container with name := value },
      member "ports" (objectReader ContainerPort.record).list fun value container =>
        { container with ports := value }]
  strict := false

/-- The layout of a condition. -/
def Condition.record : Record Condition where
  title := "PodCondition"
  blank := {}
  fields :=
    [member "type" string fun value condition => { condition with kind := value },
      member "status" string fun value condition => { condition with status := value }]
  strict := false

/-- The layout of what a pod is to be. -/
def podSpecRecord : Record (List Container) where
  title := "PodSpec"
  blank := []
  fields := [member "containers" (objectReader Container.record).list fun value _ => value]
  strict := false

/-- The layout of what a pod is. -/
def podStatusRecord : Record (List Condition) where
  title := "PodStatus"
  blank := []
  fields := [member "conditions" (objectReader Condition.record).list fun value _ => value]
  strict := false

/-- The layout of a pod. -/
def Pod.record : Record Pod where
  title := "Pod"
  blank := {}
  fields := heading "v1" "Pod" ++
    [member "metadata" (objectReader Metadata.record) fun value pod =>
        { pod with
          name := (value.name.or value.generatedFrom).getD ""
          labels := value.labels
          deleting := value.deleting },
      member "spec" (objectReader podSpecRecord) fun value pod => { pod with containers := value },
      member "status" (objectReader podStatusRecord) fun value pod =>
        { pod with conditions := value }]
  strict := false

/-- The layout of a list of pods. -/
def podListRecord : Record (List Pod) where
  title := "ObjectList"
  blank := []
  fields := [.of "items" true (objectReader Pod.record).list fun value _ => value]
  strict := false

/-! ## What stands for pods -/

/-- The layout of a requirement: a key, an operator and values. -/
def requirementRecord : Record (String × String × List String) where
  title := "LabelSelectorRequirement"
  blank := ("", "", [])
  fields :=
    [member "key" string fun value requirement => (value, requirement.2),
      member "operator" string fun value requirement =>
        (requirement.1, value, requirement.2.2),
      member "values" string.list fun value requirement =>
        (requirement.1, requirement.2.1, value)]
  strict := false

/-- The operator of a name.  A server knows no others. -/
def Operator.ofName? (name : String) (values : List String) : Option Operator :=
  match name with
  | "In" => some (.isIn values)
  | "NotIn" => some (.notIn values)
  | "Exists" => some .present
  | "DoesNotExist" => some .absent
  | _ => none

/-- The layout of a selector. -/
def Selector.record : Record Selector where
  title := "LabelSelector"
  blank := {}
  fields :=
    [member "matchLabels" Kubernetes.labels fun value selector =>
        { selector with labels := value },
      member "matchExpressions" (objectReader requirementRecord).list fun value selector =>
        { selector with
          requirements := value.filterMap fun (key, name, values) =>
            (Operator.ofName? name values).map fun operator => ⟨key, operator⟩ }]
  strict := false

/-- The layout of what a workload is to be. -/
def workloadSpecRecord : Record Selector where
  title := "WorkloadSpec"
  blank := {}
  fields := [member "selector" (objectReader Selector.record) fun value _ => value]
  strict := false

/-- The layout of a workload of a kind. -/
def Workload.record (kind : String) : Record Workload where
  title := kind
  blank := {}
  fields := heading "apps/v1" kind ++
    [member "spec" (objectReader workloadSpecRecord) fun value _ => ⟨value⟩]
  strict := false

/-- A port by its number or its name. -/
def portReference : Reader PortReference where
  json source
    | .text name => .ok (.named name)
    | draft => (signed32.json source draft).map .number
  yaml := (string.map PortReference.named).yaml

/-- The layout of a port of a service. -/
def ServicePort.record : Record ServicePort where
  title := "ServicePort"
  blank := {}
  fields :=
    [member "port" signed32 fun value port => { port with number := value },
      member "targetPort" portReference fun value port => { port with target := some value }]
  strict := false

/-- The layout of a service, all of which lies in what it is to be. -/
def serviceSpecRecord : Record Service where
  title := "ServiceSpec"
  blank := {}
  fields :=
    [member "selector" Kubernetes.labels fun value service => { service with labels := value },
      member "ports" (objectReader ServicePort.record).list fun value service =>
        { service with ports := some value }]
  strict := false

/-- The layout of a service. -/
def Service.record : Record Service where
  title := "Service"
  blank := {}
  fields := heading "v1" "Service" ++
    [member "spec" (objectReader serviceSpecRecord) fun value _ => value]
  strict := false

/-! ## Refusals -/

/-- Why a server refuses a request. -/
structure Refusal where
  status : String := ""
  message : String := ""
  reason : String := ""
  code : Nat := 0
  deriving DecidableEq, Repr, Inhabited

/-- The layout of a refusal. -/
def Refusal.record : Record Refusal where
  title := "ErrorResponse"
  blank := {}
  fields :=
    [.of "status" true string fun value refusal => { refusal with status := value },
      .of "message" false string fun value refusal => { refusal with message := value },
      .of "reason" false string fun value refusal => { refusal with reason := value },
      .of "code" true (Reader.unsigned 16 "u16") fun value refusal =>
        { refusal with code := value }]
  strict := false

/-- The value that a body describes. -/
def ofBody? {α : Type} (reader : Reader α) (body : String) : Option α :=
  (Config.ofJson reader body).toOption

end PortTunnel.Kubernetes
