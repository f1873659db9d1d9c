import PortTunnel.Failure
import PortTunnel.Forward.Basic
import PortTunnel.Kubernetes.Dialogue
import PortTunnel.Kubernetes.Layout
import PortTunnel.Kubernetes.StatusCode

/-!
# From destinations to ports of pods

To open a channel one has to know a pod and a port of it.  A destination that is
a pod names it; behind all others the first pod is taken that is ready among the
running pods with the right labels.  The port is that of the destination, save
that a service may lead to another one.

Pods come and go, so this is looked up anew for every channel.
-/

namespace PortTunnel.Kubernetes

/-! ## What can go wrong -/

/-- Why no channel was opened. -/
inductive Trouble where
  | refused (refusal : Refusal)
  /-- An answer does not describe what was asked for. -/
  | unreadable
  /-- The server does not agree to carry a channel. -/
  | notSwitched (status : Nat)
  | lost (reason : String)
  | noSelector
  | noReadyPod (query : String)
  | noPorts
  | noPort (port : UInt16)
  | noPortNamed (pod name : String)
  | badPort (number : Int)
  | noContainer (pod container : String)
  /-- The channel that was opened has no stream for its port. -/
  | noStream (port : UInt16)
  deriving DecidableEq, Repr

/-- A refusal in full. -/
def Refusal.text (refusal : Refusal) : String :=
  "ApiError: " ++ refusal.message ++ ": " ++ refusal.reason ++ " (ErrorResponse \x7b status: "
    ++ Text.quoted refusal.status ++ ", message: " ++ Text.quoted refusal.message ++ ", reason: "
    ++ Text.quoted refusal.reason ++ ", code: " ++ refusal.code.repr ++ " \x7d)"

/-- What is said about a destination that is in trouble. -/
def Trouble.text : Trouble → String
  | refused refusal => ": " ++ refusal.text
  | unreadable => ": Error deserializing response"
  | notSwitched status =>
      ": failed to upgrade to a WebSocket connection: failed to switch protocol: "
        ++ StatusCode.text status
  | lost reason => ": " ++ reason
  | noSelector => " has no pod selector"
  | noReadyPod query => ": no ready pod matches " ++ query
  | noPorts => ": service has no ports"
  | noPort port => ": service has no port " ++ port.toNat.repr
  | noPortNamed pod name => ": pod " ++ pod ++ " has no port named " ++ name
  | badPort number => ": invalid target port " ++ number.repr
  | noContainer pod container => ": pod " ++ pod ++ " has no container " ++ container
  | noStream port => ": port " ++ port.toNat.repr ++ " not found in forwarder"

/-- The failure to open a channel to a destination.  Whatever the trouble, it may
pass, so the connection failed and may be tried again. -/
def Trouble.failure (destination : Destination) (trouble : Trouble) : Failure :=
  .connectFailed (destination.text ++ trouble.text)

/-! ## Asking -/

/-- A dialogue that may run into trouble. -/
abbrev Inquiry (α : Type) := Dialogue (Except Trouble α)

namespace Inquiry

variable {α β : Type}

/-- Go on unless there was trouble. -/
def andThen (first : Inquiry α) (continuation : α → Inquiry β) : Inquiry β :=
  first.bind fun
    | .ok value => continuation value
    | .error trouble => .done (.error trouble)

end Inquiry

/-- The refusal that an answer with an error code describes. -/
def refusalOf (status : Nat) (body : String) : Refusal :=
  (ofBody? Refusal.record.reader body).getD
    { status := StatusCode.text status
      message := Text.quoted body
      reason := "Failed to parse error data"
      code := status }

/-- What a reply describes. -/
def describe {α : Type} (reader : Schema.Reader α) : Reply → Except Trouble α
  | .answered status body =>
      if StatusCode.isError status then .error (.refused (refusalOf status body))
      else
        match ofBody? reader body with
        | some value => .ok value
        | none => .error .unreadable
  | .lost reason => .error (.lost reason)

/-- Ask for something and read what is described. -/
def inquire {α : Type} (request : Request) (reader : Schema.Reader α) : Inquiry α :=
  .ask request fun reply => .done (describe reader reply)

/-- The path of the pods in a namespace. -/
def podsPath (space : String) : String :=
  "/api/v1/namespaces/" ++ space ++ "/pods"

/-- The path of a resource. -/
def resourcePath (destination : Destination) : String :=
  match destination.kind with
  | .pod => podsPath destination.space ++ "/" ++ destination.name
  | .service =>
      "/api/v1/namespaces/" ++ destination.space ++ "/services/" ++ destination.name
  | .deployment =>
      "/apis/apps/v1/namespaces/" ++ destination.space ++ "/deployments/" ++ destination.name
  | .statefulSet =>
      "/apis/apps/v1/namespaces/" ++ destination.space ++ "/statefulsets/" ++ destination.name

/-! ## Pods -/

/-- The request for the running pods that have labels. -/
def podsRequest (space : String) (labels : NameMap String) : Request where
  path := podsPath space
  query := [("labelSelector", labelQuery labels), ("fieldSelector", "status.phase=Running")]

/-- The first ready pod among those with labels, of which there must be some. -/
def readyPod (space : String) (labels : NameMap String) : Inquiry Pod :=
  if labels.isEmpty then .done (.error .noSelector)
  else
    (inquire (podsRequest space labels) podListRecord.reader).andThen fun pods =>
      match pods.find? Pod.isReady with
      | some pod => .done (.ok pod)
      | none => .done (.error (.noReadyPod (labelQuery labels)))

/-! ## Ports -/

/-- A number as a port. -/
def portOf (number : Int) : Except Trouble UInt16 :=
  if 0 ≤ number ∧ number ≤ 65535 then .ok (UInt16.ofNat number.toNat)
  else .error (.badPort number)

/-- The port of a pod that a port of a service leads to.  Names are looked up in
the given container or, without one, in all of them. -/
def portBehind (service : Service) (pod : Pod) (port : UInt16) (container : Option String) :
    Except Trouble UInt16 :=
  match service.ports with
  | none => .error .noPorts
  | some ports =>
      match ports.find? fun entry => entry.number == (port.toNat : Int) with
      | none => .error (.noPort port)
      | some entry =>
          match entry.target with
          | none => portOf entry.number
          | some (.number number) => portOf number
          | some (.named name) =>
              match pod.portNamed? container name with
              | some number => portOf number
              | none => .error (.noPortNamed pod.name name)

/-! ## Places -/

/-- A pod and a port of it. -/
structure Place where
  pod : String
  port : UInt16
  deriving DecidableEq, Repr

/-- The place in a pod, which has to have the container that is asked for. -/
def placeIn (container : Option String) (pod : Pod) (port : UInt16) : Except Trouble Place :=
  match container with
  | none => .ok ⟨pod.name, port⟩
  | some container =>
      if pod.hasContainer container then .ok ⟨pod.name, port⟩
      else .error (.noContainer pod.name container)

/-- The place that a destination leads to. -/
def locate (destination : Destination) : Inquiry Place :=
  let request : Request := { path := resourcePath destination }
  let arrive (pod : Pod) (port : UInt16) : Inquiry Place :=
    .done (placeIn destination.container pod port)
  let throughWorkload (kind : String) : Inquiry Place :=
    (inquire request (objectReader (Workload.record kind))).andThen fun workload =>
      (readyPod destination.space workload.selector.labels).andThen fun pod =>
        arrive pod destination.port
  match destination.kind with
  | .pod =>
      (inquire request (objectReader Pod.record)).andThen fun pod =>
        arrive pod destination.port
  | .deployment => throughWorkload "Deployment"
  | .statefulSet => throughWorkload "StatefulSet"
  | .service =>
      (inquire request (objectReader Service.record)).andThen fun service =>
        (readyPod destination.space service.labels).andThen fun pod =>
          match portBehind service pod destination.port destination.container with
          | .ok port => arrive pod port
          | .error trouble => .done (.error trouble)

/-! ## Channels -/

/-- The request to carry a channel to a place. -/
def channelRequest (space : String) (place : Place) : Request where
  path := podsPath space ++ "/" ++ place.pod ++ "/portforward"
  query := [("ports", place.port.toNat.repr)]

/-- Whether a reply agrees to carry a channel. -/
def agreement : Reply → Except Trouble Unit
  | .answered status _ =>
      if status == StatusCode.switching then .ok () else .error (.notSwitched status)
  | .lost reason => .error (.lost reason)

/-- Open a channel to a destination; tells where it leads. -/
def openChannel (destination : Destination) : Inquiry Place :=
  (locate destination).andThen fun place =>
    .ask (channelRequest destination.space place) fun reply =>
      .done ((agreement reply).map fun _ => place)

/-- Open a channel to a destination and take the stream for its port, if there is one. -/
def openStream (hasStream : UInt16 → Bool) (destination : Destination) : Inquiry Place :=
  (openChannel destination).andThen fun place =>
    .done (if hasStream place.port then .ok place else .error (.noStream place.port))

/-- Every channel that is opened is a stream, if there are streams for all ports. -/
theorem openStream_of_hasStream {hasStream : UInt16 → Bool}
    (all : ∀ port, hasStream port = true) (destination : Destination) :
    openStream hasStream destination = openChannel destination := by
  rw [openStream, Inquiry.andThen]
  simp only [all, if_true]
  apply Dialogue.bind_eq_self
  rintro (trouble | place) <;> rfl

/-- A summary of the link to a context. -/
def summary (context : String) : String :=
  "KubeClusterSession \x7b context: " ++ Text.quoted context ++ " \x7d"

end PortTunnel.Kubernetes
