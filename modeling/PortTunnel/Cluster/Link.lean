import PortTunnel.Failure
import PortTunnel.Text.Quoted

/-!
# Links to clusters

All forwards of one context may share a link.  The link is established by the
first request for a channel; while one request is at it the others wait, and
when it fails the next one tries.  Some clusters take only one request at a
time, so the established link tells whether requests have to queue.

Requests are independent of each other, and each may be dropped at any moment.
A link is therefore a state with labelled steps, each about one request.
-/

namespace PortTunnel.Cluster

/-- What a request is waiting for. -/
inductive RequestStage where
  /-- For the link to be established, by itself or by another. -/
  | seeking
  /-- For the link that it is establishing. -/
  | establishing
  /-- For its turn. -/
  | queued
  /-- For the answer of the cluster, reached by an established link. -/
  | calling (link : Nat)
  deriving DecidableEq, Repr

/-- An established link. -/
structure Established where
  /-- Links are numbered as they are established. -/
  number : Nat
  /-- Whether the cluster takes one request at a time. -/
  serializes : Bool
  deriving DecidableEq, Repr

/-- A link shared by requests, which are named by `Id`. -/
structure Link (Id : Type) where
  established : Option Established := none
  /-- The number of links established so far. -/
  count : Nat := 0
  /-- The requests that have not been answered, the oldest first. -/
  requests : List (Id × RequestStage) := []
  deriving DecidableEq

namespace Link

variable {Id : Type} [DecidableEq Id]

/-- What may happen to a request. -/
inductive Label (Id : Type) where
  | request (id : Id)
  | establish (id : Id)
  | established (id : Id) (serializes : Bool)
  | notEstablished (id : Id) (failure : Failure)
  /-- It finds the link established. -/
  | proceed (id : Id)
  /-- Its turn has come. -/
  | call (id : Id)
  | answered (id : Id) (answer : Except Failure Unit)
  | drop (id : Id)

/-- The request that a label is about. -/
def Label.id : Label Id → Id
  | request id | establish id | established id _ | notEstablished id _ | proceed id | call id
  | answered id _ | drop id => id

/-- What a request is waiting for. -/
def stage? (link : Link Id) (id : Id) : Option RequestStage :=
  (link.requests.find? (·.1 == id)).map (·.2)

/-- Put a request into another stage. -/
def setStage (link : Link Id) (id : Id) (stage : RequestStage) : Link Id :=
  { link with
    requests := link.requests.map fun request =>
      if request.1 = id then (id, stage) else request }

/-- Forget a request. -/
def remove (link : Link Id) (id : Id) : Link Id :=
  { link with requests := link.requests.filter fun request => request.1 != id }

/-- Whether a request is establishing the link. -/
def isBeingEstablished (link : Link Id) : Bool :=
  link.requests.any fun request => request.2 == .establishing

/-- The number of requests that the cluster has not answered. -/
def callCount (link : Link Id) : Nat :=
  link.requests.countP fun request =>
    match request.2 with
    | .calling _ => true
    | _ => false

/-- A link and the answer that the request of the label receives. -/
abbrev Next (Id : Type) := Link Id × Option (Except Failure Unit)

/-- Follow a label, if it can happen. -/
def step (link : Link Id) (label : Label Id) : Option (Next Id) :=
  match label, link.stage? label.id with
  | .request id, none =>
      some ({ link with requests := link.requests ++ [(id, .seeking)] }, none)
  | .establish id, some .seeking =>
      if link.established.isNone && !link.isBeingEstablished then
        some (link.setStage id .establishing, none)
      else none
  | .established id serializes, some .establishing =>
      some
        ({ link.setStage id .queued with
            established := some ⟨link.count, serializes⟩
            count := link.count + 1 },
          none)
  | .notEstablished id failure, some .establishing =>
      some (link.remove id, some (.error failure))
  | .proceed id, some .seeking =>
      if link.established.isSome then some (link.setStage id .queued, none) else none
  | .call id, some .queued =>
      match link.established with
      | some established =>
          if established.serializes && link.callCount != 0 then none
          else some (link.setStage id (.calling established.number), none)
      | none => none
  | .answered id answer, some (.calling _) => some (link.remove id, some answer)
  | .drop id, some _ => some (link.remove id, none)
  | _, _ => none

/-- A summary of the link to a context. -/
def summary (link : Link Id) (context : String) : String :=
  "ContextSession \x7b context: " ++ Text.quoted context ++ ", initialized: "
    ++ (if link.established.isSome then "true" else "false") ++ " \x7d"

end Link

end PortTunnel.Cluster
