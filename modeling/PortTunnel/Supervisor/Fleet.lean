import PortTunnel.Cluster.Link
import PortTunnel.Status.Snapshot
import PortTunnel.Tunnel.Session

/-!
# Fleets

A fleet is a set of sessions that run side by side.  They share a board, to
which they report, and links to clusters, through which they make their calls.
A call of a session is a request on its link from the moment it is made until it
is answered, or dropped because the session turned to something else.

Each step of a fleet is a step of one session or of one link.
-/

namespace PortTunnel.Supervisor

open Tunnel Cluster

/-- A call of a session: the id of its forward, and the number of the call. -/
abbrev CallId := String × Nat

/-- Sessions with what they share. -/
structure Fleet where
  /-- Whether forwards of one context share a link. -/
  sharing : Bool := true
  board : Status.Board := {}
  sessions : NameMap Session := .empty
  links : NameMap (Link CallId) := .empty

namespace Fleet

instance : Inhabited Fleet := ⟨{}⟩

/-- What happens to a fleet. -/
inductive Label where
  | session (id : String) (label : Session.Label)
  | link (name : String) (label : Link.Label CallId)

/-- The name of the link of a forward. -/
def linkName (fleet : Fleet) (forward : Forward) : String :=
  if fleet.sharing then forward.context else forward.id

/-- A link by its name; links come into being with the first use. -/
def link (fleet : Fleet) (name : String) : Link CallId :=
  (fleet.links.get? name).getD {}

/-- Replace a link. -/
def setLink (fleet : Fleet) (name : String) (link : Link CallId) : Fleet :=
  { fleet with links := fleet.links.insert name link }

/-- Replace a session. -/
def setSession (fleet : Fleet) (id : String) (session : Session) : Fleet :=
  { fleet with sessions := fleet.sessions.insert id session }

/-- The counters of a forward. -/
def counters (fleet : Fleet) (id : String) : Status.Counters :=
  match fleet.sessions.get? id with
  | some session => session.counters
  | none => {}

/-- The status of all forwards. -/
def snapshot (fleet : Fleet) : Status.Snapshot :=
  fleet.board.snapshot fleet.counters

/-- Pass a report on to the board. -/
def report (fleet : Fleet) (id : String) : Option Report → Fleet
  | some (.state state failure) => { fleet with board := fleet.board.report id state failure }
  | some (.retry attempt delay) =>
      { fleet with board := fleet.board.reportRetry id attempt delay }
  | none => fleet

/-- Follow a label of a link that can always happen. -/
def onLink (label : Link.Label CallId) (link : Link CallId) : Link CallId :=
  match link.step label with
  | some (next, _) => next
  | none => link

/-- The link of a session after a step: calls that the session makes become
requests, and those that it waits for no longer are dropped. -/
def requested (id : String) (before after : Session) (link : Link CallId) : Link CallId :=
  let dropped := before.calling.filter fun call => !after.calling.contains call
  let made := after.calling.filter fun call => !before.calling.contains call
  let link := dropped.foldl (fun link call => onLink (.drop (id, call)) link) link
  made.foldl (fun link call => onLink (.request (id, call)) link) link

/-- Start a session for a forward, unless one of the same id runs. -/
def start (fleet : Fleet) (policy : Retry.Policy) (stopRequested : Bool) (forward : Forward) :
    Fleet :=
  { fleet with
    board := fleet.board.register forward
    sessions :=
      fleet.sessions.insert forward.id
        { forward := forward, policy := policy, stopRequested := stopRequested } }

/-- Follow a label of a session. -/
def sessionStep (fleet : Fleet) (id : String) (label : Session.Label) : Option Fleet :=
  match fleet.sessions.get? id with
  | none => none
  | some session =>
      match session.step label with
      | none => none
      | some (next, report) =>
          let name := fleet.linkName session.forward
          let link := requested id session next (fleet.link name)
          some (((fleet.setSession id next).setLink name link).report id report)

/-- Pass the answer to a call on to the session that made it. -/
def deliver (fleet : Fleet) (call : CallId) (answer : Except Failure Unit) : Option Fleet :=
  match fleet.sessions.get? call.1 with
  | none => none
  | some session =>
      match session.answerLabel? call.2 answer with
      | none => none
      | some label => fleet.sessionStep call.1 label

/-- Follow a label, if it can happen.  Answers reach sessions by way of links, and
requests are made and dropped by sessions only. -/
def step (fleet : Fleet) : Label → Option Fleet
  | .session id label => if label.isAnswer then none else fleet.sessionStep id label
  | .link _ (.request _) | .link _ (.drop _) => none
  | .link name label =>
      match (fleet.link name).step label with
      | none => none
      | some (link, none) => some (fleet.setLink name link)
      | some (link, some answer) => (fleet.setLink name link).deliver label.id answer

end Fleet

end PortTunnel.Supervisor
