import PortTunnel.Rehearsal.Network
import PortTunnel.Rehearsal.Script
import PortTunnel.Supervisor.Run

/-!
# The world of a rehearsal

A rehearsal plays sessions, alone or under a supervised run, against a cluster
that follows a script and clients in a network of its own, on a clock that only
moves when nothing else can.  It does not invent steps: everything that it plays
is a step of the run or of its fleet.
-/

namespace PortTunnel.Rehearsal

open Tunnel Cluster Supervisor

/-- A call that has reached the cluster. -/
structure Request where
  call : CallId
  /-- The name of the resource and the number of the call for it. -/
  key : String
  outcome : Outcome
  /-- When the outcome is due, if it takes time. -/
  due : Nat := 0

/-- Whose turn it can be. -/
inductive Task where
  | supervisor
  | session (id : String)
  | pair (id : String) (client : Nat)
  /-- One who asks for a channel on its own. -/
  | visitor (name : String)
  deriving DecidableEq

/-- A visitor's request for a channel by the link to a context, and what came of it. -/
structure Visit where
  name : String
  context : String
  destination : Destination
  answer : Option (Except Failure Unit) := none

/-- The world of a rehearsal. -/
structure World where
  run : Run
  /-- Whether the run has begun, or the only session where there is no run. -/
  started : Bool := false
  /-- Whether the sessions are under a run. -/
  supervised : Bool := true
  /-- The time in milliseconds. -/
  now : Nat := 0
  script : Script := {}
  network : Network := {}
  /-- The number of calls for each resource. -/
  attempts : NameMap Nat := .empty
  requests : List Request := []
  /-- The greatest number of calls that were at the cluster at once. -/
  mostRequests : Nat := 0
  /-- The channels by key, and the calls that opened them. -/
  channels : List (String × CallId × Channel) := []
  /-- What was asked for: destination and container. -/
  targets : List (String × Option String) := []
  /-- The contexts to which links were established. -/
  links : List String := []
  /-- When sessions wake. -/
  alarms : NameMap Nat := .empty
  /-- When the run stops waiting for its sessions. -/
  deadline : Option Nat := none
  /-- Resources for which calls block their session for good. -/
  stuck : List String := []
  visits : List Visit := []
  tasks : List Task := []

namespace World

/-- The fleet of a world. -/
def fleet (world : World) : Fleet :=
  world.run.fleet

/-- Replace the fleet. -/
def setFleet (world : World) (fleet : Fleet) : World :=
  { world with run := { world.run with fleet := fleet } }

/-- A session of the world. -/
def session? (world : World) (id : String) : Option Session :=
  world.fleet.sessions.get? id

/-- The channels that a session holds. -/
def held (session : Session) : List Nat :=
  let ofPhase (phase : Phase) : List Nat :=
    phase.standby.toList ++ phase.running.filterMap fun pair =>
      match pair.stage with
      | .waiting channel => channel
      | .relaying channel _ _ => some channel
      | .opening _ => none
  match session.stage with
  | .connected channel => [channel]
  | .serving phase _ | .draining phase _ => ofPhase phase
  | _ => []

/-- The clients whose pairs are running. -/
def served (session : Session) : List Nat :=
  match session.phase? with
  | some phase => phase.running.map (·.client)
  | none => []

/-- Let go of what the session of an id no longer holds. -/
def reconcile (id : String) (world : World) : World :=
  match world.session? id with
  | none => world
  | some session =>
      let calling := session.calling
      let holding := held session
      let serving := served session
      let network :=
        if session.isOver then world.network.closeWhere (·.owner == some id) else world.network
      { world with
        requests := world.requests.filter fun request =>
          request.call.1 != id || calling.contains request.call.2
        channels := world.channels.map fun (key, call, channel) =>
          if call.1 == id && !holding.contains call.2 then
            (key, call, { channel with released := true })
          else (key, call, channel)
        network :=
          { network with
            connections := network.connections.map fun connection =>
              match connection.holder with
              | some (owner, client) =>
                  if owner == id && !serving.contains client then
                    { connection with closed := true }
                  else connection
              | none => connection } }

/-- Let the fleet take a step. -/
def fleetStep (world : World) (label : Fleet.Label) : Option World :=
  if world.supervised then
    (world.run.step (.fleet label)).map fun run => { world with run := run }
  else (world.fleet.step label).map world.setFleet

/-- Let a session take a step. -/
def sessionStep (world : World) (id : String) (label : Session.Label) : Option World :=
  (world.fleetStep (.session id label)).map (reconcile id)

/-- Change the channel that a call opened. -/
def modifyChannel (world : World) (call : CallId) (change : Channel → Channel) : World :=
  { world with
    channels := world.channels.map fun (key, opener, channel) =>
      if opener == call then (key, opener, change channel) else (key, opener, channel) }

/-- The channel that a call opened. -/
def channel? (world : World) (call : CallId) : Option Channel :=
  (world.channels.find? fun entry => entry.2.1 == call).map (·.2.2)

/-- The channel of a key. -/
def channelOfKey? (world : World) (key : String) : Option (CallId × Channel) :=
  (world.channels.find? (·.1 == key)).map (·.2)

/-- Set the alarm of a session. -/
def setAlarm (world : World) (id : String) (delay : Nat) : World :=
  { world with alarms := world.alarms.insert id (world.now + delay) }

/-- Whether the alarm of a session has gone off. -/
def alarmed (world : World) (id : String) : Bool :=
  match world.alarms.get? id with
  | some due => due ≤ world.now
  | none => false

end World

end PortTunnel.Rehearsal
