import PortTunnel.Rehearsal.Play

/-!
# Stimuli

What may be done to the world of a rehearsal from outside: asking sessions to
begin and to stop, being a client, and being the far end of a channel.
-/

namespace PortTunnel.Rehearsal

open Tunnel Cluster Supervisor

namespace World

/-! ## Beginnings -/

/-- One session, which reaches its cluster by a link that is established. -/
def ofSession (policy : Retry.Policy) (script : Script) (reachable : Bool) (forward : Forward) :
    World :=
  let fleet : Fleet := {}
  let link : Link CallId := { established := some ⟨0, false⟩, count := 1 }
  let fleet := (fleet.start policy false forward).setLink (fleet.linkName forward) link
  { run := { stage := .starting [], fleet := fleet }
    supervised := false
    script := script
    network := { reachable := reachable }
    tasks := [.session forward.id] }

/-- A run of forwards. -/
def ofRun (terms : Terms) (sharing : Bool) (forwards : List Forward) (script : Script)
    (reachable : Bool) : World :=
  { run := .ofForwards terms sharing forwards
    script := script
    network := { reachable := reachable }
    tasks := [.supervisor] }

/-- Nobody but visitors. -/
def ofVisitors (script : Script) : World :=
  { run := { stage := .starting [] }
    script := script }

/-! ## Sessions and runs -/

/-- Begin. -/
def start (world : World) : World :=
  { world with started := true }

/-- Ask a session to stop. -/
def stop (world : World) (id : String) : World :=
  (world.sessionStep id .stop).getD world

/-- Ask the run to shut down. -/
def requestShutdown (world : World) : World :=
  match world.run.step .requestShutdown with
  | some run => { world with run := run }
  | none => world

/-- Cancel the token of the run. -/
def cancelToken (world : World) : World :=
  match world.run.step .cancelToken with
  | some run => { world with run := run }
  | none => world

/-- Ask for a channel on one's own, by the link to a context. -/
def visit (world : World) (name context : String) (destination : Destination) : World :=
  let visit : Visit := { name := name, context := context, destination := destination }
  let world : World :=
    { world with
      visits := world.visits ++ [visit]
      tasks := world.tasks ++ [Task.visitor name] }
  (world.linkStep context (.request (name, 0))).getD world

/-! ## Clients -/

/-- Let a client connect to a port; tells whether it could. -/
def connect (world : World) (client : String) (port : UInt16) : Bool × World :=
  let (connected, network) := world.network.connect client port
  (connected, { world with network := network })

/-- Let a client do something; tells whether there is such a client. -/
def asClient (world : World) (client : String) (change : Connection → Connection) :
    Bool × World :=
  match world.network.ofClient? client with
  | some connection =>
      (true, { world with network := world.network.modify connection.number change })
  | none => (false, world)

/-- Let a client send bytes, which are lost once it has finished. -/
def clientSend (bytes : List UInt8) (connection : Connection) : Connection :=
  if connection.sendEnd == .still then { connection with sent := connection.sent ++ bytes }
  else connection

/-- Let a client end what it sends. -/
def clientFinish (connection : Connection) : Connection :=
  { connection with sendEnd := .finished }

/-! ## Channels -/

/-- Do something to a channel; tells whether there is such a channel. -/
def asChannel (world : World) (key : String) (change : Channel → Channel) : Bool × World :=
  match world.channelOfKey? key with
  | some (call, _) => (true, world.modifyChannel call change)
  | none => (false, world)

/-- Give a call that hangs an outcome; tells whether there is such a call. -/
def release (world : World) (key : String) (outcome : Outcome) : Bool × World :=
  let isMeant (request : Request) : Bool := request.key == key && request.outcome == .hang
  (world.requests.any isMeant,
    { world with
      requests := world.requests.map fun request =>
        if isMeant request then
          { request with outcome := outcome, due := dueOf world.now outcome }
        else request })

/-! ## Ports -/

/-- The endpoint at which a port is held and probed. -/
def holdEndpoint (port : UInt16) : Endpoint :=
  ⟨holdAddress, port⟩

/-- Whether a port is taken. -/
def isTaken (world : World) (port : UInt16) : Bool :=
  world.network.isTaken (holdEndpoint port)

/-- Hold a port; tells whether it was free. -/
def hold (world : World) (port : UInt16) : Bool × World :=
  if world.isTaken port then (false, world)
  else
    let listener : Listener := { owner := none, endpoint := holdEndpoint port }
    (true,
      { world with
        network :=
          { world.network with listeners := world.network.listeners ++ [listener] } })

/-- Let go of a port; tells whether it was held. -/
def unhold (world : World) (port : UInt16) : Bool × World :=
  let isMeant (listener : Listener) : Bool :=
    listener.owner.isNone && listener.endpoint.port == port
  (world.network.listeners.any isMeant,
    { world with network := world.network.closeWhere isMeant })

/-- Let the next attempt to listen on a port fail. -/
def refuseBind (world : World) (port : UInt16) (refusal : BindRefusal) : World :=
  { world with
    network := { world.network with refusals := world.network.refusals ++ [(port, refusal)] } }

/-- Let the next accept on a port fail; tells whether anybody listens there. -/
def failAccept (world : World) (port : UInt16) : Bool × World :=
  let isMeant (listener : Listener) : Bool := listener.endpoint.port == port
  (world.network.listeners.any isMeant,
    { world with
      network :=
        { world.network with
          listeners := world.network.listeners.map fun listener =>
            if isMeant listener then { listener with failures := listener.failures + 1 }
            else listener } })

end World

end PortTunnel.Rehearsal
