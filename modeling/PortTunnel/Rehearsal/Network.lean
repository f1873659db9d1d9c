import PortTunnel.Address.Basic
import PortTunnel.Failure
import PortTunnel.Rehearsal.Channel

/-!
# Rehearsed networks

The network of a rehearsal lies within one machine.  Listeners hold ports;
clients connect to them and wait in the backlog until they are accepted.  What a
client sends before it goes away can still be read.
-/

namespace PortTunnel.Rehearsal

/-- The address at which ports are held and probed. -/
def holdAddress : Address := .v4 ⟨127, 100, 100, 100⟩

/-- A listener.  One without an owner only holds its port. -/
structure Listener where
  owner : Option String
  endpoint : Endpoint
  /-- How many of the next accepts fail. -/
  failures : Nat := 0
  /-- The connections that wait to be accepted, the oldest first. -/
  backlog : List Nat := []

/-- How a client has ended what it sends. -/
inductive SendEnd where
  | still
  | finished
  | reset
  deriving DecidableEq

/-- A connection of a client. -/
structure Connection where
  number : Nat
  /-- The name of the client, as long as it is there. -/
  client : Option String
  /-- The forward that accepted it, and the number of the client there. -/
  holder : Option (String × Nat) := none
  /-- What the client has sent and nobody has read. -/
  sent : List UInt8 := []
  sendEnd : SendEnd := .still
  received : List UInt8 := []
  /-- Whether the client has seen the end of what it receives. -/
  closed : Bool := false
  /-- Whether something was written after the client went away. -/
  wroteInVain : Bool := false

/-- A network. -/
structure Network where
  /-- Whether clients can connect at all. -/
  reachable : Bool := false
  listeners : List Listener := []
  connections : List Connection := []
  /-- The number of connections so far. -/
  count : Nat := 0
  /-- How the next attempts to listen on ports fail. -/
  refusals : List (UInt16 × BindRefusal) := []

namespace Network

/-- Whether two addresses compete for a port. -/
def compete (first second : Address) : Bool :=
  first == second || first.isUnspecified || second.isUnspecified

/-- Whether a listener is in the way of another. -/
def isTaken (network : Network) (endpoint : Endpoint) : Bool :=
  network.listeners.any fun listener =>
    listener.endpoint.port == endpoint.port
      && compete listener.endpoint.address endpoint.address

/-- Listen on an endpoint. -/
def listen (network : Network) (owner : Option String) (endpoint : Endpoint) :
    Except BindRefusal Unit × Network :=
  match network.refusals.find? (·.1 == endpoint.port) with
  | some (_, refusal) =>
      (.error refusal,
        { network with refusals := network.refusals.eraseP (·.1 == endpoint.port) })
  | none =>
      if network.reachable && !endpoint.address.isLoopback && !endpoint.address.isUnspecified then
        (.error .notAvailable, network)
      else if network.isTaken endpoint then (.error .inUse, network)
      else
        (.ok (),
          { network with
            listeners := network.listeners ++ [{ owner := owner, endpoint := endpoint }] })

/-- Change a connection. -/
def modify (network : Network) (number : Nat) (change : Connection → Connection) : Network :=
  { network with
    connections := network.connections.map fun connection =>
      if connection.number == number then change connection else connection }

/-- Close listeners, and the connections in their backlogs. -/
def closeWhere (network : Network) (isMeant : Listener → Bool) : Network :=
  let waiting := (network.listeners.filter isMeant).flatMap (·.backlog)
  { network with
    listeners := network.listeners.filter fun listener => !isMeant listener
    connections := network.connections.map fun connection =>
      if waiting.contains connection.number then { connection with closed := true }
      else connection }

/-- The connection of a client. -/
def ofClient? (network : Network) (client : String) : Option Connection :=
  network.connections.find? fun connection => connection.client == some client

/-- The connection that a forward accepted under a number. -/
def ofHolder? (network : Network) (id : String) (client : Nat) : Option Connection :=
  network.connections.find? fun connection => connection.holder == some (id, client)

/-- Let a client go away. -/
def leave (sendEnd : SendEnd) (connection : Connection) : Connection :=
  { connection with client := none, sendEnd := sendEnd }

/-- Let a client connect to a port.  A client of the same name goes away. -/
def connect (network : Network) (client : String) (port : UInt16) : Bool × Network :=
  let isMeant (listener : Listener) : Bool := listener.endpoint.port == port
  if network.reachable && network.listeners.any isMeant then
    let number := network.count
    let others := network.connections.map fun connection =>
      if connection.client == some client then leave .finished connection else connection
    let rec enter : List Listener → List Listener
      | [] => []
      | listener :: rest =>
          if isMeant listener then
            { listener with backlog := listener.backlog ++ [number] } :: rest
          else listener :: enter rest
    (true,
      { network with
        connections := others ++ [{ number := number, client := some client }]
        count := number + 1
        listeners := enter network.listeners })
  else (false, network)

/-- The listener of a forward. -/
def listenerOf? (network : Network) (id : String) : Option Listener :=
  network.listeners.find? (·.owner == some id)

/-- Change the listener of a forward. -/
def modifyListener (network : Network) (id : String) (change : Listener → Listener) : Network :=
  { network with
    listeners := network.listeners.map fun listener =>
      if listener.owner == some id then change listener else listener }

end Network

namespace Connection

/-- Read at most `limit` bytes of what the client sent. -/
def read (limit : Nat) (connection : Connection) : Reading × Connection :=
  if !connection.sent.isEmpty then
    (.bytes (connection.sent.take limit),
      { connection with sent := connection.sent.drop limit })
  else
    match connection.sendEnd with
    | .still => (.pending, connection)
    | .finished => (.ended, connection)
    | .reset => (.failed "Connection reset by peer (os error 104)", connection)

/-- Write bytes to the client.  The first write to a client that is gone seems to
succeed, unless the client broke the connection off. -/
def write (bytes : List UInt8) (connection : Connection) : Bool × Connection :=
  match connection.client with
  | some _ => (true, { connection with received := connection.received ++ bytes })
  | none =>
      if connection.wroteInVain || connection.sendEnd == .reset then (false, connection)
      else (true, { connection with wroteInVain := true })

end Connection

end PortTunnel.Rehearsal
