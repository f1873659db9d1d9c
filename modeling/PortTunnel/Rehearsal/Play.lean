import PortTunnel.Rehearsal.World

/-!
# Playing a rehearsal

Tasks take turns in the order in which they came into being.  A task goes on
until it has to wait; when all of them wait the clock moves to the next moment
at which something is due.  A request to stop comes before everything else that
a session could do, pairs that ended before new clients, and what goes to the
cluster before what comes from it.
-/

namespace PortTunnel.Rehearsal

open Tunnel Cluster Supervisor

namespace World

/-! ## Calls -/

/-- Let a link take a step on behalf of a call. -/
def linkStep (world : World) (name : String) (label : Link.Label CallId) : Option World :=
  if world.visits.any fun visit => visit.name == label.id.1 then
    match (world.fleet.link name).step label with
    | none => none
    | some (link, answer) =>
        let world := world.setFleet (world.fleet.setLink name link)
        some
          { world with
            visits := world.visits.map fun visit =>
              if visit.name == label.id.1 then { visit with answer := answer.or visit.answer }
              else visit }
  else (world.fleetStep (.link name label)).map (reconcile label.id.1)

/-- The first request on a link in a stage. -/
def firstIn (stage : RequestStage) (link : Link CallId) : Option CallId :=
  (link.requests.find? (·.2 == stage)).map (·.1)

/-- When an outcome that takes time is due. -/
def dueOf (now : Nat) : Outcome → Nat
  | .later millis _ => now + millis
  | _ => now

/-- Bring a call before the cluster. -/
def arrive (world : World) (call : CallId) (destination : Destination) : World :=
  let resource := destination.name
  let number := (world.attempts.get? resource).getD 0
  let (outcome, script) := world.script.next resource
  let target := (destination.text, destination.container)
  let requests :=
    world.requests ++ [⟨call, resource ++ "#" ++ number.repr, outcome, dueOf world.now outcome⟩]
  { world with
    script := script
    attempts :=
      if world.stuck.contains resource then world.attempts
      else world.attempts.insert resource (number + 1)
    targets := if world.targets.contains target then world.targets else world.targets ++ [target]
    requests := requests
    mostRequests := max world.mostRequests requests.length }

/-- Answer a call that is before the cluster. -/
def settleCall (world : World) (name : String) (call : CallId) (answer : Except Failure Unit) :
    Option World :=
  { world with requests := world.requests.filter (·.call != call) }.linkStep name
    (.answered call answer)

/-- Open a channel for a call. -/
def openChannel (world : World) (name : String) (request : Request) (echoes : Bool) :
    Option World :=
  let channel : Channel := { echoes := echoes }
  { world with channels := world.channels ++ [(request.key, request.call, channel)] }.settleCall
    name request.call (.ok ())

/-- Let the cluster deal with a call. -/
def resolveCall (world : World) (name : String) (request : Request) : Option World :=
  match request.outcome with
  | .hang => none
  | .quiet => world.openChannel name request false
  | .echo => world.openChannel name request true
  | .fail failure => world.settleCall name request.call (.error failure)
  | .later _ outcome =>
      if request.due ≤ world.now then
        some
          { world with
            requests := world.requests.map fun other =>
              if other.call == request.call then
                { other with outcome := outcome, due := dueOf world.now outcome }
              else other }
      else none

/-- Let a call to a context go on, by the link of the given name. -/
def callStep (world : World) (name context : String) (call : CallId)
    (destination : Destination) : Option World :=
  let link := world.fleet.link name
  match link.stage? call with
  | none => none
  | some .seeking =>
      if link.established.isSome then world.linkStep name (.proceed call)
      else if firstIn .seeking link == some call then world.linkStep name (.establish call)
      else none
  | some .establishing =>
      match world.script.nextLink with
      | (some failure, script) =>
          { world with script := script }.linkStep name (.notEstablished call failure)
      | (none, script) =>
          { world with script := script, links := world.links ++ [context] }.linkStep name
            (.established call script.serializes)
  | some .queued =>
      if firstIn .queued link == some call then
        (world.linkStep name (.call call)).map fun world => world.arrive call destination
      else none
  | some (.calling _) =>
      match world.requests.find? (·.call == call) with
      | some request => world.resolveCall name request
      | none => none

/-- Let a call of a session go on. -/
def sessionCallStep (world : World) (id : String) (session : Session) (call : Nat) :
    Option World :=
  let forward := session.forward
  world.callStep (world.fleet.linkName forward) forward.context (id, call) forward.destination

/-! ## Pairs -/

/-- Let a pump read. -/
def readStep (reading : Reading) (proceed : Pump.Label → Option World) : Option World :=
  match reading with
  | .pending => none
  | .bytes chunk => proceed (.read chunk)
  | .ended => proceed .readEnd
  | .failed reason => proceed (.readFailed reason)

/-- Let the pump to the cluster go on. -/
def outboundStep (world : World) (channel : CallId) (connection : Connection) (pump : Pump)
    (follow : World → Pump.Label → Option World) : Option World :=
  match pump with
  | .reading =>
      let (reading, connection) := connection.read chunkLimit
      readStep reading fun label =>
        follow { world with network := world.network.modify connection.number fun _ => connection }
          label
  | .writing _ rest =>
      match world.channel? channel with
      | some opened =>
          if opened.refusesWrites then follow world (.writeFailed "write refused")
          else follow (world.modifyChannel channel (·.write rest)) (.wrote rest)
      | none => none
  | .shutting => follow (world.modifyChannel channel (·.shutWrites)) .shut
  | .finished => none

/-- Let the pump to the client go on. -/
def inboundStep (world : World) (channel : CallId) (connection : Connection) (pump : Pump)
    (follow : World → Pump.Label → Option World) : Option World :=
  match pump with
  | .reading =>
      match world.channel? channel with
      | some opened =>
          let (reading, opened) := opened.read chunkLimit
          readStep reading fun label =>
            follow (world.modifyChannel channel fun _ => opened) label
      | none => none
  | .writing _ rest =>
      let (written, connection) := connection.write rest
      let world :=
        { world with network := world.network.modify connection.number fun _ => connection }
      follow world (if written then .wrote rest else .writeFailed "Broken pipe (os error 32)")
  | .shutting =>
      follow
        { world with
          network := world.network.modify connection.number fun connection =>
            { connection with closed := true } }
        .shut
  | .finished => none

/-- Whether the pairs of a session have been asked to end. -/
def endsPairs (session : Session) : Bool :=
  match session.stage with
  | .draining _ _ => true
  | _ => session.stopRequested

/-- Let a pair go on. -/
def pairStep (world : World) (id : String) (client : Nat) : Option World := do
  let session ← world.session? id
  let phase ← session.phase?
  let pair ← phase.pair? client
  let follow (label : Pair.Label) (world : World) : Option World :=
    world.sessionStep id (.pair client label)
  match pair.stage with
  | .waiting (some _) => follow .start world
  | .waiting none => follow (if endsPairs session then .cancelled else .start) world
  | .opening call =>
      if endsPairs session then follow .cancelled world
      else world.sessionCallStep id session call
  | .relaying channel outbound inbound =>
      if endsPairs session then follow .cancelled world
      else
        let connection ← world.network.ofHolder? id client
        let relay (direction : Direction) (world : World) (label : Pump.Label) : Option World :=
          follow (.relay direction label) world
        match world.outboundStep (id, channel) connection outbound (relay .outbound) with
        | some next => some next
        | none =>
            world.inboundStep (id, channel) connection inbound (relay .inbound)

/-! ## Sessions -/

/-- The words from which delays are drawn: one in the middle. -/
def words : List UInt64 := [0x8000000000000000]

/-- Let a session accept, if somebody connects. -/
def acceptStep (world : World) (id : String) (session : Session) : Option World := do
  let listener ← world.network.listenerOf? id
  if 0 < listener.failures then
    let network := world.network.modifyListener id fun listener =>
      { listener with failures := listener.failures - 1 }
    ({ world with network := network }.setAlarm id 100).sessionStep id .acceptFailed
  else
    match listener.backlog with
    | [] => none
    | number :: rest =>
        let client := session.counters.connections
        let network :=
          (world.network.modifyListener id fun listener =>
              { listener with backlog := rest }).modify
            number fun connection => { connection with holder := some (id, client) }
        let world ← world.sessionStep id .accept
        some
          { world with
            network := network
            tasks := world.tasks ++ [.pair id client] }

/-- Let a session that serves go on. -/
def serveStep (world : World) (id : String) (session : Session) (phase : Phase) : Option World :=
  if session.stopRequested then world.sessionStep id .heed
  else
    match phase.ended with
    | (client, _) :: _ => world.sessionStep id (.join client)
    | [] =>
        if phase.degraded && phase.seen != phase.opened then world.sessionStep id .recover
        else world.acceptStep id session

/-- Let a session decide whether to try again. -/
def judgeStep (world : World) (id : String) (session : Session) (failure : Failure) :
    Option World :=
  if session.givesUp failure then world.sessionStep id .giveUp
  else
    let delay := (session.policy.delay (session.failures - 1) words).1
    (world.setAlarm id delay.millis).sessionStep id (.schedule words)

/-- Let a session bind its listener. -/
def bindStep (world : World) (id : String) (session : Session) : Option World :=
  let (outcome, network) := world.network.listen (some id) session.forward.localEndpoint
  let world := { world with network := network }
  match outcome with
  | .ok _ => world.sessionStep id .bound
  | .error refusal => world.sessionStep id (.refused refusal)

/-- Whether a call blocks its session for good. -/
def isStuck (world : World) (id : String) (session : Session) (call : Nat) : Bool :=
  world.stuck.contains session.forward.name
    && world.requests.any fun request => request.call == (id, call)

/-- Whether a session is to be torn down now. -/
def isAbandoned (world : World) (id : String) : Bool :=
  world.run.tearingDown && world.run.registry.contains id

/-- Let a session go on. -/
def ownStep (world : World) (id : String) (session : Session) : Option World :=
  let follow (label : Session.Label) : Option World := world.sessionStep id label
  match session.stage with
  | .unbound => world.bindStep id session
  | .announcing => follow .announce
  | .connecting none => follow (if session.stopRequested then .heed else .call)
  | .connecting (some call) =>
      if world.isStuck id session call then none
      else if session.stopRequested then follow .heed
      else world.sessionCallStep id session call
  | .connected _ => follow .activate
  | .serving phase false => world.serveStep id session phase
  | .serving _ true => if world.alarmed id then follow .resume else none
  | .draining phase _ =>
      match phase.ended with
      | (client, _) :: _ => follow (.join client)
      | [] => if phase.isQuiet then follow .drained else none
  | .failed _ => follow .degrade
  | .judging failure => world.judgeStep id session failure
  | .resting =>
      if session.stopRequested then follow .heed
      else if world.alarmed id then follow .wake
      else none
  | .ending _ => follow .close
  | .closed | .dropped => none

/-- Let a session go on, or tear it down.  Its pairs were asked to end before, and they come
first. -/
def sessionTurn (world : World) (id : String) : Option World := do
  let session ← world.session? id
  let isBlocked :=
    match session.stage with
    | .connecting (some call) => world.isStuck id session call
    | _ => false
  let hasPairs := session.phase?.any fun phase => !phase.running.isEmpty
  if world.isAbandoned id && !isBlocked then
    if hasPairs then none else world.sessionStep id .drop
  else world.ownStep id session

/-! ## The run -/

/-- The milliseconds that a span takes up. -/
def ceilMillis (span : Span) : Nat :=
  (span.nanos + 999999) / 1000000

/-- Let the run itself go on. -/
def runStep (world : World) : Option World :=
  let run := world.run
  let follow (label : Run.Label) : Option World :=
    (run.step label).map fun run => { world with run := run }
  let joined? : Option String := run.registry.find? run.isOver
  match run.stage with
  | .starting (forward :: _) =>
      (follow .start).map fun world =>
        if world.run.registry.length == run.registry.length then world
        else { world with tasks := world.tasks ++ [.session forward.id] }
  | .starting [] => follow .started
  | .watching =>
      if run.shutdownRequested || run.tokenCancelled then
        (follow .heed).map fun world =>
          { world with deadline := some (world.now + ceilMillis run.terms.grace) }
      else
        match joined? with
        | some id => follow (.join id)
        | none => follow .allJoined
  | .stopping =>
      match joined? with
      | some id => follow (.join id)
      | none =>
          if run.registry.isEmpty then follow .allJoined
          else if world.deadline.any (· ≤ world.now) then follow .deadline
          else none
  | .sweeping _ (some _) _ => follow .forceClosed
  | .sweeping (id :: _) none _ => follow (.inspect id)
  | .sweeping [] none _ => follow .swept
  | .finishing _ _ => follow .finish
  | .over _ => none

/-! ## Turns -/

/-- Let a task take one step. -/
def taskStep (world : World) : Task → Option World
  | .supervisor => if world.supervised && world.started then world.runStep else none
  | .session id => if world.started then world.sessionTurn id else none
  | .pair id client => world.pairStep id client
  | .visitor name =>
      match world.visits.find? (·.name == name) with
      | some visit =>
          if visit.answer.isSome then none
          else world.callStep visit.context visit.context (name, 0) visit.destination
      | none => none

/-- Let a task go on until it has to wait. -/
def turn : Nat → Task → World → World
  | 0, _, world => world
  | fuel + 1, task, world =>
      match world.taskStep task with
      | some next => turn fuel task next
      | none => world

/-- How many steps a task may take in one turn. -/
def turnLimit : Nat := 4000

/-- Whether a task has something left to do, now or later. -/
def isAlive (world : World) : Task → Bool
  | .pair id client =>
      match world.session? id with
      | some session => (served session).contains client
      | none => false
  | _ => true

/-- Give each task from an index on a turn; the flag tells whether any took a step. -/
def turns : Nat → Nat → Bool → World → Bool × World
  | 0, _, moved, world => (moved, world)
  | fuel + 1, index, moved, world =>
      match world.tasks[index]? with
      | none => (moved, world)
      | some task =>
          match world.taskStep task with
          | none => turns fuel (index + 1) moved world
          | some next => turns fuel (index + 1) true (turn turnLimit task next)

/-- Let tasks take turns until all of them wait. -/
def settle : Nat → World → World
  | 0, world => world
  | fuel + 1, world =>
      let world := { world with tasks := world.tasks.filter world.isAlive }
      let (moved, next) := turns (world.tasks.length + turnLimit) 0 false world
      if moved then settle fuel next else next

/-- How many rounds of turns are played at one moment. -/
def roundLimit : Nat := 4000

/-- Play until everybody waits. -/
def play (world : World) : World :=
  settle roundLimit world

/-! ## Time -/

/-- When a session waits for its alarm, the time of it. -/
def wakeTime? (world : World) (id : String) (session : Session) : Option Nat :=
  match session.stage with
  | .resting | .serving _ true => world.alarms.get? id
  | _ => none

/-- The moments at which something is due. -/
def dueTimes (world : World) : List Nat :=
  let sessions := world.fleet.sessions.toList.filterMap fun entry =>
    world.wakeTime? entry.1 entry.2
  let requests := world.requests.filterMap fun request =>
    match request.outcome with
    | .later _ _ => some request.due
    | _ => none
  let deadline :=
    match world.run.stage with
    | .stopping => world.deadline.toList
    | _ => []
  sessions ++ requests ++ deadline

/-- The next moment at which something is due, up to a limit. -/
def nextDue? (world : World) (limit : Nat) : Option Nat :=
  (world.dueTimes.filter fun due => world.now < due && due ≤ limit).min?

/-- Play until a moment. -/
def playUntil : Nat → Nat → World → World
  | 0, moment, world => { world with now := moment }
  | fuel + 1, moment, world =>
      let world := world.play
      match world.nextDue? moment with
      | some due => playUntil fuel moment { world with now := due }
      | none => { world with now := max world.now moment }.play

/-- How many moments are played at most. -/
def momentLimit : Nat := 1000000

/-- Play for some milliseconds. -/
def playFor (world : World) (millis : Nat) : World :=
  playUntil momentLimit (world.now + millis) world

end World

end PortTunnel.Rehearsal
