import PortTunnel.Rehearsal.Stimulus

/-!
# Runs on a timeline

A run can be played from its start to its end, with things that are bound to
happen at certain moments and with a table of the status at an interval.  A
table shows how things stand before anything else happens at its moment.  The
last table shows how the run ended.
-/

namespace PortTunnel.Rehearsal

/-- Something that is bound to happen. -/
structure Cue where
  /-- The time in milliseconds. -/
  moment : Nat
  act : World → World

/-- What is bound to happen in a run, and what is shown of it. -/
structure Timeline where
  /-- In the order of their moments. -/
  cues : List Cue := []
  /-- How often a table is shown; an empty interval stands for none. -/
  interval : Option Span := none
  /-- The last moment that is played. -/
  limit : Nat

/-- A client that comes some time after the one before it, sends bytes and ends
what it sends. -/
structure Caller where
  /-- The time in milliseconds. -/
  delay : Nat
  port : UInt16
  bytes : List UInt8

/-- Let a client of a name call. -/
def Caller.call (name : String) (caller : Caller) (world : World) : World :=
  let (connected, world) := world.connect name caller.port
  if connected then
    let world := (world.asClient name (World.clientSend caller.bytes)).2
    (world.asClient name World.clientFinish).2
  else world

/-- The calls of clients, who are numbered; `moment` is when the one before them came. -/
def Cue.ofCallers (number moment : Nat) : List Caller → List Cue
  | [] => []
  | caller :: rest =>
      let moment := moment + caller.delay
      ⟨moment, caller.call number.repr⟩ :: ofCallers (number + 1) moment rest

namespace Timeline

/-- How many tables are due up to a moment; one falls due with each whole interval. -/
def tablesDue (timeline : Timeline) (moment : Nat) : Nat :=
  match timeline.interval with
  | some interval => moment * 1000000 / interval.nanos
  | none => 0

/-- The moment of the first table behind another one. -/
def nextTable? (timeline : Timeline) (moment : Nat) : Option Nat :=
  match timeline.interval with
  | some interval =>
      if interval.isZero then none
      else
        some (World.ceilMillis (.ofNanos (interval.nanos * (timeline.tablesDue moment + 1))))
  | none => none

/-- A run that is being played, with the tables shown so far, the last one first. -/
structure Showing where
  world : World
  cues : List Cue
  tables : List String := []

/-- Show the tables and act on the cues that are due. -/
def Showing.attend (timeline : Timeline) (before : Nat) (showing : Showing) : Showing :=
  let now := showing.world.now
  let count := timeline.tablesDue now - timeline.tablesDue before
  let due := showing.cues.takeWhile (·.moment ≤ now)
  { world := due.foldl (fun world cue => cue.act world) showing.world
    cues := showing.cues.drop due.length
    tables := List.replicate count showing.world.fleet.snapshot.table ++ showing.tables }

/-- The next moment at which something is due, if it is still to be played. -/
def Showing.next? (timeline : Timeline) (showing : Showing) : Option Nat :=
  let world := showing.world
  let moments := (showing.cues.map (·.moment)) ++ (timeline.nextTable? world.now).toList
    ++ world.dueTimes
  (moments.filter fun moment => world.now < moment && moment ≤ timeline.limit).min?

/-- Play on until the run is over or nothing is due any more. -/
def Showing.playOn (timeline : Timeline) : Nat → Showing → Showing
  | 0, showing => showing
  | fuel + 1, showing =>
      let world := showing.world.play
      let showing := { showing with world := world }
      if world.run.report?.isSome then showing
      else
        match showing.next? timeline with
        | none => showing
        | some moment =>
            playOn timeline fuel
              (Showing.attend timeline world.now
                { showing with world := { world with now := moment } })

/-- How a run ended, if it did, and all that was printed. -/
structure Outcome where
  world : World
  report : Option Supervisor.RunReport
  output : String

/-- Tables with an empty line behind each. -/
def printed (tables : List String) : String :=
  String.join (tables.map (· ++ "\n"))

/-- Play a run from its start.  What is bound to happen at once does so when the
run has started.  There is at most one moment to each millisecond. -/
def play (timeline : Timeline) (world : World) : Outcome :=
  let started := Showing.attend timeline 0 { world := world.start.play, cues := timeline.cues }
  let showing := Showing.playOn timeline (timeline.limit + 1) started
  let tables := showing.tables.reverse
  match showing.world.run.report? with
  | some report =>
      { world := showing.world
        report := some report
        output := printed (tables ++ [report.snapshot.table]) }
  | none => { world := showing.world, report := none, output := printed tables }

end Timeline

end PortTunnel.Rehearsal
