/-!
# Rehearsed channels

A channel of a rehearsal remembers what was written to it and yields what it has
been told to yield.
-/

namespace PortTunnel.Rehearsal

/-- A channel. -/
structure Channel where
  /-- Whether the channel returns what is written to it. -/
  echoes : Bool
  written : List UInt8 := []
  /-- Whether its write side has been shut. -/
  shut : Bool := false
  /-- Whether the program has let go of it. -/
  released : Bool := false
  /-- What can be read from it. -/
  readable : List UInt8 := []
  /-- Whether reading ends after that. -/
  ended : Bool := false
  /-- Why reading fails at once, if it does. -/
  broken : Option String := none
  /-- Whether writing fails. -/
  refusesWrites : Bool := false

/-- The outcome of an attempt to read. -/
inductive Reading where
  /-- There is nothing to read yet. -/
  | pending
  | bytes (bytes : List UInt8)
  | ended
  | failed (reason : String)

namespace Channel

/-- Read at most `limit` bytes. -/
def read (limit : Nat) (channel : Channel) : Reading × Channel :=
  match channel.broken with
  | some reason => (.failed reason, channel)
  | none =>
      if !channel.readable.isEmpty then
        (.bytes (channel.readable.take limit),
          { channel with readable := channel.readable.drop limit })
      else if channel.ended then (.ended, channel)
      else (.pending, channel)

/-- Write bytes. -/
def write (bytes : List UInt8) (channel : Channel) : Channel :=
  { channel with
    written := channel.written ++ bytes
    readable := if channel.echoes then channel.readable ++ bytes else channel.readable }

/-- Shut the write side. -/
def shutWrites (channel : Channel) : Channel :=
  { channel with shut := true, ended := channel.ended || channel.echoes }

/-- Let the cluster send bytes. -/
def send (bytes : List UInt8) (channel : Channel) : Channel :=
  { channel with readable := channel.readable ++ bytes }

end Channel

end PortTunnel.Rehearsal
