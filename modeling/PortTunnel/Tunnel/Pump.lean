/-!
# Pumps

A pump moves bytes from one stream to another: it reads a chunk, writes all of
it, and reads again.  When the first stream ends it shuts the second one, and
then it is finished.  Whatever may happen to the two streams is a label, so the
possible runs of a pump are the sequences of labels that it can follow.
-/

namespace PortTunnel.Tunnel

/-- The greatest number of bytes that are read at once. -/
def chunkLimit : Nat := 32768

/-- The directions in which bytes are moved. -/
inductive Direction where
  /-- From the client to the cluster. -/
  | outbound
  /-- From the cluster to the client. -/
  | inbound
  deriving DecidableEq, Repr

/-- What a pump is doing. -/
inductive Pump where
  | reading
  /-- It writes a chunk of `size` bytes, of which `rest` is left. -/
  | writing (size : Nat) (rest : List UInt8)
  | shutting
  | finished
  deriving DecidableEq, Repr, Inhabited

namespace Pump

/-- What may happen to a pump. -/
inductive Label where
  | read (chunk : List UInt8)
  | readEnd
  | readFailed (reason : String)
  | wrote (bytes : List UInt8)
  | writeFailed (reason : String)
  /-- The second stream has been shut, or could not be. -/
  | shut
  deriving DecidableEq, Repr

/-- What a pump has come to. -/
inductive Outcome where
  /-- It goes on; `carried` bytes have been moved to the last. -/
  | continues (pump : Pump) (carried : Nat)
  | readBroke (reason : String)
  | writeBroke (reason : String)
  deriving DecidableEq, Repr

/-- Follow a label, if it can happen. -/
def step : Pump → Label → Option Outcome
  | reading, .read chunk =>
      if chunk.isEmpty || chunkLimit < chunk.length then none
      else some (.continues (writing chunk.length chunk) 0)
  | reading, .readEnd => some (.continues shutting 0)
  | reading, .readFailed reason => some (.readBroke reason)
  | writing size rest, .wrote bytes =>
      if bytes.isEmpty || !bytes.isPrefixOf rest then none
      else
        let left := rest.drop bytes.length
        if left.isEmpty then some (.continues reading size)
        else some (.continues (writing size left) 0)
  | writing _ _, .writeFailed reason => some (.writeBroke reason)
  | shutting, .shut => some (.continues finished 0)
  | _, _ => none

end Pump

end PortTunnel.Tunnel
