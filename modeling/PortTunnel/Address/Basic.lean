/-!
# Network addresses

A forward listens on an address of version four or six.  An address of version
four is four octets; one of version six is eight groups of sixteen bits.
-/

namespace PortTunnel

/-- An address of version four. -/
structure Octets where
  first : UInt8
  second : UInt8
  third : UInt8
  fourth : UInt8
  deriving DecidableEq, Repr, Inhabited

/-- An address of version six. -/
structure Groups where
  toList : List UInt16
  length_eq : toList.length = 8
  deriving DecidableEq

/-- An address of either version. -/
inductive Address where
  | v4 (octets : Octets)
  | v6 (groups : Groups)
  deriving DecidableEq

namespace Octets

/-- The address that reaches only this machine. -/
def loopback : Octets := ⟨127, 0, 0, 1⟩

/-- The address that stands for every address of this machine. -/
def unspecified : Octets := ⟨0, 0, 0, 0⟩

end Octets

namespace Groups

/-- The groups of a list, cut or filled with zeros to eight. -/
def ofList (groups : List UInt16) : Groups :=
  ⟨(groups ++ List.replicate 8 0).take 8, by simp [List.length_take]⟩

instance : Inhabited Groups := ⟨ofList []⟩

end Groups

namespace Address

instance : Inhabited Address := ⟨.v4 .loopback⟩

/-- Whether an address stands for every address of this machine. -/
def isUnspecified : Address → Bool
  | .v4 octets => octets == .unspecified
  | .v6 groups => groups.toList.all (· == 0)

/-- Whether an address reaches only this machine: `127.0.0.0/8` and `::1`. -/
def isLoopback : Address → Bool
  | .v4 octets => octets.first == 127
  | .v6 groups => groups.toList == [0, 0, 0, 0, 0, 0, 0, 1]

end Address

/-- An address and a port on it. -/
structure Endpoint where
  address : Address
  port : UInt16
  deriving DecidableEq

end PortTunnel
