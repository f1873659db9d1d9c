import PortTunnel.Address.Text
import PortTunnel.Forward.Kind

/-!
# Forwards

A forward leads from a port of this machine to a port of a resource in a
cluster.  Its id names both ends but for the local address: two forwards that
differ only there would compete for the port.
-/

namespace PortTunnel

/-- The remote end of a forward. -/
structure Destination where
  context : String
  space : String
  kind : ResourceKind
  name : String
  port : UInt16
  /-- The container in which named ports are looked up. -/
  container : Option String
  deriving DecidableEq, Repr

/-- The text of a destination, which leaves the container out. -/
def Destination.text (destination : Destination) : String :=
  destination.context ++ "/" ++ destination.space ++ "/" ++ destination.kind.name ++ "/"
    ++ destination.name ++ ":" ++ destination.port.toNat.repr

/-- A forward.  `space` is the namespace of the resource. -/
structure Forward where
  context : String
  space : String
  kind : ResourceKind
  name : String
  localPort : UInt16
  remotePort : UInt16
  bindAddress : Address
  /-- The container in which named ports are looked up. -/
  container : Option String
  deriving DecidableEq

namespace Forward

instance : Inhabited Forward := ⟨"", "", .pod, "", 0, 0, default, none⟩

/-- The two ends of a forward, within a scope. -/
def label (scope : String) (forward : Forward) : String :=
  scope ++ "/" ++ forward.space ++ "/" ++ forward.kind.name ++ "/" ++ forward.name ++ ":"
    ++ forward.localPort.toNat.repr ++ "->" ++ forward.remotePort.toNat.repr

/-- The id of a forward. -/
def id (forward : Forward) : String :=
  forward.label forward.context

/-- Where a forward listens. -/
def localEndpoint (forward : Forward) : Endpoint :=
  ⟨forward.bindAddress, forward.localPort⟩

/-- The remote end of a forward. -/
def destination (forward : Forward) : Destination where
  context := forward.context
  space := forward.space
  kind := forward.kind
  name := forward.name
  port := forward.remotePort
  container := forward.container

end Forward

end PortTunnel
