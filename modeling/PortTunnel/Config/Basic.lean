import PortTunnel.Address.Basic
import PortTunnel.NameMap

/-!
# Configurations

A configuration declares environments.  An environment says which cluster to
reach, and in each of its namespaces which ports of which resources to forward.
It may build on another environment, its parent.

Declarations are kept as they were written: kinds are words and ports are whole
numbers of any size.  They are checked in one place, when an environment is
resolved into forwards.
-/

namespace PortTunnel

namespace Config

/-- The newest version of the format that is understood. -/
def newestVersion : UInt32 := 1

/-- How persistent forwards are. -/
structure Settings where
  /-- The ceiling of the first delay before a retry, in milliseconds. -/
  initialDelayMs : UInt64 := 1000
  /-- The ceiling that no delay exceeds, in milliseconds. -/
  maxDelayMs : UInt64 := 30000
  /-- The number of failures in a row that a forward survives, if bounded. -/
  maxRetries : Option UInt32 := none
  /-- How long forwards may take to close, in milliseconds. -/
  shutdownGraceMs : UInt64 := 5000
  deriving DecidableEq, Repr, Inhabited

/-- Where forwards connect to and where they listen; what is not set here is set
elsewhere. -/
structure Target where
  /-- The path of the file that describes clusters. -/
  kubeconfig : Option String := none
  /-- The name of the context in that file. -/
  context : Option String := none
  /-- The local address. -/
  bindAddress : Option Octets := none
  deriving DecidableEq, Repr, Inhabited

/-- The fields of `upper` over those of `lower`. -/
def Target.merged (lower upper : Target) : Target where
  kubeconfig := upper.kubeconfig.or lower.kubeconfig
  context := upper.context.or lower.context
  bindAddress := upper.bindAddress.or lower.bindAddress

@[simp]
theorem Target.merged_blank (target : Target) : target.merged {} = target := by
  simp [Target.merged]

@[simp]
theorem Target.blank_merged (target : Target) : Target.merged {} target = target := by
  simp [Target.merged]

/-- A local port and the port of the resource that it leads to. -/
structure PortPair where
  localPort : Int64
  remotePort : Int64
  /-- The local address, if it is not that of the environment. -/
  bindAddress : Option Octets := none
  deriving DecidableEq, Repr

/-- The declaration of forwards to one resource. -/
structure Declaration where
  kind : String
  name : String
  /-- The container in which named ports are looked up. -/
  container : Option String := none
  ports : List PortPair := []
  deriving DecidableEq, Repr

/-- A cluster, and what to forward from it. -/
structure Environment where
  /-- The environment that this one builds on. -/
  parent : Option String := none
  description : Option String := none
  target : Target := {}
  namespaces : NameMap (List Declaration) := .empty
  deriving DecidableEq

instance : Inhabited Environment := ⟨{}⟩

end Config

/-- A configuration. -/
structure Config where
  version : UInt32 := Config.newestVersion
  settings : Config.Settings := {}
  /-- What holds for environments that do not say otherwise. -/
  defaults : Config.Target := {}
  environments : NameMap Config.Environment := .empty
  deriving DecidableEq

namespace Config

instance : Inhabited Config := ⟨{}⟩

end Config

end PortTunnel
