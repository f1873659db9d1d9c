import PortTunnel.Address.Text
import PortTunnel.Config.Basic
import PortTunnel.Json.Value

/-!
# Configurations as JSON

Fields that may be absent are left out when they are.
-/

namespace PortTunnel.Config

/-- The members for a field that may be absent. -/
def presentMember {α : Type} (name : String) (toJson : α → Json.Value) :
    Option α → List (String × Json.Value)
  | some value => [(name, toJson value)]
  | none => []

/-- A natural number as JSON. -/
def naturalJson (number : Nat) : Json.Value :=
  .integer number

/-- An address of version four as JSON. -/
def octetsJson (octets : Octets) : Json.Value :=
  .text octets.text

/-- Settings as JSON. -/
def Settings.toJson (settings : Settings) : Json.Value :=
  .object
    ([("initialDelayMs", naturalJson settings.initialDelayMs.toNat),
        ("maxDelayMs", naturalJson settings.maxDelayMs.toNat)]
      ++ presentMember "maxRetries" (fun number => naturalJson number.toNat) settings.maxRetries
      ++ [("shutdownGraceMs", naturalJson settings.shutdownGraceMs.toNat)])

/-- The members for a target. -/
def Target.members (target : Target) : List (String × Json.Value) :=
  presentMember "kubeconfig" .text target.kubeconfig
    ++ presentMember "context" .text target.context
    ++ presentMember "bindAddress" octetsJson target.bindAddress

/-- A port pair as JSON. -/
def PortPair.toJson (pair : PortPair) : Json.Value :=
  .object
    ([("localPort", .integer pair.localPort.toInt), ("remotePort", .integer pair.remotePort.toInt)]
      ++ presentMember "bindAddress" octetsJson pair.bindAddress)

/-- A declaration as JSON. -/
def Declaration.toJson (declaration : Declaration) : Json.Value :=
  .object
    ([("kind", .text declaration.kind), ("name", .text declaration.name)]
      ++ presentMember "container" .text declaration.container
      ++ [("ports", .array (declaration.ports.map PortPair.toJson))])

/-- The declarations of a namespace as JSON. -/
def namespaceJson (declarations : List Declaration) : Json.Value :=
  .object [("forwards", .array (declarations.map Declaration.toJson))]

/-- A map from names as JSON. -/
def mapJson {α : Type} (toJson : α → Json.Value) (map : NameMap α) : Json.Value :=
  .object (map.toList.map fun entry => (entry.1, toJson entry.2))

/-- An environment as JSON. -/
def Environment.toJson (environment : Environment) : Json.Value :=
  .object
    (presentMember "extends" .text environment.parent
      ++ presentMember "description" .text environment.description
      ++ environment.target.members
      ++ [("namespaces", mapJson namespaceJson environment.namespaces)])

/-- A configuration as JSON. -/
def toJson (config : Config) : Json.Value :=
  .object
    [("version", naturalJson config.version.toNat),
      ("settings", config.settings.toJson),
      ("defaults", .object config.defaults.members),
      ("environments", mapJson Environment.toJson config.environments)]

end PortTunnel.Config
