import PortTunnel.Forward.Basic
import PortTunnel.Schema.Choice
import PortTunnel.Schema.Record

/-!
# Forwards as JSON

Plans can be printed for other programs, and the forwards in them read again.
-/

namespace PortTunnel

open Schema

/-- A kind is written by its name. -/
def ResourceKind.reader : Reader ResourceKind :=
  .choice (all.map name) ofName?

namespace Forward

/-- A port. -/
def port : Reader UInt16 :=
  (Reader.unsigned 16 "u16").map UInt16.ofNat

/-- An address of either version. -/
def address : Reader Address :=
  Reader.formed "IP address" (.badAddress "IP") Address.ofText?

/-- All fields but the container are needed; other names are passed over. -/
def record : Record Forward where
  title := "struct ForwardSpec"
  blank := default
  fields :=
    [.of "context" true string fun value forward => { forward with context := value },
      .of "namespace" true string fun value forward => { forward with space := value },
      .of "kind" true ResourceKind.reader fun value forward => { forward with kind := value },
      .of "name" true string fun value forward => { forward with name := value },
      .of "localPort" true port fun value forward => { forward with localPort := value },
      .of "remotePort" true port fun value forward => { forward with remotePort := value },
      .of "bindAddress" true address fun value forward =>
        { forward with bindAddress := value },
      .of "container" false string.optional fun value forward =>
        { forward with container := value }]
  strict := false

/-- The members for a forward; the container is left out where there is none. -/
def members (forward : Forward) : List (String × Json.Value) :=
  [("context", .text forward.context), ("namespace", .text forward.space),
    ("kind", .text forward.kind.name), ("name", .text forward.name),
    ("localPort", .integer forward.localPort.toNat),
    ("remotePort", .integer forward.remotePort.toNat),
    ("bindAddress", .text forward.bindAddress.text)]
    ++ match forward.container with
      | some container => [("container", .text container)]
      | none => []

/-- A forward as JSON. -/
def toJson (forward : Forward) : Json.Value :=
  .object forward.members

end Forward

end PortTunnel
