import PortTunnel.Forward.Layout
import PortTunnel.Text.Column

/-!
# Plans

A plan shows the forwards of an environment, as a table for people or as JSON
for programs.
-/

namespace PortTunnel.Plan

/-- A row of the table. -/
def row (context space resource localEnd remoteEnd : String) : String :=
  Text.flushLeft 16 context ++ " " ++ Text.flushLeft 16 space ++ " "
    ++ Text.flushLeft 40 resource ++ " " ++ Text.flushLeft 22 localEnd ++ " " ++ remoteEnd ++ "\n"

/-- The row of a forward. -/
def forwardRow (forward : Forward) : String :=
  row forward.context forward.space (forward.kind.name ++ "/" ++ forward.name)
    forward.localEndpoint.text forward.remotePort.toNat.repr

/-- A plan as a table. -/
def table (forwards : List Forward) : String :=
  row "CONTEXT" "NAMESPACE" "TARGET" "LOCAL" "REMOTE PORT"
    ++ String.join (forwards.map forwardRow)

/-- A plan as JSON. -/
def json (forwards : List Forward) : String :=
  (Json.Value.array (forwards.map Forward.toJson)).pretty ++ "\n"

/-- A plan in the wanted form. -/
def text (asJson : Bool) (forwards : List Forward) : String :=
  if asJson then json forwards else table forwards

end PortTunnel.Plan
