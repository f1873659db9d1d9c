/-!
# Paths into a document

Problems with a YAML document are reported with the path of the value that has
them, such as `environments.dev.namespaces.web.forwards[0].kind`.
-/

namespace PortTunnel.Schema

/-- One step from a collection to a value in it. -/
inductive PathStep where
  | key (name : String)
  | index (number : Nat)
  /-- The value of a key that is no scalar. -/
  | unknown
  deriving DecidableEq, Repr

/-- The steps to a value, the last one first. -/
abbrev Path := List PathStep

/-- A path as text; the root is a point. -/
def Path.text : Path → String
  | [] => "."
  | .index number :: parent => Path.text parent ++ "[" ++ number.repr ++ "]"
  | .key name :: parent =>
      (if parent.isEmpty then "" else Path.text parent ++ ".") ++ name
  | .unknown :: parent =>
      (if parent.isEmpty then "" else Path.text parent ++ ".") ++ "?"

/-- A message with the path in front of it, unless it concerns the root. -/
def Path.locate (path : Path) (message : String) : String :=
  if path.text == "." then message else path.text ++ ": " ++ message

end PortTunnel.Schema
