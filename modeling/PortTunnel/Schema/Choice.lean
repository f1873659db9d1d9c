import PortTunnel.Schema.Reader

/-!
# Choices

A choice is one of several named values.  In a document it is the name; in JSON
it may also be an object whose only member is the name with `null`.
-/

namespace PortTunnel.Schema.Reader

variable {α : Type}

/-- The value of a name. -/
def chosen (known : List String) (ofName? : String → Option α) (name : String) :
    Except Problem α :=
  match ofName? name with
  | some value => .ok value
  | none => .error (.unknownVariant name known)

/-- Read a choice that is written as an object. -/
def jsonChoice (known : List String) (ofName? : String → Option α) :
    List (Option String × Json.Draft) → Option Json.Breakage → Except JsonRefusal α
  | [(some name, payload)], none =>
      match chosen known ofName? name, payload with
      | .error problem, _ => .error (.problem problem)
      | .ok value, .null => .ok value
      | .ok _, payload => .error (jsonMismatch payload "unit")
  | (none, _) :: _, _ => .error (.fault .malformed)
  | _, some breakage => .error (.fault breakage.reading)
  | _, none => .error (.problem (.wrongValue .map "map with a single key"))

/-- A choice among the values that have names. -/
def choice (known : List String) (ofName? : String → Option α) : Reader α where
  json _
    | .text name =>
        match chosen known ofName? name with
        | .ok value => .ok value
        | .error problem => .error (.problem problem)
    | .object members ending => jsonChoice known ofName? members ending
    | draft => .error (jsonMismatch draft "string or map")
  yaml := yamlScalar "string or map" fun _ name _ => chosen known ofName? name

end PortTunnel.Schema.Reader
