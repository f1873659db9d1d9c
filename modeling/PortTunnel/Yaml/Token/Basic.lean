import PortTunnel.Yaml.Cursor

/-!
# Tokens of YAML

Tokens are the marks and the texts of a document, together with the starts and
ends of blocks that indentation implies.
-/

namespace PortTunnel.Yaml

/-- How a scalar is written. -/
inductive Style where
  | plain
  | singleQuoted
  | doubleQuoted
  | literal
  | folded
  deriving DecidableEq, Repr, Inhabited

/-- A token. -/
inductive Token where
  | streamStart
  | streamEnd
  | version (major minor : Nat)
  | tagDirective (handle stem : String)
  | documentStart
  | documentEnd
  | blockSequenceStart
  | blockMappingStart
  | blockEnd
  | flowSequenceStart
  | flowSequenceEnd
  | flowMappingStart
  | flowMappingEnd
  | blockEntry
  | flowEntry
  | key
  | value
  | alias (name : String)
  | anchor (name : String)
  | tag (handle suffix : String)
  | scalar (content : String) (style : Style)
  deriving DecidableEq, Repr, Inhabited

end PortTunnel.Yaml
