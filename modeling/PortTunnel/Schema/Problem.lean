import PortTunnel.Number.Real
import PortTunnel.Text.Quoted

/-!
# Problems with the content of a document

A document may be well formed and still not say what is asked of it: a value is
of the wrong type or out of range, a field is missing, unknown or given twice.
Each problem names what was found and what was expected.
-/

namespace PortTunnel.Schema

/-- A real as a document may write it. -/
inductive Floating where
  | finite (numeral : Number.Numeral)
  | infinite (negative : Bool)
  | notANumber
  deriving DecidableEq, Repr

/-- What was found in place of something else. -/
inductive Found where
  | nothing
  | bool (truth : Bool)
  | integer (number : Int)
  /-- A whole number that does not fit in 64 bits. -/
  | wideInteger (number : Int)
  | real (value : Floating)
  | text (content : String)
  | sequence
  | map
  deriving DecidableEq, Repr

/-- A problem with the content of a document. -/
inductive Problem where
  | wrongType (found : Found) (expected : String)
  | wrongValue (found : Found) (expected : String)
  | wrongLength (length : Nat) (expected : String)
  | unknownField (name : String) (known : List String)
  | unknownVariant (name : String) (known : List String)
  | missingField (name : String)
  | duplicateField (name : String)
  /-- A text that is no address of the named family. -/
  | badAddress (family : String)
  deriving DecidableEq, Repr

/-- How messages about one document format put things. -/
structure Vocabulary where
  /-- The word for the absence of a value. -/
  nothing : String
  /-- How reals are laid out. -/
  layout : Number.Layout
  /-- The magnitude that the format reads from a numeral. -/
  magnitude : Number.Numeral → Float

namespace Vocabulary

/-- The words used about JSON documents. -/
def json : Vocabulary :=
  { nothing := "null"
    layout := .scientific
    magnitude := fun numeral => numeral.roundedThenScaled?.getD 0.0 }

/-- The words used about YAML documents. -/
def yaml : Vocabulary :=
  { nothing := "unit value"
    layout := .positional
    magnitude := Number.Numeral.nearest }

end Vocabulary

/-- A name between backquotes. -/
def named (name : String) : String :=
  "`" ++ name ++ "`"

/-- The text of a real. -/
def Floating.describe (vocabulary : Vocabulary) : Floating → String
  | .finite numeral =>
      vocabulary.layout.text numeral.negative (vocabulary.magnitude numeral)
  | .infinite negative => if negative then "-inf" else "inf"
  | .notANumber => "NaN"

/-- The words for what was found. -/
def Found.describe (vocabulary : Vocabulary) : Found → String
  | .nothing => vocabulary.nothing
  | .bool truth => "boolean " ++ named (if truth then "true" else "false")
  | .integer number => "integer " ++ named number.repr
  | .wideInteger number =>
      "integer " ++ named number.repr ++ (if number < 0 then " as i128" else " as u128")
  | .real value => "floating point " ++ named (value.describe vocabulary)
  | .text content => "string " ++ Text.quoted content
  | .sequence => "sequence"
  | .map => "map"

/-- The words for the names that would have been right. -/
def alternatives (none : String) : List String → String
  | [] => ", " ++ none
  | [only] => ", expected " ++ named only
  | [first, second] => ", expected " ++ named first ++ " or " ++ named second
  | many => ", expected one of " ++ String.intercalate ", " (many.map named)

/-- The message about a problem. -/
def Problem.message (vocabulary : Vocabulary) : Problem → String
  | .wrongType found expected =>
      "invalid type: " ++ found.describe vocabulary ++ ", expected " ++ expected
  | .wrongValue found expected =>
      "invalid value: " ++ found.describe vocabulary ++ ", expected " ++ expected
  | .wrongLength length expected =>
      "invalid length " ++ length.repr ++ ", expected " ++ expected
  | .unknownField name known =>
      "unknown field " ++ named name ++ alternatives "there are no fields" known
  | .unknownVariant name known =>
      "unknown variant " ++ named name ++ alternatives "there are no variants" known
  | .missingField name => "missing field " ++ named name
  | .duplicateField name => "duplicate field " ++ named name
  | .badAddress family => "invalid " ++ family ++ " address syntax"

end PortTunnel.Schema
