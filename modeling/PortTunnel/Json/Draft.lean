import PortTunnel.Json.Value

/-!
# Drafts: what a text yields before it breaks

Documents are read from front to back, and the first thing that is wrong with
one is reported, be it a value of the wrong kind or a break in the grammar.  So
the reader of the grammar cannot simply refuse a text: it yields a *draft*, the
value as far as it goes, with the place marked where the text breaks.  Whoever
reads the draft in document order then meets the faults in document order.

Some texts are faulty only for one who reads them: a lone surrogate in a string
or a number that is out of range may be skipped.  A number or string that ends
early may differ in its fault between reading and skipping.  A break therefore
carries both faults.
-/

namespace PortTunnel.Json

/-- Why a text is not JSON. -/
inductive Fault where
  /-- The grammar is violated. -/
  | malformed
  /-- The text ends too early. -/
  | truncated
  deriving DecidableEq, Repr, Inhabited

/-- The faults met by one who reads a broken place and by one who skips it. -/
structure Breakage where
  reading : Fault
  skipping : Fault
  deriving DecidableEq, Repr, Inhabited

/-- A break that is the same for everybody. -/
def Breakage.plain (fault : Fault) : Breakage := ⟨fault, fault⟩

/-- A value, or as much of it as precedes a break. -/
inductive Draft where
  | null
  | bool (truth : Bool)
  | integer (number : Int)
  | real (numeral : Number.Numeral)
  | text (content : String)
  /-- A string with a lone surrogate: no text, but well-formed enough to skip. -/
  | unpaired
  | array (items : List Draft) (ending : Option Breakage)
  /-- A name is missing where it holds a lone surrogate. -/
  | object (members : List (Option String × Draft)) (ending : Option Breakage)
  | broken (breakage : Breakage)
  deriving Repr, Inhabited

namespace Draft

mutual

/-- The fault met by one who skips a value, if any. -/
def skipped : Draft → Option Fault
  | array items ending =>
      match skippedItems items with
      | some fault => some fault
      | none => ending.map (·.skipping)
  | object members ending =>
      match skippedMembers members with
      | some fault => some fault
      | none => ending.map (·.skipping)
  | broken breakage => some breakage.skipping
  | null | bool _ | integer _ | real _ | text _ | unpaired => none

/-- The first fault among items. -/
def skippedItems : List Draft → Option Fault
  | [] => none
  | item :: rest =>
      match skipped item with
      | some fault => some fault
      | none => skippedItems rest

/-- The first fault among members. -/
def skippedMembers : List (Option String × Draft) → Option Fault
  | [] => none
  | (_, value) :: rest =>
      match skipped value with
      | some fault => some fault
      | none => skippedMembers rest

end

mutual

/-- The draft of a whole value. -/
def ofValue : Value → Draft
  | .null => null
  | .bool truth => bool truth
  | .integer number => integer number
  | .real numeral => real numeral
  | .text content => text content
  | .array items => array (ofItems items) none
  | .object members => object (ofMembers members) none

/-- The drafts of items. -/
def ofItems : List Value → List Draft
  | [] => []
  | item :: rest => ofValue item :: ofItems rest

/-- The drafts of members. -/
def ofMembers : List (String × Value) → List (Option String × Draft)
  | [] => []
  | (name, value) :: rest => (some name, ofValue value) :: ofMembers rest

end

mutual

/-- The value that a draft without breaks is a draft of. -/
def value? : Draft → Option Value
  | null => some .null
  | bool truth => some (.bool truth)
  | integer number => some (.integer number)
  | real numeral => some (.real numeral)
  | text content => some (.text content)
  | array items none => (values? items).map .array
  | object members none => (memberValues? members).map .object
  | array _ (some _) | object _ (some _) | unpaired | broken _ => none

/-- The values of items. -/
def values? : List Draft → Option (List Value)
  | [] => some []
  | item :: rest => do return (← value? item) :: (← values? rest)

/-- The values of members. -/
def memberValues? : List (Option String × Draft) → Option (List (String × Value))
  | [] => some []
  | (name, value) :: rest => do
      return (← name, ← value? value) :: (← memberValues? rest)

end

end Draft

end PortTunnel.Json
