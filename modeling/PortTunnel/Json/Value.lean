import PortTunnel.Number.Real

/-!
# JSON values and their text

A value is written in one of two forms: on one line without blanks, or spread
over lines and indented by two blanks a level.  The members of an object keep
their order.  Inside a text only quotes, backslashes and controls are escaped.
-/

namespace PortTunnel.Json

/-- A JSON value.  Whole numbers and reals are kept apart, as their texts are. -/
inductive Value where
  | null
  | bool (truth : Bool)
  | integer (number : Int)
  | real (numeral : Number.Numeral)
  | text (content : String)
  | array (items : List Value)
  | object (members : List (String × Value))
  deriving Repr, Inhabited

namespace Value

/-- A digit of a four-digit escape. -/
def hexDigit (number : Nat) : Char :=
  (Nat.toDigits 16 (number % 16)).headD '0'

/-- One character inside a text. -/
def escapeCharacter (character : Char) : List Char :=
  if character == '"' then ['\\', '"']
  else if character == '\\' then ['\\', '\\']
  else if character == '\n' then ['\\', 'n']
  else if character == '\r' then ['\\', 'r']
  else if character == '\t' then ['\\', 't']
  else if character.toNat == 8 then ['\\', 'b']
  else if character.toNat == 12 then ['\\', 'f']
  else if character.toNat < 0x20 then
    ['\\', 'u', '0', '0', hexDigit (character.toNat / 16), hexDigit character.toNat]
  else [character]

/-- A text with its quotes. -/
def quote (content : String) : String :=
  String.ofList ('"' :: (content.toList.flatMap escapeCharacter ++ ['"']))

/-- A real, in the shortest form that reads back. -/
def realText (numeral : Number.Numeral) : String :=
  Number.Layout.scientific.text numeral.negative numeral.nearest

mutual

/-- A value on one line. -/
def compact : Value → String
  | null => "null"
  | bool true => "true"
  | bool false => "false"
  | integer number => number.repr
  | real numeral => realText numeral
  | text content => quote content
  | array items => "[" ++ compactItems items ++ "]"
  | object members => "\x7b" ++ compactMembers members ++ "\x7d"

/-- Items with commas between them. -/
def compactItems : List Value → String
  | [] => ""
  | [item] => compact item
  | item :: next :: rest => compact item ++ "," ++ compactItems (next :: rest)

/-- Members with commas between them. -/
def compactMembers : List (String × Value) → String
  | [] => ""
  | [(name, value)] => quote name ++ ":" ++ compact value
  | (name, value) :: next :: rest =>
      quote name ++ ":" ++ compact value ++ "," ++ compactMembers (next :: rest)

end

/-- A line break and the blanks of one level of indentation. -/
def lineBreak (depth : Nat) : String :=
  String.ofList ('\n' :: List.replicate (2 * depth) ' ')

mutual

/-- A value spread over lines; `depth` is the level it starts on. -/
def indented (depth : Nat) : Value → String
  | null => "null"
  | bool true => "true"
  | bool false => "false"
  | integer number => number.repr
  | real numeral => realText numeral
  | text content => quote content
  | array [] => "[]"
  | array (item :: rest) =>
      "[" ++ indentedItems (depth + 1) (item :: rest) ++ lineBreak depth ++ "]"
  | object [] => "\x7b\x7d"
  | object (member :: rest) =>
      "\x7b" ++ indentedMembers (depth + 1) (member :: rest) ++ lineBreak depth ++ "\x7d"

/-- Items on lines of their own. -/
def indentedItems (depth : Nat) : List Value → String
  | [] => ""
  | [item] => lineBreak depth ++ indented depth item
  | item :: next :: rest =>
      lineBreak depth ++ indented depth item ++ "," ++ indentedItems depth (next :: rest)

/-- Members on lines of their own. -/
def indentedMembers (depth : Nat) : List (String × Value) → String
  | [] => ""
  | [(name, value)] => lineBreak depth ++ quote name ++ ": " ++ indented depth value
  | (name, value) :: next :: rest =>
      lineBreak depth ++ quote name ++ ": " ++ indented depth value ++ "," ++
        indentedMembers depth (next :: rest)

end

/-- A value spread over lines, from the first column on. -/
def pretty (value : Value) : String :=
  indented 0 value

/-- The member of an object with a given name. -/
def member? (name : String) : Value → Option Value
  | object members => (members.find? (·.1 == name)).map (·.2)
  | _ => none

end Value

end PortTunnel.Json
