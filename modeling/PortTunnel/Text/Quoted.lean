import PortTunnel.Text.Unprintable

/-!
# Quoted text in messages

A message that cites a text puts it in double quotes.  Quotes, backslashes and
the common controls are written with a backslash, and every other character
that could not be seen is written by its number, as in `\\u{301}`.
-/

namespace PortTunnel.Text

/-- The number of a character in lower-case hexadecimal digits. -/
def hexadecimal (number : Nat) : String :=
  String.ofList (Nat.toDigits 16 number)

/-- One character of a quoted text. -/
def quotedCharacter (character : Char) : String :=
  if character == '"' then "\\\""
  else if character == '\\' then "\\\\"
  else if character == '\t' then "\\t"
  else if character == '\n' then "\\n"
  else if character == '\r' then "\\r"
  else if character.toNat == 0 then "\\0"
  else if character.toNat < 0x20 || character.toNat == 0x7f || isUnprintable character then
    "\\u\x7b" ++ hexadecimal character.toNat ++ "\x7d"
  else character.toString

/-- A text in double quotes, written so that every character of it shows. -/
def quoted (text : String) : String :=
  "\"" ++ String.join (text.toList.map quotedCharacter) ++ "\""

end PortTunnel.Text
