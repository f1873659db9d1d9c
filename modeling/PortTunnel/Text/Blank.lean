/-!
# Blank text

Declarations are rejected when a name or a context is blank, that is, when it
holds nothing but white space.  White space is the Unicode property
`White_Space`, twenty-five code points in all, and not only the ASCII blanks
that the core library knows.
-/

namespace PortTunnel.Text

/-- The code points with the Unicode property `White_Space`. -/
def isBlank (character : Char) : Bool :=
  let code := character.toNat
  (0x09 ≤ code && code ≤ 0x0d) || code == 0x20 || code == 0x85 || code == 0xa0 ||
    code == 0x1680 || (0x2000 ≤ code && code ≤ 0x200a) || code == 0x2028 || code == 0x2029 ||
    code == 0x202f || code == 0x205f || code == 0x3000

/-- A text is blank when every character of it is white space; the empty text
is blank. -/
def blank (text : String) : Bool :=
  text.toList.all isBlank

@[simp]
theorem blank_empty : blank "" = true := by
  decide

end PortTunnel.Text
