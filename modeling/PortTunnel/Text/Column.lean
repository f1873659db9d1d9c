/-!
# Columns of a table

Tables are laid out in columns of a least width.  The width of a cell is its
number of characters, and a cell that is too wide is kept whole, so a row never
loses text.
-/

namespace PortTunnel.Text

/-- The blanks that a cell of `length` characters lacks in a column of `width`. -/
def filling (width length : Nat) : List Char :=
  List.replicate (width - length) ' '

/-- Set a cell flush left. -/
def flushLeft (width : Nat) (cell : String) : String :=
  cell ++ String.ofList (filling width cell.length)

/-- Set a cell flush right. -/
def flushRight (width : Nat) (cell : String) : String :=
  String.ofList (filling width cell.length) ++ cell

end PortTunnel.Text
