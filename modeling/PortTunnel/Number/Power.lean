/-!
# Powers

Words of some bits hold as many values as a power of two, and the places of a
decimal are powers of ten.
-/

namespace PortTunnel.Number

/-- A power of two. -/
def twoTo (exponent : Nat) : Nat :=
  Nat.pow 2 exponent

/-- A power of ten. -/
def tenTo (exponent : Nat) : Nat :=
  Nat.pow 10 exponent

/-- The number of values of a word of 64 bits. -/
theorem twoTo_sixtyFour : twoTo 64 = 18446744073709551616 :=
  rfl

end PortTunnel.Number
