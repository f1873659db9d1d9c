import PortTunnel.Number.Power

/-!
# Uniform draws

A number from zero to a limit is drawn from random words of 64 bits.  A word is
multiplied by the number of outcomes; the high half of the product is the
outcome and the low half decides whether the word is accepted, so that all
outcomes have the same number of accepted words.
-/

namespace PortTunnel.Retry

/-- The number of words of 64 bits. -/
def wordCount : Nat := Number.twoTo 64

/-- The number of zeros in front of the first digit of a positive word. -/
def leadingZeros (word : Nat) : Nat :=
  63 - word.log2

/-- The greatest low half that is accepted for a number of outcomes. -/
def zone (outcomes : Nat) : Nat :=
  outcomes * Number.twoTo (leadingZeros outcomes) % wordCount - 1

/-- The outcome of a word, up to and including `limit`; none if the word is to
be replaced by another. -/
def outcome? (limit word : UInt64) : Option UInt64 :=
  let outcomes := limit.toNat + 1
  if outcomes = wordCount then some word
  else
    let product := word.toNat * outcomes
    if product % wordCount ≤ zone outcomes then some (UInt64.ofNat (product / wordCount)) else none

/-- The outcome of the first accepted word, and how many words were drawn.  When
the given words are used up, zero is drawn. -/
def draw (limit : UInt64) : List UInt64 → UInt64 × Nat
  | [] => (0, 1)
  | word :: rest =>
      match outcome? limit word with
      | some outcome => (outcome, 1)
      | none =>
          let (outcome, count) := draw limit rest
          (outcome, count + 1)

end PortTunnel.Retry
