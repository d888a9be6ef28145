namespace ConsensusControl

namespace Text

/-- A set of code points, as closed ranges in ascending order. -/
abbrev CodePoints := List (Nat × Nat)

namespace CodePoints

def contains (ranges : CodePoints) (c : Char) : Bool :=
  ranges.any fun (first, last) => decide (first ≤ c.toNat ∧ c.toNat ≤ last)

/-- No range is empty, and they follow one another with gaps in between. -/
def isAscending : CodePoints → Bool
  | (a, b) :: (c, d) :: rest => decide (a ≤ b ∧ b + 1 < c) && isAscending ((c, d) :: rest)
  | [(a, b)] => decide (a ≤ b)
  | [] => true

end CodePoints

end Text

end ConsensusControl
