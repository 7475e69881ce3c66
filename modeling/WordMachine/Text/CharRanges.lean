/-! Sets of characters, given by closed ranges of their code points. -/
namespace WordMachine.Text

structure CharRanges where
  ranges : List (Nat × Nat)
  deriving DecidableEq, Repr

namespace CharRanges

def contains (rs : CharRanges) (c : Char) : Bool :=
  rs.ranges.any fun r => r.1 ≤ c.toNat && c.toNat ≤ r.2

end CharRanges
end WordMachine.Text
