/-!
# Runs of characters

A Unicode property is a set of code points. It is written down as an increasing list of runs, and
`Runs.contains` decides membership: it gives up at the first run that starts beyond the code point.
-/

namespace GoFixtures.Text

/-- The code points `first`, `first + stride`, `first + 2 * stride`, … up to `last`. -/
structure Run where
  first : Nat
  last : Nat
  stride : Nat
deriving DecidableEq

namespace Run

/-- Whether the run holds the code point. -/
def contains (r : Run) (n : Nat) : Bool :=
  decide (r.first ≤ n) && decide (n ≤ r.last) && (n - r.first) % r.stride == 0

end Run

namespace Runs

/-- Whether one of the runs holds the code point; the runs stand in the order of their first code
points. -/
def contains : List Run → Nat → Bool
  | [], _ => false
  | r :: rs, n => if n < r.first then false else r.contains n || contains rs n

end Runs

end GoFixtures.Text
