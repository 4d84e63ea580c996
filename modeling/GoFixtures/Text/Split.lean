/-!
# Parts of a sequence

What stands between the marks of a sequence, and a sequence without what does not count at its ends.

* `split` gives one part more than there are marks, empty ones among them.
* `trim` takes away from both ends.
-/

namespace GoFixtures.Text

variable {α : Type} [DecidableEq α]

/-- The parts between marks. -/
def split (mark : α) : List α → List (List α)
  | [] => [[]]
  | a :: as =>
    if a = mark then [] :: split mark as
    else
      match split mark as with
      | [] => [[a]]
      | part :: parts => (a :: part) :: parts

/-- A sequence without the ends that satisfy a condition. -/
def trim (p : α → Bool) (as : List α) : List α := ((as.dropWhile p).reverse.dropWhile p).reverse

end GoFixtures.Text
