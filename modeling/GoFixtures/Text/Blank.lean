import GoFixtures.Text.Split

/-!
# White space

The characters that show nothing but room, in any script, and texts without them at their ends.
-/

namespace GoFixtures.Text

/-- A character of white space, a separator of records among them. -/
def isWhite (c : Char) : Bool :=
  c.toNat ∈ [0x09, 0x0a, 0x0b, 0x0c, 0x0d, 0x1c, 0x1d, 0x1e, 0x1f, 0x20, 0x85, 0xa0, 0x1680, 0x2028,
    0x2029, 0x202f, 0x205f, 0x3000] || (0x2000 ≤ c.toNat && c.toNat ≤ 0x200a)

/-- A string without the white space at its ends. -/
def strip (s : String) : String := String.ofList (trim isWhite s.toList)

end GoFixtures.Text
