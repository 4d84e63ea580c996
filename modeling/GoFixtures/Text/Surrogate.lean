/-!
# Surrogates

A string is a sequence of code points. Surrogates are code points that are no characters: two of them make up
a pair, which stands for a character beyond the first plane, and one alone stands for nothing. A sequence of
code points with a surrogate in it is no text.

* `stringOfCodes?` makes a text of code points, `codesOf` gives the code points of a text.
* `Surrogate.replace` makes a text of any code points.
-/

namespace GoFixtures.Text

/-- Whether a number is the code point of a character. -/
def isScalar (code : Nat) : Bool := code < 0xd800 || (0xdfff < code && code < 0x110000)

theorem isScalar_toNat (c : Char) : isScalar c.toNat := by
  have h := c.valid
  have : c.toNat = c.val.toNat := rfl
  simp only [UInt32.isValidChar, Nat.isValidChar] at h
  simp only [isScalar, this, Bool.or_eq_true, decide_eq_true_eq, Bool.and_eq_true]
  omega

/-- The code points of a text. -/
def codesOf (s : String) : List Nat := s.toList.map Char.toNat

/-- The text that code points make up, if each of them is a character. -/
def stringOfCodes? (codes : List Nat) : Option String :=
  if codes.all isScalar then some (String.ofList (codes.map Char.ofNat)) else none

/-- A text is made of its code points. -/
theorem stringOfCodes?_codesOf (s : String) : stringOfCodes? (codesOf s) = some s := by
  have hall : (codesOf s).all isScalar := by
    rw [List.all_eq_true]
    intro n hn
    obtain ⟨c, -, rfl⟩ := List.mem_map.1 hn
    exact isScalar_toNat c
  have hchars : (codesOf s).map Char.ofNat = s.toList := by
    rw [codesOf, List.map_map]
    exact (List.map_congr_left fun c _ => Char.ofNat_toNat c).trans (List.map_id _)
  rw [stringOfCodes?, if_pos hall, hchars, String.ofList_toList]

namespace Surrogate

/-- Whether a code point is the first of a pair. -/
def isHigh (n : Nat) : Bool := 0xd800 ≤ n && n ≤ 0xdbff

/-- Whether a code point is the second of a pair. -/
def isLow (n : Nat) : Bool := 0xdc00 ≤ n && n ≤ 0xdfff

/-- The code point of a pair. -/
def pairValue (high low : Nat) : Nat := 0x10000 + (high - 0xd800) * 0x400 + (low - 0xdc00)

/-- The text that code points make up if each surrogate is replaced, three times, because three bytes would be
needed for it. -/
def replace (codes : List Nat) : String :=
  String.ofList (codes.flatMap fun n => if isScalar n then [Char.ofNat n] else ['\ufffd', '\ufffd', '\ufffd'])

end Surrogate

end GoFixtures.Text
