import GoFixtures.Text.Letters
import GoFixtures.Text.Numerals
import GoFixtures.Text.Uppercase
import GoFixtures.Text.Unprintable

/-!
# Character classes

The classes that names, numbers and quotations are made of.
-/

namespace GoFixtures.Text

/-- A letter of any script. -/
def isLetter (c : Char) : Bool := Runs.contains letters c.toNat

/-- A decimal digit of any script, or a superscript, subscript or circled digit. -/
def isDigit (c : Char) : Bool := Runs.contains digits c.toNat

/-- A letter, or any character that has a numeric value. -/
def isAlphanumeric (c : Char) : Bool :=
  isLetter c || isDigit c || Runs.contains numerals c.toNat

/-- An uppercase character; a titlecase digraph is none. -/
def isUppercase (c : Char) : Bool := Runs.contains uppercase c.toNat

/-- Whether a quotation may show the code point as it is. -/
def isPrintable (n : Nat) : Bool := !Runs.contains unprintable n

variable {c : Char}

theorem isAlphanumeric_of_isLetter (h : isLetter c) : isAlphanumeric c := by
  simp [isAlphanumeric, h]

theorem isAlphanumeric_of_isDigit (h : isDigit c) : isAlphanumeric c := by
  simp [isAlphanumeric, h]

end GoFixtures.Text
