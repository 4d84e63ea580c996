/-!
# Positions in a source text

A position is a line and a column, both counted from one. `Position.after` is where a reader stands
who has read the given characters.
-/

namespace GoFixtures.Go

/-- The place of a character: its line, and its column among the characters of that line. -/
structure Position where
  line : Nat
  column : Nat
deriving DecidableEq, Inhabited

namespace Position

/-- The place of the first character. -/
def start : Position := ⟨1, 1⟩

/-- The place behind one character. -/
def next (p : Position) (c : Char) : Position :=
  if c = '\n' then ⟨p.line + 1, 1⟩ else ⟨p.line, p.column + 1⟩

/-- The place behind a run of characters. -/
def after (p : Position) (text : List Char) : Position :=
  text.foldl next p

variable {p : Position} {s t : List Char}

@[simp]
theorem after_nil : p.after [] = p := rfl

@[simp]
theorem after_cons {c : Char} : p.after (c :: s) = (p.next c).after s := rfl

theorem after_append : p.after (s ++ t) = (p.after s).after t :=
  List.foldl_append

end Position

end GoFixtures.Go
