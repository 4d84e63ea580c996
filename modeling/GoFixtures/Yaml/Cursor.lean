/-!
# Places in a document

A cursor stands between two characters of a document and knows its line and column. A byte order mark takes up
no column.

* `next`, `skip` and `skipWhile` go on, and count lines and columns.
-/

namespace GoFixtures.Yaml

/-- A character that ends a line. Carriage returns are line feeds before a document is looked at. -/
def isBreak (c : Char) : Bool := c = '\n' || c = '\x85' || c = '\u2028' || c = '\u2029'

/-- The character that a line break becomes in a scalar. -/
def breakValue (c : Char) : Char := if c = '\x85' then '\n' else c

/-- A space or a tab. -/
def isBlank (c : Char) : Bool := c = ' ' || c = '\t'

/-- Whether a token ends here: at a blank, at a line break, or at the end of the document. -/
def isSeparator : Option Char → Bool
  | none => true
  | some c => isBlank c || isBreak c

/-- Whether the line ends here, or has a space. -/
def isSpaceOrEnd : Option Char → Bool
  | none => true
  | some c => c = ' ' || isBreak c

/-- Whether the line ends here. -/
def isLineEnd : Option Char → Bool
  | none => true
  | some c => isBreak c

/-- Whether a line begins with the given marker between documents. -/
def startsWithMarker (mark : Char) : List Char → Bool
  | a :: b :: c :: rest => a = mark && b = mark && c = mark && isSeparator rest.head?
  | _ => false

/-- Whether a line begins with a marker between documents. -/
def startsDocument (line : List Char) : Bool := startsWithMarker '-' line || startsWithMarker '.' line

/-- A place in a document; lines and columns count from zero. -/
structure Cursor where
  rest : List Char
  offset : Nat
  line : Nat
  column : Nat

namespace Cursor

/-- The beginning of a document. -/
def start (text : List Char) : Cursor := ⟨text, 0, 0, 0⟩

/-- The next character. -/
def peek (c : Cursor) : Option Char := c.rest.head?

/-- The character behind the next one. -/
def peekSecond (c : Cursor) : Option Char := c.rest.tail.head?

/-- The place behind the next character. -/
def next (c : Cursor) : Cursor :=
  match c.rest with
  | [] => c
  | x :: rest =>
    if isBreak x then ⟨rest, c.offset + 1, c.line + 1, 0⟩
    else ⟨rest, c.offset + 1, c.line, if x = '\ufeff' then c.column else c.column + 1⟩

/-- The place behind the next `n` characters. -/
def skip (c : Cursor) : Nat → Cursor
  | 0 => c
  | n + 1 => c.next.skip n

/-- How many of the next characters satisfy a condition without a gap. -/
def run (p : Char → Bool) (c : Cursor) : Nat := (c.rest.takeWhile p).length

/-- The place behind characters that satisfy a condition. -/
def skipWhile (p : Char → Bool) (c : Cursor) : Cursor := c.skip (c.run p)

/-- The next `n` characters. -/
def text (c : Cursor) (n : Nat) : List Char := c.rest.take n

/-- The place behind a line break, if there is one. -/
def skipBreak (c : Cursor) : Cursor :=
  match c.peek with
  | some x => if isBreak x then c.next else c
  | none => c

/-- The place behind a comment, if one begins here. -/
def skipComment (c : Cursor) : Cursor :=
  if c.peek = some '#' then c.skipWhile fun x => !isBreak x else c

end Cursor

end GoFixtures.Yaml
