import GoFixtures.Yaml.Error

/-!
# Block scalars

The indented lines behind a header. A literal scalar keeps its line breaks; a folded one turns the break
between two lines of text into a space. The header may say how far the lines are indented and what becomes of
the breaks at the end.
-/

namespace GoFixtures.Yaml

/-- What becomes of the line breaks at the end: none is kept, one is, or all are. -/
inductive Chomping
  | strip | clip | keep
deriving DecidableEq

/-- What a header says. -/
structure BlockHeader where
  chomping : Chomping
  indentation : Option Nat

namespace BlockHeader

/-- The indicator for line breaks at the end. -/
def chomping? (c : Char) : Option Chomping :=
  if c = '+' then some .keep else if c = '-' then some .strip else none

/-- The indicator for the indentation. -/
def indentation? (c : Char) : Option Nat :=
  if c.isDigit then some (c.toNat - 0x30) else none

/-- The indicators behind the beginning of a header, in either order, and how many there are. -/
def ofChars : List Char → BlockHeader × Nat
  | [] => (⟨.clip, none⟩, 0)
  | a :: cs =>
    match chomping? a, indentation? a with
    | some ch, _ =>
      match cs.head?.bind indentation? with
      | some n => (⟨ch, some n⟩, 2)
      | none => (⟨ch, none⟩, 1)
    | none, some n =>
      match cs.head?.bind chomping? with
      | some ch => (⟨ch, some n⟩, 2)
      | none => (⟨.clip, some n⟩, 1)
    | none, none => (⟨.clip, none⟩, 0)

end BlockHeader

/-- The line breaks before the first line of text, how far the lines up to it are indented at most, and how
many characters that are. -/
def leadingLines (column : Nat) : List Char → List Char × Nat × Nat
  | [] => ([], 0, 0)
  | c :: cs =>
    if c = ' ' then
      let (breaks, deepest, n) := leadingLines (column + 1) cs
      (breaks, max deepest (column + 1), n + 1)
    else if isBreak c then
      let (breaks, deepest, n) := leadingLines 0 cs
      (breakValue c :: breaks, deepest, n + 1)
    else ([], 0, 0)

/-- The line breaks before the next line of text, where as many spaces as the lines are indented are left out,
and how many characters that are. -/
def blankLines (indent column : Nat) : List Char → List Char × Nat
  | [] => ([], 0)
  | c :: cs =>
    if c = ' ' && column < indent then
      let (breaks, n) := blankLines indent (column + 1) cs
      (breaks, n + 1)
    else if isBreak c then
      let (breaks, n) := blankLines indent 0 cs
      (breakValue c :: breaks, n + 1)
    else ([], 0)

/-- Lines of text: their text, the break behind the last one, the empty lines behind that, and the place
behind. -/
structure BlockLines where
  text : List Char
  lastBreak : List Char
  trailing : List Char
  behind : Cursor

/-- Whether there is a line of text here that belongs to the scalar. -/
def isTextLine (indent : Nat) (c : Cursor) : Bool := c.column = indent && c.peek.isSome

/-- Reads lines of text; `breaks` are the empty lines before, and `rounds` bounds the number of lines. -/
def blockLines (isFolded : Bool) (indent : Nat) : Nat → List Char → Cursor → BlockLines
  | 0, breaks, c => ⟨[], [], breaks, c⟩
  | rounds + 1, breaks, c =>
    if !isTextLine indent c then ⟨[], [], breaks, c⟩
    else
      let n := c.run fun x => !isBreak x
      let lineEnd := c.skip n
      let lastBreak := (lineEnd.peek.map breakValue).toList
      let nextLine := lineEnd.skipBreak
      let (trailing, k) := blankLines indent nextLine.column nextLine.rest
      let behind := nextLine.skip k
      if isTextLine indent behind then
        let isText (x : Option Char) : Bool := !x.any isBlank
        let joint :=
          if isFolded && lastBreak = ['\n'] && isText c.peek && isText behind.peek then
            if trailing.isEmpty then [' '] else []
          else lastBreak
        let more := blockLines isFolded indent rounds trailing behind
        { more with text := breaks ++ c.text n ++ joint ++ more.text }
      else ⟨breaks ++ c.text n, lastBreak, trailing, behind⟩

/-- The text of a block scalar, and the place behind it. The cursor stands at the indicator that begins the
header; the scalar is part of a block that is indented by `outer` columns. -/
def blockScalar (outer : Int) (c : Cursor) : Except Error (List Char × Cursor) :=
  let isFolded := c.peek = some '>'
  let (header, n) := BlockHeader.ofChars c.rest.tail
  let header' := c.skip (n + 1)
  let lineEnd := (header'.skipWhile fun x => x = ' ').skipComment
  if header.indentation = some 0 || !isSpaceOrEnd header'.peek || !isLineEnd lineEnd.peek then
    .error (.here .badHeader lineEnd)
  else
    let first := lineEnd.skipBreak
    let least := max (outer + 1).toNat 1
    let (indent, breaks, k) :=
      match header.indentation with
      | some n =>
        let indent := least + n - 1
        let (breaks, k) := blankLines indent first.column first.rest
        (indent, breaks, k)
      | none =>
        let (breaks, deepest, k) := leadingLines first.column first.rest
        (max least deepest, breaks, k)
    let lines := blockLines isFolded indent (c.rest.length + 1) breaks (first.skip k)
    let ending :=
      match header.chomping with
      | .strip => []
      | .clip => lines.lastBreak
      | .keep => lines.lastBreak ++ lines.trailing
    .ok (lines.text ++ ending, lines.behind)

end GoFixtures.Yaml
