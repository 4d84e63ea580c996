import GoFixtures.Yaml.Error

/-!
# Quoted scalars

A quoted scalar may go over several lines: white space at the break of a line becomes one space, and every
empty line a line feed. Between double quotes there are escapes, one of them for a line break that is to leave
no trace.

* `quotedScalar` reads a scalar from its opening quote on. It stops at the first thing that is wrong.
-/

namespace GoFixtures.Yaml

/-- White space of which it is not known yet what it stands for: blanks on a line, or line breaks with the
blanks around them. The first break is missing where it was escaped. -/
inductive WhiteSpace
  | blanks (cs : List Char)
  | breaks (first : Option Char) (more : List Char)

namespace WhiteSpace

/-- No white space. -/
def empty : WhiteSpace := blanks []

/-- One more blank; around a line break it does not count. -/
def addBlank (c : Char) : WhiteSpace → WhiteSpace
  | blanks cs => blanks (cs ++ [c])
  | breaks first more => breaks first more

/-- One more line break. -/
def addBreak (c : Char) : WhiteSpace → WhiteSpace
  | blanks _ => breaks (some (breakValue c)) []
  | breaks first more => breaks first (more ++ [breakValue c])

/-- What the white space stands for. -/
def folded : WhiteSpace → List Char
  | blanks cs => cs
  | breaks none more => more
  | breaks (some c) more => if c ≠ '\n' then c :: more else if more.isEmpty then [' '] else more

/-- The code points that the white space stands for. -/
def codes (w : WhiteSpace) : List Nat := w.folded.map Char.toNat

end WhiteSpace

/-- What has been read of a scalar: its code points, and the text behind the quote that closes it. -/
abbrev Quoted := Except Reason (List Nat × List Char)

/-- Puts code points before what has been read. -/
def prepend (codes : List Nat) (q : Quoted) : Quoted := q.map fun (more, rest) => (codes ++ more, rest)

/-- The code points of a scalar between single quotes; the text begins behind the opening one. -/
def readSingle (w : WhiteSpace) : List Char → Quoted
  | [] => .error .unclosedQuote
  | '\x27' :: '\x27' :: cs => prepend (w.codes ++ [0x27]) (readSingle .empty cs)
  | '\x27' :: cs => .ok (w.codes, cs)
  | c :: cs =>
    if isBreak c then
      if startsDocument cs then .error .documentInQuote else readSingle (w.addBreak c) cs
    else if isBlank c then readSingle (w.addBlank c) cs
    else prepend (w.codes ++ [c.toNat]) (readSingle .empty cs)

/-- The code point that a character behind a backslash stands for. -/
def escapedCode? (c : Char) : Option Nat :=
  match c with
  | '0' => some 0x00
  | 'a' => some 0x07
  | 'b' => some 0x08
  | 't' | '\t' => some 0x09
  | 'n' => some 0x0a
  | 'v' => some 0x0b
  | 'f' => some 0x0c
  | 'r' => some 0x0d
  | 'e' => some 0x1b
  | ' ' => some 0x20
  | '\x22' => some 0x22
  | '/' => some 0x2f
  | '\\' => some 0x5c
  | 'N' => some 0x85
  | '_' => some 0xa0
  | 'L' => some 0x2028
  | 'P' => some 0x2029
  | _ => none

/-- How many hexadecimal digits follow a letter behind a backslash. -/
def escapeWidth? (c : Char) : Option Nat :=
  match c with
  | 'x' => some 2
  | 'u' => some 4
  | 'U' => some 8
  | _ => none

/-- The number that hexadecimal digits stand for, as a code point. -/
def hexCode (width : Nat) (cs : List Char) : Except Reason Nat :=
  match if cs.length < width then none else (cs.take width).mapM Text.hexValue? with
  | none => .error .badEscape
  | some ds =>
    let n := ds.foldl (fun n d => n * 16 + d) 0
    if n < 0x110000 then .ok n
    else .error (.noValue (if n < 0x80000000 then .noCodePoint else .oversizedCodePoint))

/-- The code points of a scalar between double quotes; the text begins behind the opening one. -/
def readDouble (w : WhiteSpace) : List Char → Quoted
  | [] => .error .unclosedQuote
  | '\x22' :: cs => .ok (w.codes, cs)
  | '\\' :: c :: cs =>
    if isBreak c then
      if startsDocument cs then .error .documentInQuote
      else prepend w.codes (readDouble (.breaks none []) cs)
    else
      match escapedCode? c, escapeWidth? c with
      | some n, _ => prepend (w.codes ++ [n]) (readDouble .empty cs)
      | none, some width => do
        let n ← hexCode width cs
        prepend (w.codes ++ [n]) (readDouble .empty (cs.drop width))
      | none, none => .error .badEscape
  | c :: cs =>
    if isBreak c then
      if startsDocument cs then .error .documentInQuote else readDouble (w.addBreak c) cs
    else if isBlank c then readDouble (w.addBlank c) cs
    else prepend (w.codes ++ [c.toNat]) (readDouble .empty cs)
termination_by cs => cs.length
decreasing_by all_goals simp_wf; try omega

/-- The code points of a quoted scalar, and the place behind it. The cursor stands at the quote that opens it. -/
def quotedScalar (c : Cursor) : Except Error (List Nat × Cursor) :=
  let body := c.rest.tail
  match if c.peek = some '\x22' then readDouble .empty body else readSingle .empty body with
  | .error reason => .error (.here reason c)
  | .ok (codes, rest) => .ok (codes, c.skip (c.rest.length - rest.length))

end GoFixtures.Yaml
