import GoFixtures.Yaml.Cursor

/-!
# Plain scalars

A scalar without quotes ends where something else begins: a comment, a value, a bracket in a flow collection,
or a line that is not indented enough. Between its lines, white space becomes one space, and every empty line
a line feed.
-/

namespace GoFixtures.Yaml

/-- Whether a colon before this character is a mark of its own. -/
def endsPlain (inFlow : Bool) (following : Option Char) : Bool :=
  isSeparator following ||
    match following with
    | some c => inFlow && (c = ',' || c = '[' || c = ']' || c = '\x7b' || c = '\x7d')
    | none => true

/-- How many characters belong to a plain scalar before the next white space. -/
def plainRun (inFlow : Bool) : List Char → Nat
  | [] => 0
  | c :: cs =>
    if isBlank c || isBreak c then 0
    else if c = ':' && endsPlain inFlow cs.head? then 0
    else if inFlow && (c = ',' || c = '?' || c = '[' || c = ']' || c = '\x7b' || c = '\x7d') then 0
    else plainRun inFlow cs + 1

/-- The line breaks that follow a first one. -/
structure MoreBreaks where
  values : List Char
  length : Nat
  atMarker : Bool

/-- Spaces and line breaks up to the next character that is neither, or up to a marker between documents. -/
def moreBreaks : List Char → MoreBreaks
  | [] => ⟨[], 0, false⟩
  | c :: cs =>
    if c = ' ' then
      let more := moreBreaks cs
      { more with length := more.length + 1 }
    else if isBreak c then
      if startsDocument cs then ⟨[breakValue c], 1, true⟩
      else
        let more := moreBreaks cs
        ⟨breakValue c :: more.values, more.length + 1, more.atMarker⟩
    else ⟨[], 0, false⟩

/-- White space in a plain scalar: what it stands for if the scalar goes on, whether it goes over a line
break, and the place behind it. -/
structure PlainGap where
  text : List Char
  crossesLine : Bool
  behind : Cursor

/-- The white space at a cursor. At a marker between documents a scalar does not go on. -/
def plainGap (c : Cursor) : PlainGap :=
  let spaces := c.run fun x => x = ' '
  let behind := c.skip spaces
  match behind.rest with
  | x :: cs =>
    if isBreak x then
      if startsDocument cs then ⟨[], true, behind.next⟩
      else
        let more := moreBreaks cs
        let text :=
          if more.atMarker then []
          else if breakValue x ≠ '\n' then breakValue x :: more.values
          else if more.values.isEmpty then [' ']
          else more.values
        ⟨text, true, behind.next.skip more.length⟩
    else ⟨c.text spaces, false, behind⟩
  | [] => ⟨c.text spaces, false, behind⟩

/-- A scalar that has been read: its text, whether its white space went on to another line, and the place
behind it. -/
structure PlainScalar where
  text : List Char
  crossesLine : Bool
  behind : Cursor

/-- Reads on behind white space; `rounds` bounds the number of runs. -/
def plainFrom (inFlow : Bool) (indent : Int) : Nat → PlainGap → PlainScalar
  | 0, gap => ⟨[], gap.crossesLine, gap.behind⟩
  | rounds + 1, gap =>
    let c := gap.behind
    let n := plainRun inFlow c.rest
    if c.peek = some '#' || n = 0 then ⟨[], gap.crossesLine, c⟩
    else
      let following := plainGap (c.skip n)
      if following.text.isEmpty || following.behind.peek = some '#'
          || (!inFlow && following.behind.column < indent) then
        ⟨gap.text ++ c.text n, following.crossesLine, following.behind⟩
      else
        let more := plainFrom inFlow indent rounds following
        { more with text := gap.text ++ c.text n ++ more.text }

/-- The plain scalar at a cursor; in a block, its further lines are indented by at least `indent` columns. -/
def plainScalar (inFlow : Bool) (indent : Int) (c : Cursor) : PlainScalar :=
  plainFrom inFlow indent (c.rest.length + 1) ⟨[], false, c⟩

end GoFixtures.Yaml
