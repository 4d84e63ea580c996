import GoFixtures.Text.Utf8
import GoFixtures.Yaml.Block
import GoFixtures.Yaml.Plain
import GoFixtures.Yaml.Quoted

/-!
# Tokens of a document

A document is read into tokens. Indentation becomes tokens of its own, which open and close blocks. Whether
something is a key shows only at the colon behind it; its place is kept until then, and the token for the key
is put in there. A key has to stand on one line and to be short. A fault counts only for those who ask for the
tokens behind it.

* `Token.scan` reads a whole text.
-/

namespace GoFixtures.Yaml

/-- A line that begins with a percent sign. -/
inductive Directive
  | version (major : Nat)
  | tag (handle suffix : String)
  | other
deriving DecidableEq

/-- A token without its place. -/
inductive TokenKind
  | streamEnd
  | directive (d : Directive)
  | documentStart | documentEnd
  | sequenceStart | mappingStart | blockEnd
  | flowSequenceStart | flowSequenceEnd
  | flowMappingStart | flowMappingEnd
  | blockEntry | flowEntry
  | key | value
  | reference (name : String)
  | anchor (name : String)
  | tag (handle : Option String) (suffix : String)
  | scalar (codes : List Nat) ( isPlain : Bool)
deriving DecidableEq

/-- A token and its place. -/
structure Token where
  kind : TokenKind
  line : Nat
  column : Nat
deriving DecidableEq

/-- A token that may turn out to be a key: how many tokens stand before it, where it begins, and whether it
has to be a key. -/
structure PossibleKey where
  number : Nat
  place : Cursor
  isRequired : Bool

/-- What is known in the middle of a document. `indent` is the column of the innermost block and `outer` are
those of the blocks around it; `keys` holds at most one possible key for each level of flow collections. -/
structure Scan where
  cursor : Cursor
  tokens : List Token
  level : Nat
  indent : Int
  outer : List Int
  keysAllowed : Bool
  keys : List (Nat × PossibleKey)

namespace Scan

/-- The beginning of a document. -/
def start (text : List Char) : Scan := ⟨.start text, [], 0, -1, [], true, []⟩

/-- Adds a token that begins at a cursor. -/
def pushAt (s : Scan) (c : Cursor) (kind : TokenKind) : Scan :=
  { s with tokens := s.tokens ++ [⟨kind, c.line, c.column⟩] }

/-- Adds a token that begins here. -/
def push (s : Scan) (kind : TokenKind) : Scan := s.pushAt s.cursor kind

/-- Adds a token of the next `n` characters. -/
def pushSkip (s : Scan) (n : Nat) (kind : TokenKind) : Scan :=
  { s.push kind with cursor := s.cursor.skip n }

/-- Puts a token in behind `number` others. -/
def insertAt (s : Scan) (number : Nat) (c : Cursor) (kind : TokenKind) : Scan :=
  { s with tokens := s.tokens.take number ++ ⟨kind, c.line, c.column⟩ :: s.tokens.drop number }

/-- Stops here. -/
def fail {α : Type} (s : Scan) (reason : Reason) : Except Error α := .error (.here reason s.cursor)

/-- Allows keys or not. -/
def allowKeys (s : Scan) (allowed : Bool) : Scan := { s with keysAllowed := allowed }

/-! ### Keys -/

/-- Whether something that begins at a place is too far away to be a key before a colon here. -/
def isStale (s : Scan) (k : PossibleKey) : Bool :=
  k.place.line ≠ s.cursor.line || 1024 < s.cursor.offset - k.place.offset

/-- Forgets the places of keys that are too far away. -/
def dropStale (s : Scan) : Except Error Scan :=
  if s.keys.any fun k => s.isStale k.2 && k.2.isRequired then s.fail .unclosedKey
  else .ok { s with keys := s.keys.filter fun k => !s.isStale k.2 }

/-- The possible key at this level. -/
def possibleKey? (s : Scan) : Option PossibleKey := (s.keys.find? fun k => k.1 = s.level).map Prod.snd

/-- Forgets the possible key at this level without asking for its colon. -/
def forgetKey (s : Scan) : Scan := { s with keys := s.keys.filter fun k => k.1 ≠ s.level }

/-- Gives up the possible key at this level. -/
def dropKey (s : Scan) : Except Error Scan :=
  if s.possibleKey?.any (·.isRequired) then s.fail .unclosedKey else .ok s.forgetKey

/-- Remembers that the token that begins here may be a key. -/
def saveKey (s : Scan) : Except Error Scan :=
  if s.keysAllowed then do
    let s ← s.dropKey
    let isRequired := s.level = 0 && s.indent = s.cursor.column
    return { s with keys := s.keys ++ [(s.level, ⟨s.tokens.length, s.cursor, isRequired⟩)] }
  else .ok s

/-! ### Indentation -/

/-- Closes the blocks that are indented further than a column; `inner` counts the blocks. -/
def unwindFrom (column : Int) : Nat → Scan → Scan
  | 0, s => s
  | inner + 1, s =>
    if column < s.indent then
      match s.outer with
      | [] => { s.push .blockEnd with indent := -1 }
      | i :: outer => unwindFrom column inner { s.push .blockEnd with indent := i, outer := outer }
    else s

/-- Closes the blocks that a line at a column is not part of. In flow collections indentation does not count. -/
def unwind (s : Scan) (column : Int) : Scan :=
  if s.level = 0 then unwindFrom column (s.outer.length + 1) s else s

/-- Whether something at a column opens a block. -/
def opensBlock (s : Scan) (column : Nat) : Bool := s.level = 0 && s.indent < column

/-- Goes into a block at a column. -/
def enter (s : Scan) (column : Nat) : Scan := { s with indent := column, outer := s.indent :: s.outer }

/-- Opens a block here if nothing else at this column has. -/
def openBlock (s : Scan) (kind : TokenKind) : Scan :=
  if s.opensBlock s.cursor.column then (s.push kind).enter s.cursor.column else s

/-! ### White space -/

/-- The place of the next token, and whether there is a line break before it. `rounds` bounds the number of
lines. -/
def nextToken : Nat → Cursor → Bool → Cursor × Bool
  | 0, c, crossed => (c, crossed)
  | rounds + 1, c, crossed =>
    let c := (c.skipWhile fun x => x = ' ').skipComment
    if c.peek.any isBreak then nextToken rounds c.next true else (c, crossed)

/-- Goes on to the next token; on a new line of a block, keys are allowed. -/
def skipSpace (s : Scan) : Scan :=
  let c := if s.cursor.offset = 0 && s.cursor.peek = some '\ufeff' then s.cursor.next else s.cursor
  let (c, crossed) := nextToken (c.rest.length + 1) c false
  { s with cursor := c, keysAllowed := s.keysAllowed || (crossed && s.level = 0) }

/-! ### Names and tags -/

/-- A character of a name. -/
def isNameChar (c : Char) : Bool := c.isAlphanum || c = '-' || c = '_'

/-- A character of a tag. -/
def isTagChar (c : Char) : Bool :=
  c.isAlphanum ||
    c ∈ ['-', ';', '/', '?', ':', '@', '&', '=', '+', '$', ',', '_', '.', '!', '~', '*', '\x27', '(', ')',
    '[', ']', '%']

/-- The handle at the beginning of a text: one exclamation mark, or a name between two. -/
def tagHandle? : List Char → Option (List Char)
  | '!' :: cs =>
    let name := cs.takeWhile isNameChar
    match cs.drop name.length with
    | '!' :: _ => some ('!' :: name ++ ['!'])
    | ' ' :: _ => if name.isEmpty then some ['!'] else none
    | _ => none
  | _ => none

/-- The value of two hexadecimal digits. -/
def hexPair? (a b : Char) : Option UInt8 := do
  return ((← Text.hexValue? a) * 16 + (← Text.hexValue? b)).toUInt8

/-- The text of a tag, where a percent sign and two digits stand for a byte of the text; `bytes` are those
right before. -/
def tagText? (bytes : List UInt8) : List Char → Option (List Char)
  | '%' :: a :: b :: cs =>
    match hexPair? a b with
    | some n => tagText? (bytes ++ [n]) cs
    | none => none
  | [] => (Text.Utf8.decode bytes).toOption.map String.toList
  | c :: cs =>
    if c = '%' then none
    else do
      let before ← (Text.Utf8.decode bytes).toOption
      let more ← tagText? [] cs
      return before.toList ++ c :: more

/-- The text of the tag that a text begins with, and how many characters it is written with. -/
def tagSuffix? (cs : List Char) : Option (String × Nat) :=
  let written := cs.takeWhile isTagChar
  if written.isEmpty then none
  else (tagText? [] written).map fun text => (String.ofList text, written.length)

/-- Reads a tag. -/
def tag (s : Scan) : Except Error Scan := do
  let s := (← s.saveKey).allowKeys false
  let cs := s.cursor.rest.tail
  let (handle, suffix, n) ←
    match cs.head? with
    | some '<' =>
      match tagSuffix? cs.tail with
      | some (suffix, n) =>
        if (cs.drop (n + 1)).head? = some '>' then pure (none, suffix, n + 3) else s.fail .badTag
      | none => s.fail .badTag
    | following =>
      if isSeparator following then pure (none, "!", 1)
      else if (cs.takeWhile fun c => !isSpaceOrEnd (some c)).contains '!' then
        match tagHandle? s.cursor.rest with
        | some handle =>
          match tagSuffix? (s.cursor.rest.drop handle.length) with
          | some (suffix, n) => pure (some (String.ofList handle), suffix, handle.length + n)
          | none => s.fail .badTag
        | none => s.fail .badTag
      else
        match tagSuffix? cs with
        | some (suffix, n) => pure (some "!", suffix, n + 1)
        | none => s.fail .badTag
  if isSpaceOrEnd (s.cursor.skip n).peek then return s.pushSkip n (.tag handle suffix)
  else s.fail .badTag

/-- A character that may stand right behind the name of an anchor. -/
def endsName (c : Option Char) : Bool :=
  isSeparator c || c.any fun x => x ∈ ['?', ':', ',', ']', '\x7d', '%', '@', '\x60']

/-- Reads an anchor or an alias. -/
def name (s : Scan) (kind : String → TokenKind) : Except Error Scan := do
  let s := (← s.saveKey).allowKeys false
  let cs := s.cursor.rest.tail.takeWhile isNameChar
  if cs.isEmpty || !endsName (s.cursor.skip (cs.length + 1)).peek then s.fail .badName
  else return s.pushSkip (cs.length + 1) (kind (String.ofList cs))

/-! ### Directives and markers -/

/-- Digits at the beginning of a text: their value, and how many there are. -/
def number (cs : List Char) : Except Reason (Nat × Nat) :=
  let ds := cs.takeWhile Char.isDigit
  if ds.isEmpty then .error .badDirective
  else if Text.maxIntegerDigits < ds.length then .error (.noValue (.oversizedInteger ds.length))
  else .ok (Text.digitsValue ds, ds.length)

/-- The version in a directive, and how many characters it takes. -/
def version (cs : List Char) : Except Reason (Directive × Nat) := do
  let (major, n) ← number cs
  match cs.drop n with
  | '.' :: more =>
    let (_, k) ← number more
    return (.version major, n + 1 + k)
  | _ => .error .badDirective

/-- The tag in a directive, and how many characters it takes. -/
def tagDirective? (cs : List Char) : Option (Directive × Nat) := do
  let handle ← tagHandle? cs
  let more := cs.drop handle.length
  let spaces := (more.takeWhile fun c => c = ' ').length
  let (suffix, n) ← tagSuffix? (more.drop spaces)
  if spaces = 0 then none
  else return (.tag (String.ofList handle) suffix, handle.length + spaces + n)

/-- The content of a directive behind its name, and how many characters it takes. -/
def directiveContent (name : List Char) (c : Cursor) : Except Reason (Directive × Nat) :=
  let spaces := c.run fun x => x = ' '
  let cs := c.rest.drop spaces
  let content :=
    if name = ['Y', 'A', 'M', 'L'] then version cs
    else if name = ['T', 'A', 'G'] then
      match tagDirective? cs with
      | some found => .ok found
      | none => .error .badDirective
    else .ok (.other, (cs.takeWhile fun x => !isBreak x).length)
  content.map fun (d, n) => (d, spaces + n)

/-- Reads a directive and the rest of its line. -/
def directive (s : Scan) : Except Error Scan := do
  let s := (← (s.unwind (-1)).dropKey).allowKeys false
  let name := s.cursor.rest.tail.takeWhile isNameChar
  let c := s.cursor.skip (name.length + 1)
  if name.isEmpty || !isSpaceOrEnd c.peek then s.fail .badDirective
  else
    match directiveContent name c with
    | .error reason => s.fail reason
    | .ok (d, n) =>
      let behind := c.skip n
      let lineEnd := (behind.skipWhile fun x => x = ' ').skipComment
      if isSpaceOrEnd behind.peek && isLineEnd lineEnd.peek then
        return { s.push (.directive d) with cursor := lineEnd.skipBreak }
      else s.fail .badDirective

/-- Reads a marker between documents. -/
def marker (s : Scan) (kind : TokenKind) : Except Error Scan := do
  let s ← (s.unwind (-1)).dropKey
  return (s.allowKeys false).pushSkip 3 kind

/-! ### Collections -/

/-- Opens a flow collection. -/
def openFlow (s : Scan) (kind : TokenKind) : Except Error Scan := do
  let s ← s.saveKey
  return { s.pushSkip 1 kind with level := s.level + 1, keysAllowed := true }

/-- Closes a flow collection. -/
def closeFlow (s : Scan) (kind : TokenKind) : Except Error Scan := do
  let s ← s.dropKey
  return { s.pushSkip 1 kind with level := s.level - 1, keysAllowed := false }

/-- Reads the comma in a flow collection. -/
def flowEntry (s : Scan) : Except Error Scan := do
  let s ← (s.allowKeys true).dropKey
  return s.pushSkip 1 .flowEntry

/-- Reads the dash before an item. -/
def blockEntry (s : Scan) : Except Error Scan := do
  if s.level = 0 && !s.keysAllowed then s.fail .misplacedEntry
  else
    let s ← ((s.openBlock .sequenceStart).allowKeys true).dropKey
    return s.pushSkip 1 .blockEntry

/-- Reads the question mark before a key. -/
def explicitKey (s : Scan) : Except Error Scan := do
  if s.level = 0 && !s.keysAllowed then s.fail .misplacedKey
  else
    let s ← ((s.openBlock .mappingStart).allowKeys (s.level = 0)).dropKey
    return s.pushSkip 1 .key

/-- Reads the colon before a value. If there is a possible key, it is one. -/
def value (s : Scan) : Except Error Scan :=
  match s.possibleKey? with
  | some k =>
    let s := s.forgetKey.insertAt k.number k.place .key
    let s :=
      if s.opensBlock k.place.column then (s.insertAt k.number k.place .mappingStart).enter k.place.column else s
    .ok ((s.allowKeys false).pushSkip 1 .value)
  | none =>
    if s.level = 0 && !s.keysAllowed then s.fail .misplacedValue
    else do
      let s ← ((s.openBlock .mappingStart).allowKeys (s.level = 0)).dropKey
      return s.pushSkip 1 .value

/-! ### Scalars -/

/-- Adds a scalar that goes up to a cursor. -/
def pushScalar (s : Scan) (codes : List Nat) ( isPlain : Bool) (behind : Cursor) : Scan :=
  { s.push (.scalar codes isPlain) with cursor := behind }

/-- Reads a block scalar. -/
def block (s : Scan) : Except Error Scan := do
  let s ← (s.allowKeys true).dropKey
  let (text, behind) ← blockScalar s.indent s.cursor
  return s.pushScalar (text.map Char.toNat) false behind

/-- Reads a quoted scalar. -/
def quoted (s : Scan) : Except Error Scan := do
  let s := (← s.saveKey).allowKeys false
  let (codes, behind) ← quotedScalar s.cursor
  return s.pushScalar codes false behind

/-- Reads a plain scalar; a key may follow it if it goes up to another line. -/
def plain (s : Scan) : Except Error Scan := do
  let s ← s.saveKey
  let scalar := plainScalar (s.level ≠ 0) (s.indent + 1) s.cursor
  return (s.allowKeys scalar.crossesLine).pushScalar (scalar.text.map Char.toNat) true scalar.behind

/-- Whether a plain scalar can begin with a character before another one. -/
def startsPlain (s : Scan) (c : Char) (following : Option Char) : Bool :=
  !(isBlank c || isBreak c ||
    c ∈ ['-', '?', ':', ',', '[', ']', '\x7b', '\x7d', '#', '&', '*', '!', '|', '>', '\x27',
      '\x22', '%', '@', '\x60'])
    || (!isSeparator following && (c = '-' || (s.level = 0 && (c = '?' || c = ':'))))

/-! ### Documents -/

/-- Ends the document. -/
def finish (s : Scan) : Except Error Scan := do
  let s ← (s.unwind (-1)).dropKey
  return s.push .streamEnd

/-- Reads the token that begins with a character. -/
def token (s : Scan) (c : Char) : Except Error Scan :=
  let following := s.cursor.peekSecond
  let isMark := isSeparator following
  let inFlow := s.level ≠ 0
  if c = '%' && s.cursor.column = 0 then s.directive
  else if s.cursor.column = 0 && startsWithMarker '-' s.cursor.rest then s.marker .documentStart
  else if s.cursor.column = 0 && startsWithMarker '.' s.cursor.rest then s.marker .documentEnd
  else if c = '[' then s.openFlow .flowSequenceStart
  else if c = '\x7b' then s.openFlow .flowMappingStart
  else if c = ']' then s.closeFlow .flowSequenceEnd
  else if c = '\x7d' then s.closeFlow .flowMappingEnd
  else if c = ',' then s.flowEntry
  else if c = '-' && isMark then s.blockEntry
  else if c = '?' && (inFlow || isMark) then s.explicitKey
  else if c = ':' && (inFlow || isMark) then s.value
  else if c = '*' then s.name .reference
  else if c = '&' then s.name .anchor
  else if c = '!' then s.tag
  else if (c = '|' || c = '>') && !inFlow then s.block
  else if c = '\x27' || c = '\x22' then s.quoted
  else if s.startsPlain c following then s.plain
  else s.fail (.badStart c)

/-- The tokens before which no other can come. -/
def settled (s : Scan) : List Token :=
  s.tokens.take (s.keys.foldl (fun n k => min n k.2.number) s.tokens.length)

/-- Reads the next token, and whether there are more. -/
def step (s : Scan) : Except Error (Scan × Bool) := do
  let s := (← s.skipSpace.dropStale)
  let s := s.unwind s.cursor.column
  match s.cursor.peek with
  | none => return (← s.finish, false)
  | some c => return (← (← s.token c).dropStale, true)

end Scan

/-- The tokens of a text, up to a fault that keeps further ones from being read. -/
structure TokenStream where
  tokens : List Token
  fault : Option Error

/-- Reads on to the end; `rounds` bounds the number of tokens. -/
def Scan.run : Nat → Scan → TokenStream
  | 0, s => ⟨s.tokens, none⟩
  | rounds + 1, s =>
    match s.step with
    | .error e => ⟨s.settled, some e⟩
    | .ok (s, false) => ⟨s.tokens, none⟩
    | .ok (s, true) => Scan.run rounds s

/-- A character that may stand in a document. -/
def isAllowed (c : Char) : Bool :=
  c = '\t' || c = '\n' || c = '\r' || c = '\x85' || (' ' ≤ c && c ≤ '~')
    || (0xa0 ≤ c.toNat && c.toNat ≤ 0xfffd) || 0x10000 ≤ c.toNat

/-- The tokens of a text. -/
def Token.scan (text : String) : TokenStream :=
  let cs := Text.unifyNewlines text.toList
  let before := cs.takeWhile isAllowed
  if before.length < cs.length then ⟨[], some (.here .unprintable ((Cursor.start cs).skip before.length))⟩
  else (Scan.start cs).run (cs.length + 1)

end GoFixtures.Yaml
