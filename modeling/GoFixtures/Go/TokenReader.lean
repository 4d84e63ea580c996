import GoFixtures.Go.Token
import GoFixtures.Text.Quoted

/-!
# Reading tokens

A reader takes the tokens that are left and returns what it has read with the tokens behind it. The
last token stands for the end of the file and is never taken.

* `expect` takes a token of one kind, `skipGroup` a group of one kind of brackets, `skipUntil`
  everything up to a stop outside brackets.
* `repeatWhile` is the one loop. A round that takes no token would go on for ever: the loop stalls once
  it has had as many rounds as there were tokens.
* `closingOffset?` finds the bracket that closes a group, all kinds of brackets counted.
-/

namespace GoFixtures.Go

open Text

/-- What keeps tokens from being declarations. -/
inductive ParseFault
  | expected (label : String) (found : Token)
  | expectedType (found : Token)
  | unexpected (found : Token)
  | unclosed (b : Bracket)
  | lateImport
  | stalled
deriving DecidableEq

namespace Token

/-- A token in words. -/
def describe (t : Token) : String :=
  if t.kind = .endOfFile then "end of file"
  else if t.kind = .mark .semicolon && t.value = lineEnd then "newline"
  else quote t.value

end Token

/-- The fault in words. -/
def ParseFault.message : ParseFault → String
  | expected label found => "Expected " ++ quote label ++ ", got " ++ found.describe
  | expectedType found => "Expected type, got " ++ found.describe
  | unexpected found => "Unexpected " ++ found.describe ++ " at top level"
  | unclosed b => "Unclosed " ++ quote b.opening
  | lateImport => "Imports must appear before other declarations"
  | stalled => "Unbalanced closing bracket"

/-- Why tokens are no declarations, and where. -/
structure ParseError where
  cause : ParseFault
  position : Position
deriving DecidableEq

/-- The error in words. -/
def ParseError.message (e : ParseError) : String :=
  "Line " ++ toString e.position.line ++ ", column " ++ toString e.position.column ++ ": "
    ++ e.cause.message

/-- Reads something at the beginning of the tokens and returns it with the tokens behind it. -/
def TokenReader (α : Type) := List Token → Except ParseError (α × List Token)

namespace TokenReader

variable {α β : Type}

/-- Reads nothing. -/
protected def pure (a : α) : TokenReader α := fun ts => .ok (a, ts)

/-- Reads one thing after the other. -/
protected def bind (r : TokenReader α) (f : α → TokenReader β) : TokenReader β := fun ts =>
  match r ts with
  | .ok (a, rest) => f a rest
  | .error e => .error e

instance : Monad TokenReader where
  pure := TokenReader.pure
  bind := TokenReader.bind

/-- The token at the beginning. -/
def headOf : List Token → Token
  | [] => .finish .start
  | t :: _ => t

/-- The kind of the token with the given number; there is only the end of the file behind the last. -/
def kindAt (ts : List Token) (i : Nat) : Token.Kind := ((ts[i]?).map Token.kind).getD .endOfFile

/-- The tokens behind the first one; the last one stays. -/
def behind : List Token → List Token
  | _ :: t :: ts => t :: ts
  | ts => ts

/-- The next token, which stays. -/
def peek : TokenReader Token := fun ts => .ok (headOf ts, ts)

/-- The kind of a token further on. -/
def peekKind (i : Nat) : TokenReader Token.Kind := fun ts => .ok (kindAt ts i, ts)

/-- Whether the next token is of one kind. -/
def at? (k : Token.Kind) : TokenReader Bool := fun ts => .ok (kindAt ts 0 = k, ts)

/-- Takes the next token. -/
def advance : TokenReader Token := fun ts => .ok (headOf ts, behind ts)

/-- Stops with a fault at a place. -/
def fail (cause : ParseFault) (p : Position) : TokenReader α := fun _ => .error ⟨cause, p⟩

/-- Stops because nothing more would be read. -/
def stall : TokenReader α := fun ts => .error ⟨.stalled, (headOf ts).position⟩

/-- Takes a token of the given kind. -/
def expect (k : Token.Kind) : TokenReader Token := do
  let t ← peek
  if t.kind = k then advance else fail (.expected k.label t) t.position

/-- Takes the next token if it is of the given kind, and tells whether it was. -/
def accept (k : Token.Kind) : TokenReader Bool := do
  if ← at? k then
    let _ ← advance
    return true
  else
    return false

/-- Takes semicolons. -/
def skipSemicolons : TokenReader Unit := fun ts =>
  .ok ((), ts.dropWhile (·.kind = .mark .semicolon))

/-- Takes the semicolon that ends a declaration; the end of the file ends one, too. -/
def expectTerminator : TokenReader Unit := do
  if ← at? .endOfFile then
    return ()
  else
    let _ ← expect (.mark .semicolon)
    return ()

/-! ### Brackets -/

/-- The tokens behind the bracket that closes a group, only its own kind of brackets counted. `inner` is
the number of groups of the kind that are open inside it. -/
def behindGroup (b : Bracket) (opener : Position) :
    Nat → List Token → Except ParseError (List Token)
  | _, [] => .error ⟨.unclosed b, opener⟩
  | inner, t :: ts =>
    if t.kind = .endOfFile then .error ⟨.unclosed b, opener⟩
    else if t.kind = .opening b then behindGroup b opener (inner + 1) ts
    else if t.kind = .closing b then
      match inner with
      | 0 => .ok ts
      | inner + 1 => behindGroup b opener inner ts
    else behindGroup b opener inner ts

/-- Takes a group of brackets. -/
def skipGroup (b : Bracket) : TokenReader Unit := do
  let opener ← expect (.opening b)
  fun ts => (behindGroup b opener.position 0 ts).map fun rest => ((), rest)

/-- The tokens from a stop outside brackets on. A closing bracket that nothing opened, and the end of the
file, are always stops. -/
def untilStop (stops : Token.Kind → Bool) : Nat → List Token → List Token
  | _, [] => []
  | depth, t :: ts =>
    if t.kind = .endOfFile then t :: ts
    else if depth = 0 && stops t.kind then t :: ts
    else
      match t.kind, depth with
      | .opening _, depth => untilStop stops (depth + 1) ts
      | .closing _, 0 => t :: ts
      | .closing _, depth + 1 => untilStop stops depth ts
      | _, depth => untilStop stops depth ts

/-- Takes everything up to a stop outside brackets. -/
def skipUntil (stops : Token.Kind → Bool) : TokenReader Unit := fun ts =>
  .ok ((), untilStop stops 0 ts)

/-- The number of tokens before the bracket that closes the group at the beginning, all kinds of brackets
counted. `depth` is the number of groups that are open. -/
def closingOffset? : Nat → List Token → Option Nat
  | _, [] => none
  | depth, t :: ts =>
    match t.kind with
    | .endOfFile => none
    | .opening _ => (closingOffset? (depth + 1) ts).map (· + 1)
    | .closing _ => if depth = 1 then some 0 else (closingOffset? (depth - 1) ts).map (· + 1)
    | _ => (closingOffset? depth ts).map (· + 1)

/-! ### Loops -/

/-- At most `rounds` rounds, as long as the next token is of a kind to go on with. -/
def repeatFor (goesOn : Token.Kind → Bool) (round : TokenReader α) : Nat → TokenReader (List α)
  | 0 => do
    if goesOn (← peekKind 0) then stall else return []
  | rounds + 1 => do
    if goesOn (← peekKind 0) then
      let a ← round
      let more ← repeatFor goesOn round rounds
      return a :: more
    else
      return []

/-- Rounds as long as the next token is of a kind to go on with. -/
def repeatWhile (goesOn : Token.Kind → Bool) (round : TokenReader α) : TokenReader (List α) :=
  fun ts => repeatFor goesOn round ts.length ts

/-- Entries up to a closing bracket, which stays, with semicolons between them. -/
def entries (b : Bracket) (entry : TokenReader α) : TokenReader (List α) :=
  repeatWhile (fun k => k ≠ .closing b && k ≠ .endOfFile) do
    let a ← entry
    if !(← at? (.closing b)) then
      let _ ← expect (.mark .semicolon)
    skipSemicolons
    return a

/-- One specification, or any number of them in parentheses. -/
def group (spec : TokenReader α) : TokenReader (List α) := do
  if ← accept (.opening .paren) then
    skipSemicolons
    let specs ← entries .paren spec
    let _ ← expect (.closing .paren)
    return specs
  else
    return [← spec]

/-- Names with commas between them. -/
def nameList : TokenReader (List String) := do
  let first ← expect .identifier
  let more ← repeatWhile (· = .mark .comma) do
    let _ ← advance
    let t ← expect .identifier
    return t.value
  return first.value :: more

end TokenReader

end GoFixtures.Go
