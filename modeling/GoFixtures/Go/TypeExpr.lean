import GoFixtures.Go.Declaration
import GoFixtures.Go.TokenReader

/-!
# Reading type expressions

`TypeExpr.reader` reads one type expression. Type expressions nest; the readers of their parts take the
reader of the nested ones as an argument, and `TypeExpr.ofDepth` ties the knot for a depth that the number
of tokens bounds.
-/

namespace GoFixtures.Go

open TokenReader

namespace TypeExpr

/-- Reads a name, qualified or not, and type arguments behind it. -/
def named : TokenReader TypeExpr := do
  let first ← expect .identifier
  let base ←
    if ← accept (.mark .dot) then
      let second ← expect .identifier
      pure (qualified first.value second.value)
    else
      pure (name first.value)
  if ← at? (.opening .square) then
    skipGroup .square
    return generic base
  else
    return base

/-- The tokens that a type expression can begin with, parentheses excepted. -/
def isStart : Token.Kind → Bool
  | .identifier | .mark .star | .opening .square | .mark .arrow => true
  | .keyword .map | .keyword .chan | .keyword .func | .keyword .struct | .keyword .interface => true
  | _ => false

/-- Takes parameters and results: a list in parentheses, then another one or a single type or nothing. -/
def skipSignature (type : TokenReader TypeExpr) : TokenReader Unit := do
  skipGroup .paren
  let k ← peekKind 0
  if k = .opening .paren then
    skipGroup .paren
  else if isStart k then
    let _ ← type
  return ()

/-- The tokens behind a type that ends an embedded field. -/
def endsEmbedded : Token.Kind → Bool
  | .mark .semicolon | .closing .brace | .string => true
  | _ => false

/-- Whether the field that begins with the next token declares no name of its own. -/
def isEmbeddedField : TokenReader Bool := fun ts =>
  let embedded : Bool :=
    if kindAt ts 0 = .identifier then
      let follower := kindAt ts 1
      if follower = .mark .dot || endsEmbedded follower then true
      else if follower = .opening .square then
        match closingOffset? 0 (ts.drop 1) with
        | some i => endsEmbedded (kindAt ts (i + 2))
        | none => false
      else false
    else false
  .ok (embedded, ts)

/-- Reads a line of a struct body: an embedded field or names with their type, then a tag if there is
one. -/
def field (type : TokenReader TypeExpr) : TokenReader (FieldDecl TypeExpr) := do
  let (names, type) ←
    if ← accept (.mark .star) then
      pure ([], pointer (← named))
    else if ← isEmbeddedField then
      pure ([], ← named)
    else do
      let names ← nameList
      pure (names, ← type)
  if ← at? .string then
    let tag ← advance
    return ⟨names, type, some tag.value⟩
  else
    return ⟨names, type, none⟩

/-- Reads a struct type. -/
def structType (type : TokenReader TypeExpr) : TokenReader TypeExpr := do
  let _ ← expect (.keyword .struct)
  let _ ← expect (.opening .brace)
  skipSemicolons
  let fields ← entries .brace (field type)
  let _ ← expect (.closing .brace)
  return struct fields

/-- The tokens that a line of an interface body ends before. -/
def endsMember : Token.Kind → Bool
  | .mark .semicolon | .closing .brace => true
  | _ => false

/-- Reads a line of an interface body, for the name of the method that it may declare. In front of a closing
parenthesis or square bracket it takes nothing. -/
def member : TokenReader (Option String) := do
  let t ← peek
  let follower ← peekKind 1
  skipUntil endsMember
  skipSemicolons
  return if t.kind = .identifier && follower = .opening .paren then some t.value else none

/-- Reads an interface type. -/
def interfaceType : TokenReader TypeExpr := do
  let _ ← expect (.keyword .interface)
  let _ ← expect (.opening .brace)
  skipSemicolons
  let methods ← repeatWhile (fun k => k ≠ .closing .brace && k ≠ .endOfFile) member
  let _ ← expect (.closing .brace)
  return interface (methods.filterMap id)

/-- Reads a type expression that nests at most to the given depth. -/
def ofDepth : Nat → TokenReader TypeExpr
  | 0 => stall
  | depth + 1 => do
    let t ← peek
    match t.kind with
    | .identifier => named
    | .mark .star => do
      let _ ← advance
      return pointer (← ofDepth depth)
    | .opening .square => do
      if (← peekKind 1) = .closing .square then
        let _ ← advance
        let _ ← advance
        return slice (← ofDepth depth)
      else
        skipGroup .square
        return array (← ofDepth depth)
    | .keyword .map => do
      let _ ← advance
      let _ ← expect (.opening .square)
      let key ← ofDepth depth
      let _ ← expect (.closing .square)
      return map key (← ofDepth depth)
    | .keyword .chan => do
      let _ ← advance
      let _ ← accept (.mark .arrow)
      return chan (← ofDepth depth)
    | .mark .arrow => do
      let _ ← advance
      let _ ← expect (.keyword .chan)
      return chan (← ofDepth depth)
    | .keyword .func => do
      let _ ← advance
      skipSignature (ofDepth depth)
      return func
    | .keyword .struct => structType (ofDepth depth)
    | .keyword .interface => interfaceType
    | .opening .paren => do
      let _ ← advance
      let inner ← ofDepth depth
      let _ ← expect (.closing .paren)
      return inner
    | _ => fail (.expectedType t) t.position

/-- Reads a type expression. -/
def reader : TokenReader TypeExpr := fun ts => ofDepth ts.length ts

end TypeExpr

end GoFixtures.Go
