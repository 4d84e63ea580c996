import GoFixtures.Go.Layout
import GoFixtures.Go.TypeExpr

/-!
# Reading source files

`SourceFile.ofTokens` reads the declarations of a file: the package clause, the imports, then types and
constants. Variables and functions are passed over.

* `SourceFile.parse` reads a text; what it says of a text that is no file is a `SourceError`.
-/

namespace GoFixtures.Go

open TokenReader

namespace SourceFile

/-- Takes one import: a name or a point, if there is one, and a path. -/
def importSpec : TokenReader Unit := do
  let k ← peekKind 0
  if k = .identifier || k = .mark .dot then
    let _ ← advance
  let _ ← expect .string
  return ()

/-- Takes an import declaration and what ends it. -/
def importDecl : TokenReader Unit := do
  let _ ← expect (.keyword .«import»)
  let _ ← group importSpec
  expectTerminator
  skipSemicolons

/-- The tokens behind a name in square brackets that make the brackets hold type parameters and not the
length of an array. -/
def followsTypeParameter : Token.Kind → Bool
  | .identifier | .mark .comma | .mark .star | .mark .tilde | .opening .square => true
  | .keyword .interface | .keyword .map | .keyword .chan | .keyword .func | .keyword .struct => true
  | _ => false

/-- Whether the next tokens begin type parameters. -/
def atTypeParameters : TokenReader Bool := fun ts =>
  .ok (kindAt ts 0 = .opening .square && kindAt ts 1 = .identifier
    && followsTypeParameter (kindAt ts 2), ts)

/-- Reads one type declaration: a name, type parameters, `=`, and the type. -/
def typeSpec : TokenReader TypeSpec := do
  let name ← expect .identifier
  let isGeneric ← atTypeParameters
  if isGeneric then skipGroup .square
  let isAlias ← accept (.mark .assign)
  let type ← TypeExpr.reader
  return ⟨name.value, type, name.position.line, isGeneric, isAlias⟩

/-- The tokens that stand in place of the type of a constant. -/
def endsConstNames : Token.Kind → Bool
  | .mark .assign | .mark .semicolon | .closing .paren | .endOfFile => true
  | _ => false

/-- The tokens that the values of constants end before. -/
def endsConstValues : Token.Kind → Bool
  | .mark .semicolon | .closing .paren => true
  | _ => false

/-- Reads one line of a constant declaration: names, their type and their values. -/
def constSpec : TokenReader ConstSpec := do
  let first ← peek
  let names ← nameList
  let type ←
    if endsConstNames (← peekKind 0) then pure none
    else do pure (some (← TypeExpr.reader))
  let hasValues ← accept (.mark .assign)
  if hasValues then skipUntil endsConstValues
  return ⟨names, type, hasValues, first.position.line⟩

/-- Takes a variable declaration. -/
def varDecl : TokenReader Unit := do
  let _ ← expect (.keyword .var)
  if ← at? (.opening .paren) then skipGroup .paren
  else skipUntil (· = .mark .semicolon)

/-- Takes a function declaration: the receiver, the name, type parameters, the signature and the body. -/
def funcDecl : TokenReader Unit := do
  let _ ← expect (.keyword .func)
  if ← at? (.opening .paren) then skipGroup .paren
  let _ ← expect .identifier
  if ← at? (.opening .square) then skipGroup .square
  TypeExpr.skipSignature TypeExpr.reader
  if ← at? (.opening .brace) then skipGroup .brace

/-- What a declaration adds to the file. -/
inductive Addition
  | types (specs : List TypeSpec)
  | consts (specs : List ConstSpec)
  | nothing

/-- Reads one declaration and what ends it. -/
def declaration : TokenReader Addition := do
  let t ← peek
  let addition ←
    match t.kind with
    | .keyword .type => do
      let _ ← advance
      pure (.types (← group typeSpec))
    | .keyword .const => do
      let _ ← advance
      pure (.consts (← group constSpec))
    | .keyword .var => do
      varDecl
      pure .nothing
    | .keyword .func => do
      funcDecl
      pure .nothing
    | .keyword .«import» => fail .lateImport t.position
    | _ => fail (.unexpected t) t.position
  expectTerminator
  skipSemicolons
  return addition

/-- The types that a declaration adds. -/
def Addition.typeSpecs : Addition → List TypeSpec
  | types specs => specs
  | _ => []

/-- The groups of constants, at most one, that a declaration adds. -/
def Addition.constGroups : Addition → List (List ConstSpec)
  | consts specs => [specs]
  | _ => []

/-- Reads a file. -/
def reader : TokenReader SourceFile := do
  skipSemicolons
  let _ ← expect (.keyword .package)
  let package ← expect .identifier
  expectTerminator
  skipSemicolons
  let _ ← repeatWhile (· = .keyword .«import») importDecl
  let additions ← repeatWhile (· ≠ .endOfFile) declaration
  return ⟨package.value, additions.flatMap Addition.typeSpecs,
    additions.flatMap Addition.constGroups⟩

/-- The file that the tokens make up. -/
def ofTokens (ts : List Token) : Except ParseError SourceFile :=
  (reader ts).map Prod.fst

end SourceFile

/-- Why a text is no source file. -/
inductive SourceError
  | scan (error : ScanError)
  | parse (error : ParseError)
deriving DecidableEq

namespace SourceError

/-- The error in words. -/
def message : SourceError → String
  | scan e => e.message
  | parse e => e.message

/-- Whether the error is reported with its place. -/
def isReported : SourceError → Bool
  | scan e => e.isReported
  | parse _ => true

end SourceError

/-- The declarations of a source text. -/
def SourceFile.parse (source : String) : Except SourceError SourceFile :=
  match Token.scan source with
  | .error e => .error (.scan e)
  | .ok ts =>
    match SourceFile.ofTokens ts with
    | .error e => .error (.parse e)
    | .ok file => .ok file

end GoFixtures.Go
