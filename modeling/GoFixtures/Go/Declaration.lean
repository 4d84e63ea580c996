import GoFixtures.Catalogue

/-!
# Declarations of a Go file

What a fixture depends on: the package clause, the type declarations with their type expressions, and
the constant declarations without their values.

* `TypeExpr.spell` names a type expression in a message; what is not kept is written as dots.
-/

namespace GoFixtures.Go

/-- One line of a struct body, over type expressions `τ`. Without names the field is embedded. The tag
is the text between its quotes. -/
structure FieldDecl (τ : Type) where
  names : List String
  type : τ
  tag : Option String

/-- A type expression. Array lengths, type arguments, parameters and results are not kept, and of an
interface only the names of its methods are. -/
inductive TypeExpr
  | name (name : String)
  | qualified (package name : String)
  | pointer (element : TypeExpr)
  | slice (element : TypeExpr)
  | array (element : TypeExpr)
  | map (key value : TypeExpr)
  | chan (element : TypeExpr)
  | func
  | generic (base : TypeExpr)
  | struct (fields : List (FieldDecl TypeExpr))
  | interface (methods : List String)

namespace FieldDecl

/-- Whether the field declares no name of its own. -/
def isEmbedded {τ : Type} (f : FieldDecl τ) : Bool := f.names.isEmpty

end FieldDecl

namespace TypeExpr

instance : Inhabited TypeExpr := ⟨func⟩

/-- The type expression in words. -/
def spell : TypeExpr → String
  | name n => n
  | qualified p n => p ++ "." ++ n
  | pointer e => "*" ++ spell e
  | slice e => "[]" ++ spell e
  | array e => "[...]" ++ spell e
  | map k v => "map[" ++ spell k ++ "]" ++ spell v
  | chan e => "chan " ++ spell e
  | func => "func(...)"
  | generic b => spell b ++ "[...]"
  | struct _ => "struct\x7b...\x7d"
  | interface _ => "interface\x7b...\x7d"

end TypeExpr

/-- A type declaration and the line of its name. A declaration with `=` is an alias of its type. -/
structure TypeSpec where
  name : String
  type : TypeExpr
  line : Nat
  isGeneric : Bool
  isAlias : Bool

/-- One line of a constant declaration, and the line number of its first name. -/
structure ConstSpec where
  names : List String
  type : Option TypeExpr
  hasValues : Bool
  line : Nat

/-- The declarations of a file, in the order of the file. -/
structure SourceFile where
  package : String
  types : List TypeSpec
  constGroups : List (List ConstSpec)

end GoFixtures.Go
