import GoFixtures.Declarations.Scope
import GoFixtures.Text.CharClass

/-!
# The index of declarations

The type declarations and typed constants of one or more files. A later declaration of a name takes the place
of an earlier one.

* `DeclarationIndex.underlyingPrimitive?` follows declarations like `type A B` down to a primitive type.
* `DeclarationIndex.kindOf?` is what a name denotes in the index.
* `packageScope` knows the declared names alone; `lexicalScope` guesses at the others by their spelling.
-/

namespace GoFixtures

open Go Text

/-- Whether a name is visible outside its package: it begins with an uppercase character. -/
def isExported (name : String) : Bool :=
  match name.toList with
  | c :: _ => isUppercase c
  | [] => false

/-- The declarations of files: all of them in order, the last one under each name, and the names of the constants
of each type. -/
structure DeclarationIndex where
  specs : List TypeSpec
  byName : Catalogue TypeSpec
  enumValues : Catalogue (List String)

namespace DeclarationIndex

/-- Adds names to the constants of a type. -/
def addValues (values : Catalogue (List String)) (type : String) (names : List String) :
    Catalogue (List String) :=
  values.put type ((values.get? type).getD [] ++ names)

/-- The constants of a group added to those before it. `current` is the type of the line before: a line
without type and values repeats it. -/
def addGroup (current : Option TypeExpr) (values : Catalogue (List String)) :
    List ConstSpec → Catalogue (List String)
  | [] => values
  | spec :: group =>
    let current := if spec.hasValues || spec.type.isSome then spec.type else current
    match current with
    | some (.name type) => addGroup current (addValues values type spec.names) group
    | _ => addGroup current values group

/-- The index of files. -/
def ofFiles (files : List SourceFile) : DeclarationIndex :=
  let specs := files.flatMap SourceFile.types
  { specs
    byName := .ofList (specs.map fun spec => (spec.name, spec))
    enumValues := (files.flatMap SourceFile.constGroups).foldl (addGroup none) .empty }

/-- The generic declarations, in order. -/
def genericSpecs (index : DeclarationIndex) : List TypeSpec := index.specs.filter TypeSpec.isGeneric

/-- The primitive type that a name stands for after at most `steps` declarations. -/
def underlyingWithin (index : DeclarationIndex) : Nat → String → Option String
  | 0, _ => none
  | steps + 1, name =>
    match (index.byName.get? name).map TypeSpec.type with
    | some (.name target) =>
      if isPrimitiveName target then some target else underlyingWithin index steps target
    | _ => none

/-- The primitive type that a name stands for. A chain with more declarations than there are names has come to
one of them twice, and never ends. -/
def underlyingPrimitive? (index : DeclarationIndex) (name : String) : Option String :=
  index.underlyingWithin index.byName.keys.length name

/-- What a declared name denotes. No fixture is written for a generic declaration or for one that is not
exported, so those denote nothing. -/
def kindOf? (index : DeclarationIndex) (name : String) : Option DeclarationKind :=
  match index.byName.get? name with
  | none => none
  | some spec =>
    if spec.isGeneric then none else
      match spec.type with
      | .interface _ => some .interface
      | .struct _ => if isExported name then some .record else none
      | _ =>
        if !isExported name || (index.underlyingPrimitive? name).isNone then none
        else if index.enumValues.contains name then some .enumeration
        else some .typeAlias

end DeclarationIndex

/-- The types that are declared in every package and are not primitive. -/
def predeclaredNames : List String := ["any", "error", "comparable"]

/-- The scope of a whole package: a name denotes what it is declared as. -/
def packageScope (index : DeclarationIndex) : Scope := index.kindOf?

/-- The scope of a single text: a name that is not declared in it is taken for a sum type or a record if it
looks like one. -/
def lexicalScope (index : DeclarationIndex) : Scope := fun name =>
  if index.byName.contains name then index.kindOf? name
  else if isSumTypeName name then some .interface
  else if predeclaredNames.contains name then none
  else if isExported name then some .record
  else none

end GoFixtures
