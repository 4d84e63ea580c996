import GoFixtures.External
import GoFixtures.Go.Declaration
import GoFixtures.Model.SumType

/-!
# Scopes and classification

A scope answers what a name denotes. `classify` turns a type expression into a reference, given a scope and the
external types: a primitive name comes first, then an external type, then the scope.
-/

namespace GoFixtures

open Go

/-- What a name denotes that is not primitive. -/
inductive DeclarationKind
  | record | enumeration | typeAlias | interface
deriving DecidableEq

/-- What each name denotes, as far as it is known. -/
abbrev Scope := String → Option DeclarationKind

/-- The reference that a bare name is. -/
def classifyName (scope : Scope) (registry : ExternalRegistry) (name : String) : TypeRef :=
  if isPrimitiveName name then .primitive name
  else if registry.contains name then .external name
  else
    match scope name with
    | some .record => .record name
    | some .enumeration => .enumeration name
    | some .typeAlias => .typeAlias name
    | some .interface => if isSumTypeName name then .sumType name else .unresolved name
    | none => .unresolved name

/-- The reference that a type expression is. A qualified name can only be an external type; what has no rule for
its values stays unresolved. -/
def classify (scope : Scope) (registry : ExternalRegistry) : TypeExpr → TypeRef
  | .name n => classifyName scope registry n
  | .qualified p n =>
    if registry.contains n then .external n else .unresolved (TypeExpr.qualified p n).spell
  | .pointer e => .pointer (classify scope registry e)
  | .slice e => .sequence (classify scope registry e)
  | e => .unresolved e.spell

end GoFixtures
