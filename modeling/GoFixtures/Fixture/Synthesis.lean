import GoFixtures.External
import GoFixtures.Fixture.Value
import GoFixtures.Model.TypeModel

/-!
# Synthesis of values

`valueOf` builds the placeholder value of a reference. A sum type is expanded into its member with all fields,
and those may be of sum types again; every other reference to a declaration is a call of its fixture function.

Expansion ends unless a sum type is reached inside its own expansion. There are only so many sum types, so an
expansion that is inside more of them than the model has is inside one of them twice: `CyclicExpansion`.
-/

namespace GoFixtures

/-- A sum type that is reached inside its own expansion, at the name where that was found out. -/
structure CyclicExpansion where
  sumType : String
deriving DecidableEq

/-- The names of fields that hold an identifier. -/
def identifierFields : List String := ["ID", "Id"]

/-- The literal of a primitive type. A text holds the name of the field; that of an identifier is made from
the enclosing type. -/
def primitiveValue (primitive field enclosing : String) : String :=
  match PrimitiveClass.ofName? primitive with
  | some .text =>
    if identifierFields.contains field then "\"" ++ enclosing ++ "ID\"" else "\"" ++ field ++ "\""
  | some .boolean => "true"
  | some .numeric => "1"
  | none => "nil"

/-- The spelling of a reference in a composite literal. -/
def typeName (o : Options) (registry : ExternalRegistry) : TypeRef → String
  | .pointer e => "*" ++ typeName o registry e
  | .sequence e => "[]" ++ typeName o registry e
  | .record n | .enumeration n | .typeAlias n => o.qualify n
  | .external n =>
    match registry.get? n with
    | some x => if x.typeExpression.isEmpty then n else x.typeExpression
    | none => n
  | .primitive n | .sumType n => n
  | .unresolved _ => "interface\x7b\x7d"

namespace Value

/-- The value of an external type. -/
def ofExternal (registry : ExternalRegistry) (name : String) : Value :=
  match registry.get? name with
  | some x => literal x.value
  | none => nothing

/-- The value of a reference, given the expansion of sum types. A pointer to an external type is the value of
the type. -/
def ofRef (o : Options) (registry : ExternalRegistry) (expand : String → Except CyclicExpansion Value)
    (field enclosing : String) : TypeRef → Except CyclicExpansion Value
  | .primitive n => .ok (literal (primitiveValue n field enclosing))
  | .record n | .enumeration n | .typeAlias n => .ok (fixture n)
  | .sumType n => expand n
  | .pointer (.unresolved _) => .ok nothing
  | .pointer (.external n) =>
    if registry.contains n then .ok (ofExternal registry n) else .ok (pointer nothing)
  | .pointer e => (ofRef o registry expand field enclosing e).map pointer
  | .sequence e => (ofRef o registry expand field enclosing e).map (sequence (typeName o registry e))
  | .external n => .ok (ofExternal registry n)
  | .unresolved _ => .ok nothing

/-- The values of the fields of a record, in order. -/
def ofFields (o : Options) (registry : ExternalRegistry) (expand : String → Except CyclicExpansion Value)
    (enclosing : String) : List Field → Except CyclicExpansion (List (String × Value))
  | [] => .ok []
  | f :: fields => do
    let value ← ofRef o registry expand f.name enclosing f.type
    let more ← ofFields o registry expand enclosing fields
    return (f.name, value) :: more

/-- The fields of the record under a name, if there is one. -/
def fieldsOf (m : TypeModel) (record : String) : List Field :=
  ((m.records.get? record).map Record.fields).getD []

/-- The expansion of a sum type inside at most `budget` others. -/
def ofSumType (m : TypeModel) (o : Options) (registry : ExternalRegistry) :
    Nat → String → Except CyclicExpansion Value
  | budget, sumType =>
    match m.member? sumType with
    | none => .ok nothing
    | some name =>
      match fieldsOf m name, budget with
      | [], _ => .ok (member (o.qualify name) [])
      | _ :: _, 0 => .error ⟨sumType⟩
      | fields, budget + 1 =>
        (ofFields o registry (ofSumType m o registry budget) name fields).map (member (o.qualify name))

/-- The expansion of a sum type. -/
def expand (m : TypeModel) (o : Options) (registry : ExternalRegistry) : String → Except CyclicExpansion Value :=
  ofSumType m o registry m.sumTypes.keys.length

end Value

/-- The placeholder value of a reference, for a field of an enclosing type. -/
def valueOf (m : TypeModel) (o : Options) (registry : ExternalRegistry) (field enclosing : String)
    (t : TypeRef) : Except CyclicExpansion Value :=
  Value.ofRef o registry (Value.expand m o registry) field enclosing t

/-- The placeholder value as it is written. -/
def synthesize (m : TypeModel) (o : Options) (registry : ExternalRegistry) (field enclosing : String)
    (t : TypeRef) : Except CyclicExpansion String :=
  (valueOf m o registry field enclosing t).map (Value.render o)

end GoFixtures
