import GoFixtures.Declarations.Index

/-!
# From declarations to a model

`DeclarationIndex.toModel` enters the sum types first and then goes through the declarations in order, so that
each record is matched against all of them.
-/

namespace GoFixtures

open Go

/-- Fields that are the bookkeeping of generated code and never get a value. -/
def reservedFields : List String := ["state", "unknownFields", "sizeCache", "EnforceVersion"]

/-- Whether a field of a struct becomes a field of the record. -/
def keepsField (name : String) : Bool := !reservedFields.contains name && isExported name

/-- The fields of a record, in the order of the struct. Embedded fields have no names and drop out. -/
def recordFields (scope : Scope) (registry : ExternalRegistry) (fields : List (FieldDecl TypeExpr)) :
    List Field :=
  fields.flatMap fun f =>
    (f.names.filter keepsField).map fun name => ⟨name, classify scope registry f.type⟩

namespace DeclarationIndex

/-- Whether a declaration is that of a sum type. -/
def declaresSumType (spec : TypeSpec) : Bool :=
  match spec.type with
  | .interface _ => !spec.isGeneric && isSumTypeName spec.name
  | _ => false

/-- Adds what one declaration declares. -/
def addSpec (index : DeclarationIndex) (scope : Scope) (registry : ExternalRegistry) (m : TypeModel)
    (spec : TypeSpec) : TypeModel :=
  if spec.isGeneric || !isExported spec.name then m else
    match spec.type with
    | .struct fields =>
      (m.addRecord ⟨spec.name, recordFields scope registry fields⟩).assignMember spec.name
    | _ =>
      match index.underlyingPrimitive? spec.name with
      | none => m
      | some primitive =>
        match index.kindOf? spec.name with
        | some .enumeration =>
          m.addEnumeration ⟨spec.name, (index.enumValues.get? spec.name).getD []⟩
        | some .typeAlias => m.addAlias ⟨spec.name, primitive⟩
        | _ => m

/-- The model of the declarations. -/
def toModel (index : DeclarationIndex) (scope : Scope) (registry : ExternalRegistry) : TypeModel :=
  let sums := (index.specs.filter declaresSumType).map TypeSpec.name
  index.specs.foldl (index.addSpec scope registry) (sums.foldl TypeModel.registerSumType .empty)

end DeclarationIndex

end GoFixtures
