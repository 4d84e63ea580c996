import GoFixtures.Library.DataClass
import GoFixtures.Model.TypeModel

/-!
# Models as data

A type model and its parts as data of the classes that are declared for them, and what such data are. A datum
is a part of a model only if its strings are texts.
-/

namespace GoFixtures

namespace TypeRef

/-- The datum of a reference. -/
def toDatum : TypeRef → Datum
  | primitive n => .object .primitiveRef [.ofString "primitive", .ofString n]
  | record n => .object .recordRef [.ofString "record", .ofString n]
  | enumeration n => .object .enumerationRef [.ofString "enumeration", .ofString n]
  | typeAlias n => .object .aliasRef [.ofString "alias", .ofString n]
  | sumType n => .object .sumTypeRef [.ofString "sum_type", .ofString n]
  | pointer e => .object .pointerRef [.ofString "pointer", e.toDatum]
  | sequence e => .object .sequenceRef [.ofString "sequence", e.toDatum]
  | external n => .object .externalRef [.ofString "external", .ofString n]
  | unresolved s => .object .unresolvedRef [.ofString "unresolved", .ofString s]

/-- The reference that a datum is. -/
def ofDatum? : Datum → Option TypeRef
  | .object .primitiveRef [_, n] => n.text?.map primitive
  | .object .recordRef [_, n] => n.text?.map record
  | .object .enumerationRef [_, n] => n.text?.map enumeration
  | .object .aliasRef [_, n] => n.text?.map typeAlias
  | .object .sumTypeRef [_, n] => n.text?.map sumType
  | .object .pointerRef [_, e] => (ofDatum? e).map pointer
  | .object .sequenceRef [_, e] => (ofDatum? e).map sequence
  | .object .externalRef [_, n] => n.text?.map external
  | .object .unresolvedRef [_, s] => s.text?.map unresolved
  | _ => none

end TypeRef

namespace Field

/-- The datum of a field. -/
def toDatum (f : Field) : Datum := .object .field [.ofString f.name, f.type.toDatum]

/-- The field that a datum is. -/
def ofDatum? : Datum → Option Field
  | .object .field [n, t] => do return ⟨← n.text?, ← TypeRef.ofDatum? t⟩
  | _ => none

end Field

namespace Record

/-- The datum of a record. -/
def toDatum (r : Record) : Datum := .object .record [.ofString r.name, .list (r.fields.map Field.toDatum)]

/-- The record that a datum is. -/
def ofDatum? : Datum → Option Record
  | .object .record [n, .list fields] => do return ⟨← n.text?, ← fields.mapM Field.ofDatum?⟩
  | _ => none

end Record

namespace Enumeration

/-- The datum of an enumeration. -/
def toDatum (e : Enumeration) : Datum := .object .enumeration [.ofString e.name, .list (e.values.map .ofString)]

/-- The enumeration that a datum is. -/
def ofDatum? : Datum → Option Enumeration
  | .object .enumeration [n, .list values] => do return ⟨← n.text?, ← values.mapM Datum.text?⟩
  | _ => none

end Enumeration

namespace Alias

/-- The datum of an alias. -/
def toDatum (a : Alias) : Datum := .object .typeAlias [.ofString a.name, (TypeRef.primitive a.underlying).toDatum]

/-- The alias that a datum is. -/
def ofDatum? : Datum → Option Alias
  | .object .typeAlias [n, .object .primitiveRef [_, u]] => do return ⟨← n.text?, ← u.text?⟩
  | _ => none

end Alias

namespace Catalogue

variable {α : Type}

/-- The datum of a catalogue, in its order. -/
def toDatum (f : α → Datum) (c : Catalogue α) : Datum :=
  .dictionary (c.entries.map fun e => (Text.codesOf e.1, f e.2))

/-- The name and the value that an entry of a dictionary is. -/
def entryOfDatum? (f : Datum → Option α) (e : List Nat × Datum) : Option (String × α) := do
  return (← Text.stringOfCodes? e.1, ← f e.2)

/-- The catalogue that a datum is. -/
def ofDatum? (f : Datum → Option α) : Datum → Option (Catalogue α)
  | .dictionary entries => (entries.mapM (entryOfDatum? f)).map Catalogue.ofList
  | _ => none

end Catalogue

namespace TypeModel

/-- The datum of the member of a sum type. -/
def memberToDatum : Option String → Datum
  | some name => .ofString name
  | none => .nothing

/-- The member of a sum type that a datum is. -/
def memberOfDatum? : Datum → Option (Option String)
  | .nothing => some none
  | d => d.text?.map some

/-- The datum of a model. -/
def toDatum (m : TypeModel) : Datum :=
  .object .typeModel [m.records.toDatum Record.toDatum, m.enumerations.toDatum Enumeration.toDatum,
    m.aliases.toDatum Alias.toDatum, m.sumTypes.toDatum memberToDatum]

/-- The model that a datum is. -/
def ofDatum? : Datum → Option TypeModel
  | .object .typeModel [records, enumerations, aliases, sumTypes] => do
    return ⟨← Catalogue.ofDatum? Record.ofDatum? records, ← Catalogue.ofDatum? Enumeration.ofDatum? enumerations,
      ← Catalogue.ofDatum? Alias.ofDatum? aliases, ← Catalogue.ofDatum? memberOfDatum? sumTypes⟩
  | _ => none

end TypeModel

end GoFixtures
