import GoFixtures.Catalogue
import GoFixtures.Model.TypeRef

/-!
# Type models

The declared types of a package: records, enumerations, aliases and sum types, each kind in a catalogue.
References between them go by name and are looked up when they are needed, so records can refer to one
another.
-/

namespace GoFixtures

/-- A field of a record. -/
structure Field where
  name : String
  type : TypeRef
deriving DecidableEq

/-- A type with fields. -/
structure Record where
  name : String
  fields : List Field
deriving DecidableEq

/-- A type with a fixed list of values. -/
structure Enumeration where
  name : String
  values : List String
deriving DecidableEq

/-- A type that is represented as a primitive one, which is named. -/
structure Alias where
  name : String
  underlying : String
deriving DecidableEq

/-- The declared types. A sum type has the name of the record that stands for its members, as soon as one has
been found. -/
structure TypeModel where
  records : Catalogue Record
  enumerations : Catalogue Enumeration
  aliases : Catalogue Alias
  sumTypes : Catalogue (Option String)
deriving DecidableEq

namespace TypeModel

/-- The model without declarations. -/
def empty : TypeModel := ⟨.empty, .empty, .empty, .empty⟩

instance : Inhabited TypeModel := ⟨empty⟩

/-- Adds a record under its name. -/
def addRecord (m : TypeModel) (r : Record) : TypeModel :=
  { m with records := m.records.put r.name r }

/-- Adds an enumeration under its name. -/
def addEnumeration (m : TypeModel) (e : Enumeration) : TypeModel :=
  { m with enumerations := m.enumerations.put e.name e }

/-- Adds an alias under its name. -/
def addAlias (m : TypeModel) (a : Alias) : TypeModel :=
  { m with aliases := m.aliases.put a.name a }

/-- The record that stands for the members of a sum type. The empty name stands for none. -/
def member? (m : TypeModel) (sumType : String) : Option String :=
  match m.sumTypes.get? sumType with
  | some (some name) => if name.isEmpty then none else some name
  | _ => none

end TypeModel

end GoFixtures
