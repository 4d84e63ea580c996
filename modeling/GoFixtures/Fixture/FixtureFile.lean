import GoFixtures.Fixture.Synthesis

/-!
# Fixture files

A fixture file defines one function for each alias, each enumeration and each record of a model, in this
order, and inside each group by name. So the same declarations always give the same text.

* `FixtureFile.ofModel` collects the imports and the functions, `FixtureFile.render` writes them in a style.
-/

namespace GoFixtures

/-- What a fixture function returns: a value in one expression, or a record with values for its fields. -/
inductive FixtureBody
  | expression (text : String)
  | fields (values : List (String × Value))

/-- The fixture function of a type. -/
structure FixtureFunction where
  type : String
  body : FixtureBody

/-- A file of fixture functions. -/
structure FixtureFile where
  package : String
  imports : List String
  functions : List FixtureFunction

/-- Values that are no value of their enumeration. -/
def reservedEnumValues : List String := ["_", "EnforceVersion"]

/-- The value that stands for an enumeration: the first one that is not reserved. -/
def defaultEnumValue? (values : List String) : Option String :=
  values.find? fun v => !reservedEnumValues.contains v

/-- The external type that a field refers to below pointers and sequences. -/
def externalOf? (f : Field) : Option String :=
  match f.type.leaf with
  | .external n => some n
  | _ => none

/-- The external types that the records refer to. -/
def usedExternals (m : TypeModel) : List String :=
  m.records.values.flatMap fun r => r.fields.filterMap externalOf?

/-- Strings in the order of their code points, each once. -/
def sortedDistinct (ss : List String) : List String :=
  (ss.mergeSort fun a b => decide (a ≤ b)).eraseDups

/-- The imports of a file: none if no external type is used, and the required ones with those of the used types
otherwise. -/
def collectImports (m : TypeModel) (registry : ExternalRegistry) : List String :=
  match usedExternals m with
  | [] => []
  | used =>
    sortedDistinct (registry.requiredImports
      ++ used.filterMap fun n => (registry.get? n).map ExternalType.importSpec)

namespace FixtureFunction

/-- The function of an alias converts a literal. -/
def ofAlias (o : Options) (a : Alias) : FixtureFunction :=
  ⟨a.name, .expression (o.qualify a.name ++ "(" ++ primitiveValue a.underlying a.name a.name ++ ")")⟩

/-- The function of an enumeration returns one of its values, if it has one. -/
def ofEnumeration? (o : Options) (e : Enumeration) : Option FixtureFunction :=
  (defaultEnumValue? e.values).map fun v => ⟨e.name, .expression (o.qualify v)⟩

/-- The function of a record gives each field a value. -/
def ofRecord (m : TypeModel) (o : Options) (registry : ExternalRegistry) (r : Record) :
    Except CyclicExpansion FixtureFunction :=
  (Value.ofFields o registry (Value.expand m o registry) r.name r.fields).map fun values =>
    ⟨r.name, .fields values⟩

/-- The line that a function begins with. -/
def signature (o : Options) (type : String) : String :=
  let qualified := o.qualify type
  match o.style with
  | .mutable =>
    "func " ++ o.fixtureName type ++ "(mods ...func(*" ++ qualified ++ ")) *" ++ qualified ++ " \x7b\n"
  | .plain => "func " ++ o.fixtureName type ++ "() " ++ qualified ++ " \x7b\n"

/-- The fields of a record, each on a line of its own. -/
def fieldLines (o : Options) (values : List (String × Value)) : String :=
  String.join (values.map fun (name, value) => "\t\t" ++ name ++ ": " ++ value.render o ++ ",\n")

/-- The lines between the first and the last of a function. -/
def bodyText (o : Options) (type : String) : FixtureBody → String
  | .expression text =>
    match o.style with
    | .mutable =>
      "\tvalue := " ++ text ++ "\n\tfor _, mod := range mods \x7b\n\t\tmod(&value)\n\t\x7d\n\treturn &value\n"
    | .plain => "\treturn " ++ text ++ "\n"
  | .fields values =>
    let lines := fieldLines o values
    match o.style with
    | .mutable =>
      "\tvalue := &" ++ o.qualify type ++ "\x7b\n" ++ lines ++ "\t\x7d\n"
        ++ "\tfor _, mod := range mods \x7b\n\t\tmod(value)\n\t\x7d\n\treturn value\n"
    | .plain => "\treturn " ++ o.qualify type ++ "\x7b\n" ++ lines ++ "\t\x7d\n"

/-- The function as it is written, with an empty line behind it. -/
def render (o : Options) (f : FixtureFunction) : String :=
  signature o f.type ++ bodyText o f.type f.body ++ "\x7d\n\n"

end FixtureFunction

namespace FixtureFile

/-- The file of a model. -/
def ofModel (m : TypeModel) (package : String) (o : Options) (registry : ExternalRegistry) :
    Except CyclicExpansion FixtureFile := do
  let records ← m.records.sortedValues.mapM (FixtureFunction.ofRecord m o registry)
  return {
    package
    imports := collectImports m registry
    functions := m.aliases.sortedValues.map (FixtureFunction.ofAlias o)
      ++ m.enumerations.sortedValues.filterMap (FixtureFunction.ofEnumeration? o) ++ records }

/-- The helper that makes a pointer to any value. -/
def pointerHelper : String := "func ptr[T any](v T) *T \x7b return &v \x7d"

/-- The import declaration; without imports there is none. -/
def importBlock : List String → String
  | [] => ""
  | imports => "import (\n" ++ String.join (imports.map fun i => "\t" ++ i ++ "\n") ++ ")\n\n"

/-- The file as it is written. -/
def render (o : Options) (f : FixtureFile) : String :=
  "package " ++ f.package ++ "\n\n" ++ importBlock f.imports ++ pointerHelper ++ "\n\n"
    ++ String.join (f.functions.map (FixtureFunction.render o))

end FixtureFile

/-- The text of the fixture file of a model. -/
def generate (m : TypeModel) (package : String) (o : Options) (registry : ExternalRegistry) :
    Except CyclicExpansion String :=
  (FixtureFile.ofModel m package o registry).map (FixtureFile.render o)

end GoFixtures
