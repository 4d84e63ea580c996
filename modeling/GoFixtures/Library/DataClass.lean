import GoFixtures.Text.Surrogate

/-!
# Classes of data

The program declares what its data look like: the attributes of each class, and for each attribute the key
under which a document has it, what its value has to be, and what it is where the document leaves it out.
Documents are checked against these declarations, and data written by them, by a library (`Libraries`).

* `DataClass.attributes`: the declarations, of the type model and of the configuration.
* `Datum`: data in the order of the declarations.
-/

namespace GoFixtures

/-- The classes: the kinds of references to types, the other parts of a type model, and the parts of a
configuration. -/
inductive DataClass
  | primitiveRef
  | recordRef
  | enumerationRef
  | aliasRef
  | sumTypeRef
  | pointerRef
  | sequenceRef
  | externalRef
  | unresolvedRef
  | field
  | record
  | enumeration
  | typeAlias
  | typeModel
  | externalTypeEntry
  | generatorConfig
deriving DecidableEq

/-- What a value has to be. A value of one of several classes is told by the word under its key `kind`. -/
inductive Shape
  | text
  | truth
  | nullable (shape : Shape)
  | literal (word : String)
  | list (shape : Shape)
  | dictionary (shape : Shape)
  | object (dataClass : DataClass)
  | tagged (classes : List DataClass)

/-- Data. A text is a sequence of code points, and an object has the values of its attributes in the order of
their declarations. -/
inductive Datum
  | nothing
  | truth (value : Bool)
  | text (codes : List Nat)
  | list (items : List Datum)
  | dictionary (entries : List (List Nat × Datum))
  | object (dataClass : DataClass) (values : List Datum)

namespace Datum

/-- The datum of a text. -/
def ofString (s : String) : Datum := text (Text.codesOf s)

/-- The text that a datum is. There is none if it has a surrogate. -/
def text? : Datum → Option String
  | text codes => Text.stringOfCodes? codes
  | _ => none

theorem text?_ofString (s : String) : (ofString s).text? = some s := Text.stringOfCodes?_codesOf s

end Datum

/-- The declaration of an attribute. -/
structure Attribute where
  name : String
  key : String
  shape : Shape
  default : Option Datum

namespace Attribute

/-- The word that tells a class among others. -/
def kind (word : String) : Attribute := ⟨"kind", "kind", .literal word, some (.ofString word)⟩

/-- An attribute that has to be there. -/
def required (name : String) (shape : Shape) : Attribute := ⟨name, name, shape, none⟩

/-- A list that is empty where it is left out. -/
def listOf (name : String) (shape : Shape) : Attribute := ⟨name, name, .list shape, some (.list [])⟩

/-- A dictionary that is empty where it is left out. -/
def dictionaryOf (name : String) (shape : Shape) : Attribute :=
  ⟨name, name, .dictionary shape, some (.dictionary [])⟩

end Attribute

namespace DataClass

/-- The classes of references to types. -/
def typeRefs : List DataClass :=
  [primitiveRef, recordRef, enumerationRef, aliasRef, sumTypeRef, pointerRef, sequenceRef, externalRef,
    unresolvedRef]

end DataClass

namespace Shape

/-- A reference to a type. -/
def typeRef : Shape := tagged DataClass.typeRefs

end Shape

namespace DataClass

/-- The attributes of a class. -/
def attributes : DataClass → List Attribute
  | primitiveRef => [.kind "primitive", .required "name" .text]
  | recordRef => [.kind "record", .required "name" .text]
  | enumerationRef => [.kind "enumeration", .required "name" .text]
  | aliasRef => [.kind "alias", .required "name" .text]
  | sumTypeRef => [.kind "sum_type", .required "name" .text]
  | pointerRef => [.kind "pointer", .required "element" .typeRef]
  | sequenceRef => [.kind "sequence", .required "element" .typeRef]
  | externalRef => [.kind "external", .required "name" .text]
  | unresolvedRef => [.kind "unresolved", ⟨"spelling", "spelling", .text, some (.ofString "")⟩]
  | field => [.required "name" .text, .required "type" .typeRef]
  | record => [.required "name" .text, .listOf "fields" (.object field)]
  | enumeration => [.required "name" .text, .listOf "values" .text]
  | typeAlias => [.required "name" .text, .required "underlying" (.object primitiveRef)]
  | typeModel =>
    [.dictionaryOf "records" (.object record), .dictionaryOf "enumerations" (.object enumeration),
      .dictionaryOf "aliases" (.object typeAlias), .dictionaryOf "sum_types" (.nullable .text)]
  | externalTypeEntry =>
    [.required "name" .text, ⟨"import_spec", "import", .text, none⟩, .required "value" .text,
      ⟨"type_expression", "type", .text, some (.ofString "")⟩]
  | generatorConfig =>
    [⟨"package", "package", .text, some (.ofString "fixtures")⟩,
      ⟨"type_prefix", "type-prefix", .text, some (.ofString "")⟩,
      ⟨"function_infix", "function-infix", .text, some (.ofString "")⟩,
      ⟨"mod_style", "mod-style", .truth, some (.truth true)⟩,
      ⟨"output", "output", .nullable .text, some .nothing⟩,
      ⟨"external_types", "external-types", .list (.object externalTypeEntry), some (.list [])⟩]

/-- The word that tells a class among others: what its first attribute has to be, if that is a single word. -/
def tag? (c : DataClass) : Option String :=
  match c.attributes.head?.map Attribute.shape with
  | some (.literal word) => some word
  | _ => none

/-- What a class is called in messages. -/
def title : DataClass → String
  | primitiveRef => "PrimitiveTypeRef"
  | recordRef => "RecordTypeRef"
  | enumerationRef => "EnumerationTypeRef"
  | aliasRef => "AliasTypeRef"
  | sumTypeRef => "SumTypeRef"
  | pointerRef => "PointerTypeRef"
  | sequenceRef => "SequenceTypeRef"
  | externalRef => "ExternalTypeRef"
  | unresolvedRef => "UnresolvedTypeRef"
  | field => "Field"
  | record => "Record"
  | enumeration => "Enumeration"
  | typeAlias => "Alias"
  | typeModel => "TypeModel"
  | externalTypeEntry => "ExternalTypeEntry"
  | generatorConfig => "GeneratorConfig"

/-- Whether other keys than those of the attributes are a fault. -/
def isClosed : DataClass → Bool
  | externalTypeEntry => true
  | generatorConfig => true
  | _ => false

end DataClass

end GoFixtures
