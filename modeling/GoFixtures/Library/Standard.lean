import GoFixtures.Configuration
import GoFixtures.Library.Checker
import GoFixtures.Model.Artifact

/-!
# Standard libraries

One choice of libraries: the YAML reader and the checks of this project. Their words are short: a report says
how many faults there are. Beside it stand parts of models and configurations as JSON, checked and written in
the same way.
-/

namespace GoFixtures

namespace Libraries

/-- How deep a document is looked into: members of mappings in a list in a mapping. -/
def depth : Nat := 3

/-- The value of a text. A text without a document is nothing. -/
def loadYaml (s : String) : Except (Yaml.Error ⊕ Yaml.ScalarError) Yaml.Value :=
  match Yaml.Value.parse depth s with
  | .error ⟨.noValue e, _, _⟩ => .error (.inr e)
  | .error e => .error (.inl e)
  | .ok none => .ok (.scalar .null)
  | .ok (some v) => .ok v

/-- What the program asks of a value. -/
def kindOfValue : Yaml.Value → DataKind
  | .scalar .null => .nothing
  | .mapping _ => .mapping
  | _ => .other

instance standard : Libraries where
  Data := Yaml.Value
  YamlError := Yaml.Error
  YamlFailure := Yaml.ScalarError
  Report := Rejection
  kindOf := kindOfValue
  ofJson := Yaml.Value.ofJson
  load := loadYaml
  yamlText := Yaml.Error.message
  failureText := Yaml.ScalarError.message
  validate shape v := (Checker.check shape v).mapError fun issues => ⟨shape.title, issues⟩
  reportText := Rejection.heading
  dump := Datum.toJson

end Libraries

/-! ### Parts by themselves -/

namespace Checked

/-- A checked datum as what it is to be. It is nothing of the kind if a string of it is no text. -/
def read {α : Type} (ofDatum? : Datum → Option α) (c : Checked Datum) : Checked α :=
  match c with
  | .error issues => .error issues
  | .ok item =>
    match ofDatum? item with
    | some a => .ok a
    | none => fault .notText

end Checked

namespace TypeRef

/-- A reference as JSON. -/
def toJson (t : TypeRef) : Json := Libraries.dump t.toDatum

/-- A reference from JSON. -/
def ofJson (j : Json) : Checked TypeRef := .read ofDatum? (Checker.check .typeRef (.ofJson j))

end TypeRef

namespace Record

/-- A record as JSON. -/
def toJson (r : Record) : Json := Libraries.dump r.toDatum

/-- A record from JSON. -/
def ofJson (j : Json) : Checked Record := .read ofDatum? (Checker.check (.object .record) (.ofJson j))

end Record

namespace Enumeration

/-- An enumeration as JSON. -/
def toJson (e : Enumeration) : Json := Libraries.dump e.toDatum

/-- An enumeration from JSON. -/
def ofJson (j : Json) : Checked Enumeration := .read ofDatum? (Checker.check (.object .enumeration) (.ofJson j))

end Enumeration

namespace Alias

/-- An alias as JSON. -/
def toJson (a : Alias) : Json := Libraries.dump a.toDatum

/-- An alias from JSON. -/
def ofJson (j : Json) : Checked Alias := .read ofDatum? (Checker.check (.object .typeAlias) (.ofJson j))

end Alias

namespace TypeModel

/-- A model from JSON. -/
def ofJson (j : Json) : Checked TypeModel := .read ofDatum? (Checker.check (.object .typeModel) (.ofJson j))

end TypeModel

namespace Configuration

/-- A configuration from a value. -/
def ofValue (v : Yaml.Value) : Checked Configuration :=
  .read ofDatum? (Checker.check (.object .generatorConfig) v)

end Configuration

end GoFixtures
