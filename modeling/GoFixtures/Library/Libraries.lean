import GoFixtures.Json.Basic
import GoFixtures.Library.DataClass

/-!
# Libraries

What the program takes from libraries of others: reading YAML, checking data against the declarations of their
classes, and writing data. The program says what it does with whatever they answer. One choice of libraries is
`Libraries.standard`.
-/

namespace GoFixtures

/-- What the program asks of data that have been read. -/
inductive DataKind
  | nothing
  | mapping
  | other
deriving DecidableEq

/-- The libraries.

* `Data` are the values that a document is read as, `kindOf` tells what the program asks of them, and `ofJson`
  gives those of JSON.
* `load` reads a text as YAML. What is wrong with the text is an `YamlError`; a `YamlFailure` is any other
  error that comes of it.
* `validate` checks a value and makes a datum of the given shape, or it says what is wrong in a `Report`.
* `dump` writes a datum as JSON. -/
class Libraries where
  Data : Type
  YamlError : Type
  YamlFailure : Type
  Report : Type
  kindOf : Data → DataKind
  ofJson : Json → Data
  load : String → Except (YamlError ⊕ YamlFailure) Data
  yamlText : YamlError → String
  failureText : YamlFailure → String
  validate : Shape → Data → Except Report Datum
  reportText : Report → String
  dump : Datum → Json

end GoFixtures
