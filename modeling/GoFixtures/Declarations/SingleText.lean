import GoFixtures.Declarations.Model
import GoFixtures.Go.SourceFile

/-!
# The model of a single text

A text stands alone: what it does not declare is guessed by its spelling.
-/

namespace GoFixtures

open Go

namespace TypeModel

/-- The model of the declarations of a source text. -/
def ofSource (registry : ExternalRegistry) (source : String) : Except SourceError TypeModel :=
  (SourceFile.parse source).map fun file =>
    let index := DeclarationIndex.ofFiles [file]
    index.toModel (lexicalScope index) registry

end TypeModel

/-- What is said of a text that has no model. -/
def sourceErrorMessage (e : SourceError) : String := "parse error: " ++ e.message

end GoFixtures
