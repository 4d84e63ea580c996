import GoFixtures.Declarations.SingleText
import GoFixtures.Fixture.Formatter

/-!
# The playground

A page where declarations are pasted and fixtures come back. Here is what the page shows for what was entered;
a text that cannot be read gives its error instead.
-/

namespace GoFixtures

open Go

/-- A failure that no command reports in words of its own. -/
inductive Fault
  | source (error : SourceError)
  | expansion (error : CyclicExpansion)
deriving DecidableEq

namespace Playground

/-- The title of the page. -/
def title : String := "Fixture Generator Playground"

/-- The package of generated code where none is given. -/
def defaultPackage : String := "fixtures"

/-- The fixtures for a source text, formatted, or what is wrong with it. -/
def fixturesFor (registry : ExternalRegistry) (formatter : FormatterOutcome) (source package : String)
    (style : Style) : Except Fault String :=
  match TypeModel.ofSource registry source with
  | .error e => if e.isReported then .ok ("error: " ++ sourceErrorMessage e) else .error (.source e)
  | .ok m =>
    match generate m package { style } registry with
    | .error e => .error (.expansion e)
    | .ok text => .ok (formatter.applyTo text)

/-- What the page shows. An entry that is missing or empty has its default; every style but `classic` is the
mutable one. -/
def update (registry : ExternalRegistry) (formatter : FormatterOutcome) (source package style : Option String) :
    Except Fault String :=
  let package := match package with
    | none | some "" => defaultPackage
    | some p => p
  fixturesFor registry formatter (source.getD "") package
    (if style = some "classic" then .plain else .mutable)

end Playground

end GoFixtures
