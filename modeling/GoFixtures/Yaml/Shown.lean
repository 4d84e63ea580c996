import GoFixtures.Decimal.Shortest
import GoFixtures.Text.Quoted
import GoFixtures.Yaml.Value

/-!
# Values in messages

The form in which a message shows a value that it complains about: like JSON, but with names for the constants
and with quotations for the strings.
-/

namespace GoFixtures.Yaml

/-- A scalar in a message. -/
def Scalar.shown : Scalar → String
  | null => "None"
  | bool b => if b then "True" else "False"
  | integer n => toString n
  | double x => x.text
  | indefinite => Double.notANumber.text
  | bytes values => Text.quoteBytes values
  | date d => d.text
  | moment m => m.text
  | text codes => Text.quoteCodes codes

namespace Value

mutual

/-- A value in a message. -/
def shown : Value → String
  | scalar s => s.shown
  | sequence items => "[" ++ commaSeparated (shownItems items) ++ "]"
  | mapping entries => "\x7b" ++ commaSeparated (shownMembers entries) ++ "\x7d"

/-- The items of a sequence in a message. -/
def shownItems : List Value → List String
  | [] => []
  | v :: vs => shown v :: shownItems vs

/-- The entries of a mapping in a message. -/
def shownMembers : List (Scalar × Value) → List String
  | [] => []
  | (key, v) :: es => (key.shown ++ ": " ++ shown v) :: shownMembers es

end

/-- The text that a value is. -/
def text? : Value → Option String
  | scalar (.text codes) => Text.stringOfCodes? codes
  | _ => none

/-- A value as a text of its own: a string is shown without quotes, and without surrogates. -/
def bareShown : Value → String
  | scalar (.text codes) => Text.Surrogate.replace codes
  | v => shown v

end Value

end GoFixtures.Yaml
