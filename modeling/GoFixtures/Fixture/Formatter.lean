import GoFixtures.Fixture.FixtureFile
import GoFixtures.Text.Blank
import GoFixtures.Text.Utf8

/-!
# Formatting

Generated code is run through the `gofmt` tool where that works, and is left as it is where it does not. The
tool stands outside. What it did to a text is a `FormatterRun`, and a `FormatterOutcome` once its bytes are
read as texts.
-/

namespace GoFixtures

/-- What came of running the tool, with texts for what it wrote. -/
inductive FormatterOutcome
  | missing
  | timeout
  | exited (code : Int) (output errors : String)
deriving DecidableEq

/-- Why a text was not formatted. -/
inductive FormatterError
  | missing
  | timeout
  | rejected (errors : String)
deriving DecidableEq

namespace FormatterError

/-- The error in words. -/
def message : FormatterError → String
  | missing => "gofmt executable not found on PATH"
  | timeout => "gofmt timed out"
  | rejected errors => "gofmt: " ++ errors

end FormatterError

namespace FormatterOutcome

/-- The formatted text, or why there is none. -/
def result : FormatterOutcome → Except FormatterError String
  | missing => .error .missing
  | timeout => .error .timeout
  | exited code output errors => if code = 0 then .ok output else .error (.rejected (Text.strip errors))

/-- The formatted text, or the text itself if formatting failed. -/
def applyTo (outcome : FormatterOutcome) (text : String) : String :=
  match outcome.result with
  | .ok formatted => formatted
  | .error _ => text

end FormatterOutcome

/-- What came of running the tool. -/
inductive FormatterRun
  | missing
  | timeout
  | exited (code : Int) (output errors : List UInt8)
deriving DecidableEq

namespace FormatterRun

/-- The texts that the tool wrote: its output first, then its errors. -/
def outcome : FormatterRun → Except Text.Utf8.DecodeError FormatterOutcome
  | missing => .ok .missing
  | timeout => .ok .timeout
  | exited code output errors => do
    let output ← Text.Utf8.decode output
    let errors ← Text.Utf8.decode errors
    return .exited code (Text.universalNewlines output) (Text.universalNewlines errors)

end FormatterRun

/-- A run of the tool with this outcome. -/
def FormatterOutcome.run : FormatterOutcome → FormatterRun
  | missing => .missing
  | timeout => .timeout
  | exited code output errors => .exited code (Text.Utf8.encode output) (Text.Utf8.encode errors)

end GoFixtures
