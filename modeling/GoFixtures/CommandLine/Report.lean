import GoFixtures.CommandLine.Help
import GoFixtures.Configuration
import GoFixtures.Declarations.Package
import GoFixtures.Declarations.SingleText
import GoFixtures.Fixture.FixtureFile
import GoFixtures.Model.Artifact

/-!
# Reports

What a run of the program says, and how it ends. Most errors are reported in words of their own; the few that no
command has words for break the run off.
-/

namespace GoFixtures.CommandLine

open Go

variable [Libraries]

/-- Why a file holds no model. -/
inductive StoredModelError
  | unreadable (error : TextError)
  | invalid (error : ArtifactError)

namespace StoredModelError

/-- The error in words. -/
def message : StoredModelError → String
  | unreadable e => e.message
  | invalid e => e.message

/-- Whether commands report the error. -/
def isReported : StoredModelError → Bool
  | invalid .surrogates => false
  | _ => true

end StoredModelError

/-- Why a command fails. -/
inductive CommandError
  | configuration (error : ConfigurationError)
  | package (error : PackageError)
  | unreadable (path : Path) (error : TextError)
  | source (error : SourceError)
  | model (argument : String) (error : StoredModelError)
  | expansion (error : CyclicExpansion)
  | unformatted (error : Text.Utf8.DecodeError)
  | output (path : Path) (error : WriteError)
  | unprinted (error : PrintError)
  | unreachable (error : FileError)
  | linkLoop (path : Path)

namespace CommandError

/-- The error in words. -/
def message : CommandError → String
  | configuration e => e.message
  | package e => e.message
  | unreadable path e => "Cannot read source file '" ++ path.toText ++ "': " ++ e.message
  | source e => sourceErrorMessage e
  | model argument e => "cannot load model '" ++ argument ++ "': " ++ e.message
  | expansion _ => "a sum type is part of its own expansion"
  | unformatted e => e.message
  | output path e => "cannot write output file '" ++ path.toText ++ "': " ++ e.message
  | unprinted e => e.message
  | unreachable e => e.message
  | linkLoop path => "Symlink loop from " ++ Text.quote path.toText

/-- Whether commands report the error. -/
def isReported : CommandError → Bool
  | configuration e => e.isReported
  | package (.source _ e) => e.isReported
  | source e => e.isReported
  | model _ e => e.isReported
  | expansion _ => false
  | unformatted _ => false
  | output _ e => e.isOfSystem
  | unprinted _ => false
  | unreachable _ => false
  | linkLoop _ => false
  | _ => true

/-- A path that could not be made absolute. -/
def ofResolve : ResolveError → CommandError
  | .file e => unreachable e
  | .linkLoop path => linkLoop path

end CommandError

/-- A remark to the user. -/
inductive Remark
  | warning (text : String)
  | failure (error : CommandError)
  | usage (error : UsageError)
  | wrote (path : Path)

namespace Remark

/-- The words of the remark. -/
def text : Remark → String
  | warning t => "Warning: " ++ t
  | failure e => "Error: " ++ e.message
  | usage e => e.message
  | wrote path => "Wrote " ++ path.toText

/-- What is shown before the words. -/
def introduction : Remark → String
  | usage e => CommandLine.usage e.command
  | _ => ""

/-- The remark as it is shown, with a line end. -/
def shown (r : Remark) : String := r.introduction ++ r.text ++ "\n"

end Remark

/-- What is shown of remarks. -/
def shownRemarks (remarks : List Remark) : String := String.join (remarks.map Remark.shown)

/-- How a run ends: with an exit code, or broken off. -/
inductive Ending
  | exit (code : Nat)
  | brokenOff (error : CommandError)

/-- Where the playground is served. -/
structure Endpoint where
  host : String
  port : Int
deriving DecidableEq

/-- What a run says, how it ends, and where it serves the playground if it does. -/
structure Report where
  output : String
  remarks : List Remark
  ending : Ending
  endpoint : Option Endpoint

namespace Report

/-- A run that writes to its output only. -/
def printed (remarks : List Remark) (output : String) : Report := ⟨output, remarks, .exit 0, none⟩

/-- A run that ends well. -/
def done (remarks : List Remark) : Report := printed remarks ""

/-- A run that ends with an error. -/
def failed (remarks : List Remark) (e : CommandError) : Report :=
  if e.isReported then ⟨"", remarks ++ [.failure e], .exit 1, none⟩ else ⟨"", remarks, .brokenOff e, none⟩

/-- A run whose arguments mean nothing. -/
def misused (e : UsageError) : Report := ⟨"", [.usage e], .exit 2, none⟩

/-- A run that serves the playground. -/
def serving (e : Endpoint) : Report :=
  ⟨"Serving fixture generator playground at http://" ++ e.host ++ ":" ++ toString e.port ++ "/\n", [],
    .exit 0, some e⟩

/-- What a run says beside its output. -/
def errors (r : Report) : String := shownRemarks r.remarks

end Report

end GoFixtures.CommandLine
