import GoFixtures.External
import GoFixtures.Files.FileSystem
import GoFixtures.Fixture.Options
import GoFixtures.Library.Libraries

/-!
# Configuration

A configuration says how the fixtures of a package are written and which further external types there are. It
is a YAML mapping, which the libraries read and check.

* `Configuration.ofText` makes a configuration of a text, `Configuration.load` reads a file.
-/

namespace GoFixtures

/-- What can be configured. -/
structure Configuration where
  package : String := "fixtures"
  options : Options := {}
  output : Option String := none
  externalTypes : Entries ExternalType := []
deriving DecidableEq

namespace Configuration

/-- The name of the file where nothing else is said. -/
def fileName : String := ".fixturegen.yaml"

/-- A registry with the external types of the configuration. -/
def registry (c : Configuration) (base : ExternalRegistry) : ExternalRegistry := base.withTypes c.externalTypes

/-! ### Checked data -/

/-- An external type with its name. -/
def externalTypeOfDatum? : Datum → Option (String × ExternalType)
  | .object .externalTypeEntry [name, importSpec, value, typeExpression] => do
    return (← name.text?, ⟨← importSpec.text?, ← value.text?, ← typeExpression.text?⟩)
  | _ => none

/-- A text, or nothing. -/
def outputOfDatum? : Datum → Option (Option String)
  | .nothing => some none
  | d => d.text?.map some

/-- The configuration that a datum is. There is none if a string of it is no text. -/
def ofDatum? : Datum → Option Configuration
  | .object .generatorConfig [package, qualifier, insertion, .truth isMutable, output, .list externalTypes] => do
    return {
      package := ← package.text?
      options := ⟨← qualifier.text?, ← insertion.text?, if isMutable then .mutable else .plain⟩
      output := ← outputOfDatum? output
      externalTypes := ← externalTypes.mapM externalTypeOfDatum? }
  | _ => none

end Configuration

/-! ### Files -/

variable [Libraries]

/-- Why a file holds no configuration. A file with `surrogates` holds a configuration, in which there are
strings that are no texts; nothing more is said about such configurations. -/
inductive ConfigurationError
  | notFound (path : Path)
  | unreadable (path : Path) (error : FileError)
  | undecodable (error : Text.Utf8.DecodeError)
  | notYaml (path : Path) (error : Libraries.YamlError)
  | noValue (error : Libraries.YamlFailure)
  | notMapping (path : Path)
  | invalid (path : Path) (report : Libraries.Report)
  | surrogates (path : Path)

namespace ConfigurationError

/-- What is said before the particulars. -/
def heading : ConfigurationError → String
  | notFound path => "Config file not found: " ++ path.toText
  | unreadable path _ => "Cannot read config file '" ++ path.toText ++ "'"
  | undecodable e => e.message
  | notYaml path _ => "Invalid YAML in " ++ path.toText
  | noValue e => Libraries.failureText e
  | notMapping path => path.toText ++ ": config must be a YAML mapping"
  | invalid path _ => "Invalid config '" ++ path.toText ++ "'"
  | surrogates path => "surrogates in '" ++ path.toText ++ "'"

/-- The error in words. -/
def message (e : ConfigurationError) : String :=
  match e with
  | unreadable _ cause => e.heading ++ ": " ++ cause.message
  | notYaml _ cause => e.heading ++ ": " ++ Libraries.yamlText cause
  | invalid _ report => e.heading ++ ": " ++ Libraries.reportText report
  | _ => e.heading

/-- Whether commands report the error. They do so with the errors of a file and of its data, but not with one
that comes of decoding the file, of a path that is none, or of a failure of the YAML reader. -/
def isReported : ConfigurationError → Bool
  | unreadable _ e => e.fault.isOfSystem
  | undecodable _ => false
  | noValue _ => false
  | surrogates _ => false
  | _ => true

end ConfigurationError

namespace Configuration

/-- The configuration that data are. -/
def ofData (path : Path) (d : Libraries.Data) : Except ConfigurationError Configuration :=
  match Libraries.validate (.object .generatorConfig) d with
  | .error report => .error (.invalid path report)
  | .ok item =>
    match ofDatum? item with
    | some c => .ok c
    | none => .error (.surrogates path)

/-- The configuration in a text. Where the text says nothing, it is checked as an empty mapping. -/
def ofText (path : Path) (s : String) : Except ConfigurationError Configuration :=
  match Libraries.load s with
  | .error (.inl e) => .error (.notYaml path e)
  | .error (.inr e) => .error (.noValue e)
  | .ok d =>
    match Libraries.kindOf d with
    | .nothing => ofData path (Libraries.ofJson (.object []))
    | .mapping => ofData path d
    | .other => .error (.notMapping path)

/-- The configuration in what has been read from a file. -/
def ofFile (path : Path) : Except TextError String → Except ConfigurationError Configuration
  | .ok s => ofText path s
  | .error (.decoding e) => .error (.undecodable e)
  | .error (.file e) => .error (if e.fault = .notFound then .notFound path else .unreadable path e)

/-- The configuration in a file. -/
def load {m : Type → Type} [Monad m] [FileSystem m] (path : Path) :
    m (Except ConfigurationError Configuration) := do
  return ofFile path (← FileSystem.readText path)

end Configuration

end GoFixtures
