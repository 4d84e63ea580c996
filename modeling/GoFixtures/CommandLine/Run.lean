import GoFixtures.CommandLine.Host
import GoFixtures.CommandLine.Report
import GoFixtures.Library.Standard

/-!
# Running commands

What each command does: it reads a configuration and a model, and writes fixtures, the artifact of the model,
or where the playground is. Paths are those of a host; the configuration comes first, so that a fault in it is
the one to be reported. Of the libraries only their answers are used.

* `run` does what the arguments of the program ask for.
-/

namespace GoFixtures.CommandLine

variable [Libraries] {m : Type → Type} [Monad m] [Host m]

/-- An absolute path. -/
def absolute (p : String) : m (Except CommandError Path) := do
  return (← FileSystem.resolve (Path.ofString p)).mapError .ofResolve

/-- An argument that is not empty. -/
def given (argument : Option String) : Option String := argument.filter (· ≠ "")

/-- The configuration for a directory, and the directory that its paths start from. A directory without a
configuration has the one in which nothing is said. -/
def loadConfiguration (directory : Path) (argument : Option String) :
    m (Except CommandError (Configuration × Path)) := do
  match given argument with
  | some p =>
    match ← absolute p with
    | .error e => return .error e
    | .ok path => return ((← Configuration.load path).map fun c => (c, path.parent)).mapError .configuration
  | none =>
    let path := directory.child Configuration.fileName
    match ← FileSystem.pathExists path with
    | .error e => return .error (.unreachable e)
    | .ok false => return .ok ({}, directory)
    | .ok true => return ((← Configuration.load path).map fun c => (c, directory)).mapError .configuration

/-- The configuration for a directory that is given as text, and the directory. -/
def configure (directory : String) (argument : Option String) :
    m (Except CommandError (Path × Configuration × Path)) := do
  match ← absolute directory with
  | .error e => return .error e
  | .ok directory => return (← loadConfiguration directory argument).map fun found => (directory, found)

/-- The model in an artifact. -/
def modelOfArtifact : Except TextError String → Except StoredModelError TypeModel
  | .error e => .error (.unreadable e)
  | .ok text => (TypeModel.deserialize text).mapError .invalid

/-- Why the text of a source file is not known. A path with a null byte is no path of a file. -/
def unreadableSource (path : Path) : TextError → CommandError
  | .file e => if e.fault.isOfSystem then .unreadable path (.file e) else .unreachable e
  | .decoding e => .unreadable path (.decoding e)

/-- The model of a source file. -/
def modelOfSource (registry : ExternalRegistry) (path : Path) :
    Except TextError String → Except CommandError TypeModel
  | .error e => .error (unreadableSource path e)
  | .ok text => (TypeModel.ofSource registry text).mapError .source

/-- The model of an artifact, of a source file or of the package in a directory, and the remarks on it. -/
def loadModel (directory : Path) (source model : Option String) (registry : ExternalRegistry) :
    m (Except CommandError (TypeModel × List Remark)) := do
  match given model, given source with
  | some argument, _ =>
    let text ← FileSystem.readText (Path.ofString argument)
    return ((modelOfArtifact text).mapError (.model argument)).map fun t => (t, [])
  | none, some argument =>
    let path := Path.ofString argument
    return (modelOfSource registry path (← FileSystem.readText path)).map fun t => (t, [])
  | none, none =>
    return ((← LoadedPackage.load registry directory).mapError ofPackage).map fun p =>
      (p.model, p.warnings.map .warning)
where
  /-- An error of a package as one of a command. -/
  ofPackage : PackageError → CommandError
    | .unreachable e => .unreachable e
    | e => .package e

/-- Writes a text to a file, or to the output of the run if there is no file for it. -/
def writeResult (remarks : List Remark) (text : String) (path : Option Path) : m Report := do
  match path with
  | none =>
    match ← Host.print text with
    | .ok () => return .printed remarks text
    | .error e => return .failed remarks (.unprinted e)
  | some p =>
    match ← FileSystem.writeTextBelow p text with
    | .ok () => return .done (remarks ++ [.wrote p])
    | .error e => return .failed remarks (.output p e)

/-- The options of a configuration, with those of the arguments over them. -/
def optionsFor (c : Configuration) (s : GenerateSettings) : Options where
  qualifier := s.qualifier.getD c.options.qualifier
  insertion := s.insertion.getD c.options.insertion
  style := if s.isClassic then .plain else c.options.style

/-- Where the fixtures are written to. -/
def outputFor (c : Configuration) (base : Path) (s : GenerateSettings) : Option Path :=
  match given s.output, given c.output with
  | some p, _ => some (Path.ofString p)
  | none, some p => some (base.append (Path.ofString p))
  | none, none => none

/-- A text as the formatter leaves it, if what the formatter wrote is text. -/
def formatted (text : String) : m (Except CommandError String) := do
  return ((← Host.format text).outcome.map fun outcome => outcome.applyTo text).mapError .unformatted

/-- Generated code as it is to be written. -/
def finished (s : GenerateSettings) (code : String) : m (Except CommandError String) :=
  if s.isUnformatted then return .ok code else formatted code

/-- The error for a model that is not there. What is wrong with a path is said of the artifact, even where
none is given. -/
def missingModel (argument : Option String) : CommandError → CommandError
  | .unreachable e => .model (argument.getD "None") (.unreadable (.file e))
  | e => e

/-- Writes fixtures. -/
def runGenerate (s : GenerateSettings) : m Report := do
  match ← configure s.directory s.config with
  | .error e => return .failed [] e
  | .ok (directory, c, base) =>
    let registry := c.registry .standard
    match ← loadModel directory s.source s.model registry with
    | .error e => return .failed [] (missingModel s.model e)
    | .ok (model, remarks) =>
      match generate model ((given s.outputPackage).getD c.package) (optionsFor c s) registry with
      | .error e => return .failed remarks (.expansion e)
      | .ok code =>
        match ← finished s code with
        | .error e => return .failed remarks e
        | .ok text => writeResult remarks text (outputFor c base s)

/-- Writes the artifact of a model. -/
def runModel (s : ModelSettings) : m Report := do
  match ← configure s.directory none with
  | .error e => return .failed [] e
  | .ok (directory, c, _) =>
    match ← loadModel directory s.source none (c.registry .standard) with
    | .error e => return .failed [] e
    | .ok (model, remarks) => writeResult remarks (model.serialize ++ "\n") ((given s.output).map Path.ofString)

/-- Says where the playground is. -/
def runServe (s : ServeSettings) : m Report := do
  match ← configure s.directory s.config with
  | .error e => return .failed [] e
  | .ok _ =>
    let report := Report.serving ⟨s.host, s.port⟩
    match ← Host.print report.output with
    | .ok () => return report
    | .error e => return .failed [] (.unprinted e)

/-- Shows a help. Nothing is said where it is not printed. -/
def runHelp (command : Option Command) : m Report := do
  match ← Host.print (helpText command) with
  | .ok () => return .printed [] (helpText command)
  | .error _ => return .done []

/-- Does what is asked for. -/
def runInvocation : Invocation → m Report
  | .help command => runHelp command
  | .generate s => runGenerate s
  | .model s => runModel s
  | .serve s => runServe s

/-- Does what the arguments of the program ask for. -/
def run (arguments : List String) : m Report :=
  match Invocation.ofArguments arguments with
  | .error e => return .misused e
  | .ok i => runInvocation i

end GoFixtures.CommandLine
