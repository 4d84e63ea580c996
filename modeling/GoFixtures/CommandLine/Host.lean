import GoFixtures.Files.FileSystem
import GoFixtures.Fixture.Formatter

/-!
# Hosts

What the program runs on: a file system, an output, and a formatter for generated code.

* `Host`: the steps that a host offers.
* `World`: a host by its state. Looking at it changes nothing, so what is seen is a function of the state.
* `Machine`: a world in memory, with an output that takes every text and a formatter that treats every text alike.
-/

namespace GoFixtures.CommandLine

/-- Steps that can use files, the output and the formatter. -/
class Host (m : Type → Type) extends FileSystem m where
  print : String → m (Except PrintError Unit)
  format : String → m FormatterRun

/-- States that can be looked at and changed. Of none of the answers is anything supposed: files may be links,
and any step may be refused for any reason. -/
class World (σ : Type) where
  resolve : σ → Path → Except ResolveError Path
  isDirectory : σ → Path → Except FileError Bool
  pathExists : σ → Path → Except FileError Bool
  list : σ → Path → Except FileError (List String)
  read : σ → Path → Except FileError (List UInt8)
  format : σ → String → FormatterRun
  makeDirectory : Path → StateM σ (Except FileError Unit)
  write : Path → String → StateM σ (Except WriteError Unit)
  print : String → StateM σ (Except PrintError Unit)

instance {σ : Type} [World σ] : Host (StateM σ) where
  resolve p := fun s => (World.resolve s p, s)
  isDirectory p := fun s => (World.isDirectory s p, s)
  pathExists p := fun s => (World.pathExists s p, s)
  list p := fun s => (World.list s p, s)
  read p := fun s => (World.read s p, s)
  makeDirectory := World.makeDirectory
  write := World.write
  print := World.print
  format code := fun s => (World.format s code, s)

/-- A host in memory. -/
structure Machine where
  files : FileTree
  formatter : FormatterOutcome

namespace Machine

/-- A step on the files of a machine. -/
def onFiles {α : Type} (step : StateM FileTree α) : StateM Machine α := fun s =>
  let (a, files) := step.run s.files
  (a, { s with files })

instance : World Machine where
  resolve s := s.files.resolve
  isDirectory s := s.files.isDirectory
  pathExists s := s.files.pathExists
  list s p := .ok (s.files.list p)
  read s := s.files.read
  format s _ := s.formatter.run
  makeDirectory p := onFiles (FileSystem.makeDirectory p)
  write p text := onFiles (FileSystem.write p text)
  print _ := return .ok ()

end Machine

end GoFixtures.CommandLine
