import GoFixtures.Files.FileTree

/-!
# File systems

What a program asks of the file system that it works on. A `FileTree` that changes from step to step is one.

* `makeDirectories` makes a directory and those above it that are missing; a directory that is there already
  is no fault.
-/

namespace GoFixtures

/-- Steps that can use files. -/
class FileSystem (m : Type → Type) where
  resolve : Path → m (Except ResolveError Path)
  isDirectory : Path → m (Except FileError Bool)
  pathExists : Path → m (Except FileError Bool)
  list : Path → m (Except FileError (List String))
  read : Path → m (Except FileError (List UInt8))
  makeDirectory : Path → m (Except FileError Unit)
  write : Path → String → m (Except WriteError Unit)

namespace FileTree

/-- The tree after a change, unless the change was refused. -/
def changed (t : FileTree) : Except FileError FileTree → Except FileError Unit × FileTree
  | .error e => (.error e, t)
  | .ok t' => (.ok (), t')

instance : FileSystem (StateM FileTree) where
  resolve p := fun t => (t.resolve p, t)
  isDirectory p := fun t => (t.isDirectory p, t)
  pathExists p := fun t => (t.pathExists p, t)
  list p := fun t => (.ok (t.list p), t)
  read p := fun t => (t.read p, t)
  makeDirectory p := fun t => t.changed (t.makeDirectory p)
  write p text := fun t =>
    let (r, t') := t.changed (t.write p (Text.Utf8.encode text))
    (r.mapError .file, t')

end FileTree

namespace FileSystem

variable {m : Type → Type} [Monad m] [FileSystem m]

/-- The text of a file. -/
def readText (p : Path) : m (Except TextError String) := do
  return textOfBytes (← FileSystem.read p)

/-- Takes a refusal to make a directory back if there is one. A path with a null byte is not looked for. -/
def unlessDirectory (p : Path) (e : FileError) : m (Except FileError Unit) := do
  if e.fault.isOfSystem then
    match ← isDirectory p with
    | .ok true => return .ok ()
    | .ok false => return .error e
    | .error e' => return .error e'
  else return .error e

/-- Makes a directory; without one above it, that one is made first. -/
def makeDirectories (p : Path) : m (Except FileError Unit) := do
  match ← makeDirectory p with
  | .ok () => return .ok ()
  | .error e =>
    if e.fault.isMissing then
      if h : p.names = [] then return .error e
      else
        have := Path.length_parent_lt h
        match ← makeDirectories p.parent with
        | .error e => return .error e
        | .ok () =>
          match ← makeDirectory p with
          | .ok () => return .ok ()
          | .error e => if e.fault.isMissing then return .error e else unlessDirectory p e
    else unlessDirectory p e
termination_by p.names.length

/-- Writes a text to a file in a directory that is made where it is missing. -/
def writeTextBelow (p : Path) (text : String) : m (Except WriteError Unit) := do
  match ← makeDirectories p.parent with
  | .error e => return .error (.file e)
  | .ok () => write p text

end FileSystem

end GoFixtures
