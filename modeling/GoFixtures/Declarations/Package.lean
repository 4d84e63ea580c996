import GoFixtures.Declarations.Model
import GoFixtures.Files.FileSystem
import GoFixtures.Go.SourceFile

/-!
# The model of a package

The Go files of a directory are one package: whatever one of them declares is known in all.
`LoadedPackage.ofEntries` does not depend on the order in which the directory lists its entries; it reads the
files by name, and the first one says what the package is called.
-/

namespace GoFixtures

open Go

/-- An entry of a directory: its name and the text that it holds. -/
structure SourceEntry where
  name : String
  text : Except TextError String

namespace SourceEntry

/-- Whether a name ends in the given characters. -/
def endsWith (name ending : String) : Bool := ending.toList.isSuffixOf name.toList

/-- Whether an entry is a source file of the package: test files are not. -/
def isSource (name : String) : Bool := endsWith name ".go" && !endsWith name "_test.go"

end SourceEntry

/-- A package and what there is to remark about it. -/
structure LoadedPackage where
  name : String
  model : TypeModel
  files : List String
  warnings : List String

/-- Why there is no package. -/
inductive PackageError
  | unreachable (error : FileError)
  | notDirectory (directory : Path)
  | noSources (directory : Path)
  | unreadable (path : Path) (error : TextError)
  | source (path : Path) (error : SourceError)
deriving DecidableEq

namespace PackageError

/-- The error in words. -/
def message : PackageError → String
  | unreachable e => e.message
  | notDirectory directory => "Package directory not found: " ++ directory.toText
  | noSources directory => "No Go source files found in '" ++ directory.toText ++ "'"
  | unreadable path e => "Cannot read source file '" ++ path.toText ++ "': " ++ e.message
  | source path e => "Parse error in '" ++ path.toText ++ "': " ++ e.message

/-- Why the text of a source file is not known. -/
def ofText (path : Path) : TextError → PackageError
  | .file e => if e.fault.isOfSystem then unreadable path (.file e) else unreachable e
  | .decoding e => unreadable path (.decoding e)

end PackageError

namespace LoadedPackage

/-- The source file in an entry of a directory. -/
def fileOf (directory : Path) (entry : SourceEntry) : Except PackageError (String × SourceFile) :=
  match entry.text with
  | .error e => .error (.ofText (directory.child entry.name) e)
  | .ok text =>
    match SourceFile.parse text with
    | .error e => .error (.source (directory.child entry.name) e)
    | .ok file => .ok (entry.name, file)

/-- The remark on a file of another package. -/
def foreignWarning (package : String) (file : String × SourceFile) : Option String :=
  if file.2.package = package then none
  else some ("Skipping '" ++ file.1 ++ "': package '" ++ file.2.package ++ "' is not '" ++ package ++ "'")

/-- The remark on a generic type. -/
def genericWarning (spec : TypeSpec) : String :=
  "Skipping generic type '" ++ spec.name ++ "' (line " ++ toString spec.line ++ ")"

/-- The package of files; the first file names it. -/
def ofFiles (registry : ExternalRegistry) (package : String) (files : List (String × SourceFile)) :
    LoadedPackage :=
  let own := files.filter fun file => file.2.package = package
  let index := DeclarationIndex.ofFiles (own.map Prod.snd)
  { name := package
    model := index.toModel (packageScope index) registry
    files := own.map Prod.fst
    warnings := files.filterMap (foreignWarning package) ++ index.genericSpecs.map genericWarning }

/-- The entries that are source files, by name. -/
def sources (entries : List SourceEntry) : List SourceEntry :=
  (entries.filter fun e => SourceEntry.isSource e.name).mergeSort fun a b => decide (a.name ≤ b.name)

/-- The package in a directory. -/
def ofEntries (registry : ExternalRegistry) (directory : Path) (entries : List SourceEntry) :
    Except PackageError LoadedPackage :=
  match (sources entries).mapM (fileOf directory) with
  | .error e => .error e
  | .ok [] => .error (.noSources directory)
  | .ok (first :: more) => .ok (ofFiles registry first.2.package (first :: more))

/-- The package in a directory of a file system. -/
def load {m : Type → Type} [Monad m] [FileSystem m] (registry : ExternalRegistry) (directory : Path) :
    m (Except PackageError LoadedPackage) := do
  match ← FileSystem.isDirectory directory with
  | .error e => return .error (.unreachable e)
  | .ok false => return .error (.notDirectory directory)
  | .ok true =>
    match ← FileSystem.list directory with
    | .error e => return .error (.unreachable e)
    | .ok names =>
      let entries ← (names.filter SourceEntry.isSource).mapM fun name => do
        return (⟨name, ← FileSystem.readText (directory.child name)⟩ : SourceEntry)
      return ofEntries registry directory entries

end LoadedPackage

end GoFixtures
