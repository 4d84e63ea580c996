import GoFixtures.Files.FileError

/-!
# File trees

A file system held in memory: directories and files by their names below the root. Paths are followed name by
name, and every name but the last has to lead to a directory.

* `FileTree.read`, `FileTree.makeDirectory`, `FileTree.write` refuse what an operating system refuses, for the
  same reason.
-/

namespace GoFixtures

/-- What a path leads to. -/
inductive FileNode
  | directory
  | file (bytes : List UInt8)
deriving DecidableEq

/-- Files and directories by their names below the root, and the directory that relative paths start from. The
root itself has no entry. -/
structure FileTree where
  nodes : List (List String × FileNode)
  workingDirectory : List String

namespace FileTree

/-- The node at a place. -/
def node? (t : FileTree) : List String → Option FileNode
  | [] => some .directory
  | names => (t.nodes.find? fun n => n.1 = names).map Prod.snd

/-- The most bytes that a name may have. -/
def maxNameBytes : Nat := 255

/-- The most bytes that the text of a path may have. -/
def maxPathBytes : Nat := 4095

/-- Where names lead from a place that has been reached. -/
def walk (t : FileTree) (here : List String) : List String → Except FileFault (List String)
  | [] => .ok here
  | n :: ns =>
    match t.node? here with
    | none => .error .notFound
    | some (.file _) => .error .notDirectory
    | some .directory =>
      if maxNameBytes < n.utf8ByteSize then .error .nameTooLong
      else walk t (if n = ".." then here.dropLast else here ++ [n]) ns

/-- Where a path leads; there need not be anything yet. -/
def locate (t : FileTree) (p : Path) : Except FileFault (List String) :=
  if p.hasNullByte then .error .nullByte
  else if maxPathBytes < p.toText.utf8ByteSize then .error .nameTooLong
  else t.walk (if p.isAbsolute then [] else t.workingDirectory) p.names

/-- The absolute path for a path. There are no links that it would lead over. -/
def resolve (t : FileTree) (p : Path) : Except ResolveError Path :=
  if p.hasNullByte then .error (.file ⟨.nullByte, p⟩) else .ok (Path.resolve ⟨.root, t.workingDirectory⟩ p)

/-- What a path leads to. -/
def look (t : FileTree) (p : Path) : Except FileFault FileNode :=
  match t.locate p with
  | .error e => .error e
  | .ok names =>
    match t.node? names with
    | none => .error .notFound
    | some n => .ok n

/-- Whether a path leads to a node of some kind. That a name is too long is no answer. -/
def leadsTo ( isWanted : FileNode → Bool) (t : FileTree) (p : Path) : Except FileError Bool :=
  match t.look p with
  | .ok n => .ok (isWanted n)
  | .error .nameTooLong => .error ⟨.nameTooLong, p⟩
  | .error _ => .ok false

/-- Whether a path leads to anything. -/
def pathExists : FileTree → Path → Except FileError Bool := leadsTo fun _ => true

/-- Whether a path leads to a directory. -/
def isDirectory : FileTree → Path → Except FileError Bool := leadsTo (· = .directory)

/-- The names in a directory. -/
def list (t : FileTree) (p : Path) : List String :=
  match t.locate p with
  | .error _ => []
  | .ok here => t.nodes.filterMap fun (names, _) =>
      if names.dropLast = here then names.getLast? else none

/-- The bytes of a file. -/
def read (t : FileTree) (p : Path) : Except FileError (List UInt8) :=
  match t.look p with
  | .ok (.file bytes) => .ok bytes
  | .ok .directory => .error ⟨.isDirectory, p⟩
  | .error fault => .error ⟨fault, p⟩

/-- Puts a node at a place, over the one that may be there. -/
def put (t : FileTree) (names : List String) (node : FileNode) : FileTree :=
  { t with nodes := t.nodes.filter (fun n => n.1 ≠ names) ++ [(names, node)] }

/-- Makes one directory. -/
def makeDirectory (t : FileTree) (p : Path) : Except FileError FileTree :=
  match t.locate p with
  | .error fault => .error ⟨fault, p⟩
  | .ok names =>
    match t.node? names with
    | some _ => .error ⟨.alreadyExists, p⟩
    | none => .ok (t.put names .directory)

/-- Writes a file. -/
def write (t : FileTree) (p : Path) (bytes : List UInt8) : Except FileError FileTree :=
  match t.locate p with
  | .error fault => .error ⟨fault, p⟩
  | .ok names =>
    match t.node? names with
    | some .directory => .error ⟨.isDirectory, p⟩
    | _ => .ok (t.put names (.file bytes))

end FileTree

end GoFixtures
