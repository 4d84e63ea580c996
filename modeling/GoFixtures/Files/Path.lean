import GoFixtures.Text.Quoted
import GoFixtures.Text.Split

/-!
# Paths

A path is a list of names below the root or below the working directory. Empty names and single points say
nothing and are left out; a double point stays, because it is the file system that knows where it leads.
-/

namespace GoFixtures

/-- Where a path starts: at the working directory, or at the root. Two slashes for the root are kept as they
are. -/
inductive PathStart
  | here
  | root
  | doubleRoot
deriving DecidableEq, Inhabited

/-- A path. -/
structure Path where
  start : PathStart
  names : List String
deriving DecidableEq, Inhabited

namespace Path

/-- Whether a path starts at the root. -/
def isAbsolute (p : Path) : Bool := p.start ≠ .here

/-- Where the path starts that a text stands for. -/
def startOf : List Char → PathStart
  | ['/', '/'] => .doubleRoot
  | '/' :: '/' :: c :: _ => if c = '/' then .root else .doubleRoot
  | '/' :: _ => .root
  | _ => .here

/-- The path that a text stands for. -/
def ofString (s : String) : Path where
  start := startOf s.toList
  names := ((Text.split '/' s.toList).map String.ofList).filter fun n => n ≠ "" && n ≠ "."

/-- Names with slashes between them. -/
def joinNames : List String → String
  | [] => ""
  | [n] => n
  | n :: ns => n ++ "/" ++ joinNames ns

/-- The path as it is shown. -/
def toText (p : Path) : String :=
  match p.start with
  | .root => "/" ++ joinNames p.names
  | .doubleRoot => "//" ++ joinNames p.names
  | .here => if p.names.isEmpty then "." else joinNames p.names

/-- A path below this one, unless it is absolute. -/
def append (p q : Path) : Path :=
  if q.isAbsolute then q else { p with names := p.names ++ q.names }

/-- The entry of the directory with a name. -/
def child (p : Path) (name : String) : Path := { p with names := p.names ++ [name] }

/-- The path without its last name. -/
def parent (p : Path) : Path := { p with names := p.names.dropLast }

theorem length_parent_lt {p : Path} (h : p.names ≠ []) : p.parent.names.length < p.names.length := by
  have := List.length_pos_iff.2 h
  simp only [parent, List.length_dropLast]
  omega

/-- Whether no path can be written like this one: a null byte ends the text of a path. -/
def hasNullByte (p : Path) : Bool := p.names.any fun n => n.toList.contains '\x00'

/-- The last name. -/
def fileName (p : Path) : String := p.names.getLast?.getD ""

/-- The names without double points: each takes the name before it away. -/
def normalNames (before : List String) : List String → List String
  | [] => before
  | n :: ns => if n = ".." then normalNames before.dropLast ns else normalNames (before ++ [n]) ns

/-- The absolute path without double points, seen from a working directory. -/
def resolve (workingDirectory p : Path) : Path :=
  let q := workingDirectory.append p
  ⟨.root, normalNames [] q.names⟩

end Path

end GoFixtures
