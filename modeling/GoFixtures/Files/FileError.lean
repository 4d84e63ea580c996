import GoFixtures.Files.Path
import GoFixtures.Text.Utf8

/-!
# Failures of the file system

What the operating system says when a file cannot be read or written, and what is wrong with a file that is no
text or with a text that cannot be written.
-/

namespace GoFixtures

open Text

/-- Why something cannot be done with a path. Two of the faults are not like the others: a path with a null
byte never gets as far as the operating system, and of an `unnamed` fault it is not said which path it is
about. -/
inductive FileFault
  | notFound
  | alreadyExists
  | notDirectory
  | isDirectory
  | nameTooLong
  | nullByte
  | other (number : Nat) (text : String)
  | unnamed (number : Nat) (text : String)
deriving DecidableEq

namespace FileFault

/-- The number of the fault. -/
def number : FileFault → Nat
  | notFound => 2
  | alreadyExists => 17
  | notDirectory => 20
  | isDirectory => 21
  | nameTooLong => 36
  | nullByte => 22
  | other n _ => n
  | unnamed n _ => n

/-- The fault in words. -/
def text : FileFault → String
  | notFound => "No such file or directory"
  | alreadyExists => "File exists"
  | notDirectory => "Not a directory"
  | isDirectory => "Is a directory"
  | nameTooLong => "File name too long"
  | nullByte => "embedded null byte"
  | other _ t => t
  | unnamed _ t => t

/-- Whether the fault is one of the operating system. -/
def isOfSystem (fault : FileFault) : Bool := fault ≠ nullByte

/-- Whether something is not there. -/
def isMissing (fault : FileFault) : Bool := fault.number = notFound.number

end FileFault

/-- A refusal and the path it is about. -/
structure FileError where
  fault : FileFault
  path : Path
deriving DecidableEq

namespace FileError

/-- The error in words. -/
def message (e : FileError) : String :=
  match e.fault with
  | .nullByte => e.fault.text
  | .unnamed n t => "[Errno " ++ toString n ++ "] " ++ t
  | fault => "[Errno " ++ toString fault.number ++ "] " ++ fault.text ++ ": " ++ quote e.path.toText

end FileError

/-- Why there is no absolute path for a path. -/
inductive ResolveError
  | file (error : FileError)
  | linkLoop (path : Path)
deriving DecidableEq

/-- Why a text cannot be read from a file. -/
inductive TextError
  | file (error : FileError)
  | decoding (error : Utf8.DecodeError)
deriving DecidableEq

namespace TextError

/-- The error in words. -/
def message : TextError → String
  | file e => e.message
  | decoding e => e.message

end TextError

/-- The characters of a text that a codec has no bytes for: the first of them, its place, how many there are,
and why there are none. -/
structure EncodeError where
  codec : String
  code : Nat
  start : Nat
  count : Nat
  reason : String
deriving DecidableEq

namespace EncodeError

/-- A code point as an escape. -/
def escape (n : Nat) : String :=
  String.ofList ('\\' ::
    if n ≤ 0xff then 'x' :: hexDigits 2 n
    else if n ≤ 0xffff then 'u' :: hexDigits 4 n
    else 'U' :: hexDigits 8 n)

/-- The error in words. -/
def message (e : EncodeError) : String :=
  let place :=
    if e.count = 1 then "character '" ++ escape e.code ++ "' in position " ++ toString e.start
    else "characters in position " ++ toString e.start ++ "-" ++ toString (e.start + e.count - 1)
  "'" ++ e.codec ++ "' codec can't encode " ++ place ++ ": " ++ e.reason

end EncodeError

/-- Why a text cannot be written to a file. -/
inductive WriteError
  | file (error : FileError)
  | encoding (error : EncodeError)
deriving DecidableEq

namespace WriteError

/-- The error in words. -/
def message : WriteError → String
  | file e => e.message
  | encoding e => e.message

/-- Whether the operating system refuses. -/
def isOfSystem : WriteError → Bool
  | file e => e.fault.isOfSystem
  | encoding _ => false

end WriteError

/-- Why a text cannot be printed. -/
inductive PrintError
  | refused (number : Nat) (text : String)
  | encoding (error : EncodeError)
deriving DecidableEq

namespace PrintError

/-- The error in words. -/
def message : PrintError → String
  | refused n t => "[Errno " ++ toString n ++ "] " ++ t
  | encoding e => e.message

end PrintError

/-- The text of a file that has been read. -/
def textOfBytes (bytes : Except FileError (List UInt8)) : Except TextError String :=
  match bytes with
  | .error e => .error (.file e)
  | .ok bs =>
    match Utf8.decode bs with
    | .error e => .error (.decoding e)
    | .ok s => .ok (universalNewlines s)

end GoFixtures
