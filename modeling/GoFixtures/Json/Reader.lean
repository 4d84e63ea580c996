import GoFixtures.Json.Basic
import GoFixtures.Text.Integer

/-!
# Reading JSON

`Json.parse` reads a document and says what is wrong with one that is none: the cause and its place.
Besides the standard it takes `NaN`, `Infinity` and `-Infinity` for numbers, and of a repeated name
in an object the last value.

A reader takes the rest of the document and returns a value and what is left of it. Values nest to
any depth: the depth a reader may still go is a number that the length of the document bounds.
-/

namespace GoFixtures.Json

open Text

/-- What keeps a text from being a document. -/
inductive Cause
  | byteOrderMark
  | expectingValue
  | expectingName
  | expectingColon
  | expectingComma
  | unterminatedString
  | controlCharacter
  | invalidEscape
  | invalidUnit
  | extraData
deriving DecidableEq

/-- The cause in words. -/
def Cause.message : Cause → String
  | byteOrderMark => "Unexpected UTF-8 BOM (decode using utf-8-sig)"
  | expectingValue => "Expecting value"
  | expectingName => "Expecting property name enclosed in double quotes"
  | expectingColon => "Expecting ':' delimiter"
  | expectingComma => "Expecting ',' delimiter"
  | unterminatedString => "Unterminated string starting at"
  | controlCharacter => "Invalid control character at"
  | invalidEscape => "Invalid \\escape"
  | invalidUnit => "Invalid \\uXXXX escape"
  | extraData => "Extra data"

/-- A fault of a document: a cause with the number of characters from its place to the end, or a
whole number with more digits than are read. -/
inductive Fault
  | malformed (cause : Cause) (left : Nat)
  | oversized (digits : Nat)
deriving DecidableEq

/-- Reads something at the beginning of a text and returns it with the rest of the text. -/
abbrev Reader (α : Type) := List Char → Except Fault (α × List Char)

/-- Stops with a cause at the beginning of `s`. -/
def stop {α : Type} (cause : Cause) (s : List Char) : Except Fault α :=
  .error (.malformed cause s.length)

/-- The four characters that may stand between the parts of a document. -/
def isSpace (c : Char) : Bool := c = ' ' || c = '\t' || c = '\n' || c = '\r'

/-- Leaves out the space that a text begins with. -/
def skipSpace (s : List Char) : List Char := s.dropWhile isSpace

/-! ### Strings -/

/-- The unit that four hexadecimal digits stand for. The text goes on behind them. -/
def unit? : List Char → Option (Nat × List Char)
  | a :: b :: c :: d :: e :: rest => do
    let a ← hexValue? a
    let b ← hexValue? b
    let c ← hexValue? c
    let d ← hexValue? d
    return (((a * 16 + b) * 16 + c) * 16 + d, e :: rest)
  | _ => none

/-- The code point that a letter behind a backslash stands for. -/
def shortEscape? (c : Char) : Option Nat :=
  if c = '\x22' || c = '\\' || c = '/' then some c.toNat
  else if c = 'b' then some 0x08
  else if c = 'f' then some 0x0c
  else if c = 'n' then some 0x0a
  else if c = 'r' then some 0x0d
  else if c = 't' then some 0x09
  else none

/-- The code point behind the letter `u` of an escape. Two escapes can make up a pair; for the second
one to count, a character has to follow it. -/
def unitEscape? (s : List Char) : Except Fault (Nat × List Char) :=
  match unit? s with
  | none => .error (.malformed .invalidUnit (s.length + 1))
  | some (high, rest) =>
    if !Surrogate.isHigh high then .ok (high, rest) else
      match rest with
      | '\\' :: 'u' :: more =>
        if more.length < 5 then .ok (high, rest) else
          match unit? more with
          | none => .error (.malformed .invalidUnit (more.length + 1))
          | some (low, next) =>
            if Surrogate.isLow low then
              .ok (Surrogate.pairValue high low, next)
            else .ok (high, rest)
      | _ => .ok (high, rest)

theorem unit?_length {s rest : List Char} {n : Nat} (h : unit? s = some (n, rest)) :
    rest.length < s.length := by
  unfold unit? at h
  split at h
  · simp only [Option.bind_eq_bind, Option.bind_eq_some_iff, Option.pure_def, Option.some.injEq,
      Prod.mk.injEq] at h
    obtain ⟨_, _, _, _, _, _, _, _, -, rfl⟩ := h
    simp only [List.length_cons]
    omega
  · simp at h

theorem unitEscape?_length {s rest : List Char} {n : Nat} (h : unitEscape? s = .ok (n, rest)) :
    rest.length < s.length := by
  unfold unitEscape? at h
  split at h
  · simp at h
  · rename_i high rest' hu
    have hl := unit?_length hu
    split at h
    · simp at h; simp [← h.2]; exact hl
    · split at h
      · rename_i more
        split at h
        · simp at h; simp [← h.2]; simpa using hl
        · split at h
          · simp at h
          · rename_i hv
            have hm := unit?_length hv
            simp at hl
            split at h
            · simp at h; rw [← h.2]; omega
            · simp at h; simp [← h.2]; exact hl
      · simp at h; simp [← h.2]; exact hl

/-- The code points of a string up to the quote that closes it. `start` counts the characters from
the quote that opened it to the end of the document. -/
def stringBody (start : Nat) (s : List Char) : Except Fault (List Nat × List Char) :=
  match s with
  | [] => .error (.malformed .unterminatedString start)
  | '\x22' :: rest => .ok ([], rest)
  | ['\\'] => .error (.malformed .unterminatedString start)
  | '\\' :: 'u' :: rest =>
    match h : unitEscape? rest with
    | .error e => .error e
    | .ok (n, more) =>
      have := unitEscape?_length h
      (stringBody start more).map fun (codes, rest) => (n :: codes, rest)
  | '\\' :: c :: rest =>
    match shortEscape? c with
    | none => .error (.malformed .invalidEscape (rest.length + 2))
    | some n => (stringBody start rest).map fun (codes, rest) => (n :: codes, rest)
  | c :: rest =>
    if c.toNat ≤ 0x1f then stop .controlCharacter (c :: rest)
    else (stringBody start rest).map fun (codes, rest) => (c.toNat :: codes, rest)
termination_by s.length
decreasing_by all_goals (simp_wf; try omega)

/-- The code points of a string, the opening quote of which has been read. -/
def stringCodes : Reader (List Nat) := fun s => stringBody (s.length + 1) s

/-! ### Numbers -/

/-- The digits of the whole part: a zero, or digits that begin with none. -/
def wholePart? : List Char → Option (List Char × List Char)
  | '0' :: rest => some (['0'], rest)
  | c :: rest =>
    if c.isDigit then some (c :: rest.takeWhile Char.isDigit, rest.dropWhile Char.isDigit) else none
  | [] => none

/-- The digits behind a point; a point without a digit behind it does not belong to the number. -/
def fractionPart : List Char → List Char × List Char
  | '.' :: c :: rest =>
    if c.isDigit then (c :: rest.takeWhile Char.isDigit, rest.dropWhile Char.isDigit)
    else ([], '.' :: c :: rest)
  | s => ([], s)

/-- The exponent; its mark does not belong to the number if no digit follows. -/
def exponentPart (s : List Char) : Option Int × List Char :=
  match s with
  | c :: rest =>
    if c = 'e' || c = 'E' then
      let (negative, body) :=
        match rest with
        | '-' :: more => (true, more)
        | '+' :: more => (false, more)
        | more => (false, more)
      match body.takeWhile Char.isDigit with
      | [] => (none, s)
      | ds =>
        let n : Int := digitsValue ds
        (some (if negative then -n else n), body.dropWhile Char.isDigit)
    else (none, s)
  | [] => (none, [])

/-- The number that a text begins with. -/
def number : Reader Json := fun s =>
  let (negative, body) :=
    match s with
    | '-' :: rest => (true, rest)
    | _ => (false, s)
  match wholePart? body with
  | none => stop .expectingValue s
  | some (whole, rest) =>
    let (fraction, rest) := fractionPart rest
    let (exponent?, rest) := exponentPart rest
    if fraction.isEmpty && exponent?.isNone then
      if maxIntegerDigits < whole.length then .error (.oversized whole.length)
      else
        let n : Int := digitsValue whole
        .ok (integer (if negative then -n else n), rest)
    else
      let digits := digitsValue (whole ++ fraction)
      .ok (double (.ofDecimal negative digits (exponent?.getD 0 - fraction.length)), rest)

/-! ### Values -/

/-- The items of an array behind a value or its opening bracket, up to the closing bracket. `rounds`
bounds their number. -/
def items (value : Reader Json) : Nat → Reader (List Json)
  | 0, s => stop .expectingValue s
  | rounds + 1, s => do
    let (j, s) ← value s
    match skipSpace s with
    | ']' :: rest => return ([j], rest)
    | ',' :: rest =>
      let (js, rest) ← items value rounds (skipSpace rest)
      return (j :: js, rest)
    | s => stop .expectingComma s

/-- The members of an object, from the name of one up to the closing brace, with the code points of their
names. -/
def members (value : Reader Json) : Nat → Reader (List (List Nat × Json))
  | 0, s => stop .expectingName s
  | rounds + 1, s =>
    match s with
    | '\x22' :: rest => do
      let (codes, s) ← stringCodes rest
      match skipSpace s with
      | ':' :: rest =>
        let (j, s) ← value (skipSpace rest)
        match skipSpace s with
        | '}' :: rest => return ([(codes, j)], rest)
        | ',' :: rest =>
          let (ms, rest) ← members value rounds (skipSpace rest)
          return ((codes, j) :: ms, rest)
        | s => stop .expectingComma s
      | s => stop .expectingColon s
    | s => stop .expectingName s

/-- The members with a value set under a name: at the place of the name if it is there, else at the end. -/
def setMember (codes : List Nat) (j : Json) : List (List Nat × Json) → List (List Nat × Json)
  | [] => [(codes, j)]
  | m :: ms => if m.1 = codes then (codes, j) :: ms else m :: setMember codes j ms

/-- Each name once: with the last value, at the first place. -/
def distinct (ms : List (List Nat × Json)) : List (List Nat × Json) :=
  ms.foldl (fun done m => setMember m.1 m.2 done) []

/-- A value that nests at most to the given depth. -/
def value : Nat → Reader Json
  | 0, s => stop .expectingValue s
  | depth + 1, s =>
    match s with
    | '\x22' :: rest => do
      let (codes, rest) ← stringCodes rest
      return (ofCodes codes, rest)
    | '{' :: rest =>
      match skipSpace rest with
      | '}' :: rest => return (object [], rest)
      | s => do
        let (ms, rest) ← members (value depth) s.length s
        return (ofMembers (distinct ms), rest)
    | '[' :: rest =>
      match skipSpace rest with
      | ']' :: rest => return (array [], rest)
      | s => do
        let (js, rest) ← items (value depth) (s.length + 1) s
        return (array js, rest)
    | 'n' :: 'u' :: 'l' :: 'l' :: rest => return (null, rest)
    | 't' :: 'r' :: 'u' :: 'e' :: rest => return (bool true, rest)
    | 'f' :: 'a' :: 'l' :: 's' :: 'e' :: rest => return (bool false, rest)
    | 'N' :: 'a' :: 'N' :: rest => return (double .notANumber, rest)
    | 'I' :: 'n' :: 'f' :: 'i' :: 'n' :: 'i' :: 't' :: 'y' :: rest =>
      return (double (.infinite false), rest)
    | '-' :: 'I' :: 'n' :: 'f' :: 'i' :: 'n' :: 'i' :: 't' :: 'y' :: rest =>
      return (double (.infinite true), rest)
    | s => number s

/-- A whole document. -/
def document (s : List Char) : Except Fault Json :=
  match s with
  | '\ufeff' :: _ => stop .byteOrderMark s
  | _ => do
    let (j, rest) ← value (s.length + 1) (skipSpace s)
    match skipSpace rest with
    | [] => return j
    | rest => stop .extraData rest

/-! ### Errors -/

/-- Why a text is no document. A place is counted in characters from zero; the line and the column
count from one. -/
inductive ReadError
  | malformed (cause : Cause) (line column offset : Nat)
  | oversized (digits : Nat)
deriving DecidableEq

/-- The error in words. -/
def ReadError.message : ReadError → String
  | malformed cause line column offset =>
    cause.message ++ ": line " ++ toString line ++ " column " ++ toString column
      ++ " (char " ++ toString offset ++ ")"
  | oversized digits => tooManyDigits digits

/-- The place of a fault in the text that has it. -/
def Fault.locate (s : List Char) : Fault → ReadError
  | .malformed cause left =>
    let offset := s.length - left
    let before := s.take offset
    .malformed cause (before.count '\n' + 1) ((before.reverse.takeWhile (· ≠ '\n')).length + 1) offset
  | .oversized digits => .oversized digits

/-- The value of a document. -/
def parse (text : String) : Except ReadError Json :=
  (document text.toList).mapError (Fault.locate text.toList)

end GoFixtures.Json
