import GoFixtures.Decimal.Arithmetic
import GoFixtures.Decimal.Reader
import GoFixtures.Text.Base64
import GoFixtures.Text.Lowercase
import GoFixtures.Yaml.Error
import GoFixtures.Yaml.Tag

/-!
# Scalars

What the text of a scalar means under its tag. A text can be told by its tag to be a number, a date or bytes
without being written like one; then it has no value.

* `Scalar.ofText` reads a text under a tag.
* `Scalar.isSame` tells whether two scalars are the same key.
-/

namespace GoFixtures.Yaml

/-- A value without parts. `indefinite` is a number that came out of a computation without being one, and
differs from every other; the constant for what is no number is a `double`. -/
inductive Scalar
  | null
  | bool (value : Bool)
  | integer (value : Int)
  | double (value : Double)
  | indefinite
  | bytes (values : List UInt8)
  | date (value : Date)
  | moment (value : Moment)
  | text (codes : List Nat)
deriving DecidableEq

namespace Scalar

/-- A scalar for a string. -/
def ofString (s : String) : Scalar := text (Text.codesOf s)

/-- A scalar, or why there is none. -/
abbrev Reading := Except ScalarError

/-! ### Numbers -/

/-- The code points of a text without the underscores. -/
def ungrouped (codes : List Nat) : List Nat := codes.filter (· ≠ '_'.toNat)

/-- A text without its sign, and whether that is a minus. There has to be a character. -/
def takeSign : List Nat → Reading (Bool × List Nat)
  | [] => .error .noCharacter
  | 0x2d :: rest => .ok (true, rest)
  | 0x2b :: rest => .ok (false, rest)
  | codes => .ok (false, codes)

/-- The whole number that a text stands for in a base. -/
def integerIn (base : Nat) (codes : List Nat) : Reading Int :=
  match Text.parseInteger base (charsOf codes) with
  | .ok n => .ok n
  | .error .malformed => .error (.notInteger base codes)
  | .error (.oversized digits) => .error (.oversizedInteger digits)

/-- The whole number that a text without sign and underscores stands for. -/
def magnitude (codes : List Nat) : Reading Int :=
  match codes with
  | [] => .error .noCharacter
  | [0x30] => .ok 0
  | 0x30 :: 0x62 :: digits => integerIn 2 digits
  | 0x30 :: 0x78 :: digits => integerIn 16 digits
  | 0x30 :: _ => integerIn 8 codes
  | _ =>
    if codes.contains 0x3a then do
      let parts ← (Text.split 0x3a codes).mapM (integerIn 10)
      return parts.foldl (fun n part => n * 60 + part) 0
    else integerIn 10 codes

/-- The scalar of a whole number. -/
def integerOf (codes : List Nat) : Reading Scalar := do
  let (isNegative, rest) ← takeSign (ungrouped codes)
  let n ← magnitude rest
  return integer (if isNegative then -n else n)

/-- The number that a text stands for. -/
def doubleIn (codes : List Nat) : Reading Double :=
  match Double.ofChars? (charsOf codes) with
  | some x => .ok x
  | none => .error (.notDouble codes)

/-- The sum of digits in base sixty, the last one first; `unit` is the value of the next one. -/
def sixtySum (sum : Double) (unit : Nat) : List Double → Reading Double
  | [] => .ok sum
  | digit :: digits =>
    match Double.ofNat? unit with
    | some x => sixtySum (sum.add (digit.mul x)) (unit * 60) digits
    | none => .error .oversizedDouble

/-- A number with a sign; one that is none is not the constant for that. -/
def computed (isNegative : Bool) (x : Double) : Scalar :=
  if x = .notANumber then indefinite else double (if isNegative then x.neg else x)

/-- The scalar of a number with a point. -/
def doubleOf (codes : List Nat) : Reading Scalar := do
  let (isNegative, rest) ← takeSign (Text.lowercase (ungrouped codes))
  if charsOf rest = ".inf".toList then return double (.infinite isNegative)
  else if charsOf rest = ".nan".toList then return double .notANumber
  else if rest.contains 0x3a then
    let digits ← (Text.split 0x3a rest).mapM doubleIn
    return computed isNegative (← sixtySum (.finite false 0 Double.minExponent) 1 digits.reverse)
  else return computed isNegative (← doubleIn rest)

/-! ### Other values -/

/-- The scalar of a word for true or false. -/
def booleanOf (codes : List Nat) : Reading Scalar :=
  let word := Text.lowercase codes
  let s := String.ofList (charsOf word)
  if s ∈ ["yes", "true", "on"] then .ok (bool true)
  else if s ∈ ["no", "false", "off"] then .ok (bool false)
  else .error (.notBoolean word)

/-- The scalar of a timestamp. -/
def timestampOf (codes : List Nat) : Reading Scalar :=
  match Timestamp.ofChars? (withoutLastBreak (charsOf codes)) with
  | none => .error .notTimestamp
  | some ⟨year, month, day, none⟩ => ((Date.make year month day).map date).mapError .calendar
  | some ⟨year, month, day, some c⟩ =>
    ((Moment.make year month day c.hour c.minute c.second c.microsecond c.offset).map moment).mapError .calendar

/-- The scalar of bytes in base 64. Only characters of ASCII may stand in it. -/
def binaryOf (codes : List Nat) : Except Reason Scalar :=
  match if codes.all (· < 0x80) then Text.decodeBase64? (charsOf codes) else none with
  | some values => .ok (bytes values)
  | none => .error .badBinary

/-- Whether a tag is one for scalars. -/
def hasTag : Tag → Bool
  | .null | .boolean | .integer | .double | .timestamp | .binary | .string => true
  | _ => false

/-- The scalar that a text stands for under a tag. -/
def ofText (tag : Tag) (codes : List Nat) : Except Reason Scalar :=
  match tag with
  | .null => .ok null
  | .boolean => (booleanOf codes).mapError .noValue
  | .integer => (integerOf codes).mapError .noValue
  | .double => (doubleOf codes).mapError .noValue
  | .timestamp => (timestampOf codes).mapError .noValue
  | .binary => binaryOf codes
  | .string => .ok (text codes)
  | _ => .error .unknownTag

/-! ### Keys -/

/-- The whole number that a scalar counts as when keys are compared. -/
def wholeNumber? : Scalar → Option Int
  | bool b => some (if b then 1 else 0)
  | integer n => some n
  | double x => x.wholeValue?
  | _ => none

/-- Whether two scalars are the same key. Numbers are compared by their values. -/
def isSame (a b : Scalar) : Bool :=
  match a.wholeNumber?, b.wholeNumber? with
  | some m, some n => m = n
  | none, none =>
    match a, b with
    | indefinite, _ => false
    | moment x, moment y => x.isSame y
    | a, b => a = b
  | _, _ => false

end Scalar

end GoFixtures.Yaml
