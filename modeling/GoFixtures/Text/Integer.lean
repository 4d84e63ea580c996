import GoFixtures.Text.Blank
import GoFixtures.Text.Hexadecimal

/-!
# Whole numbers in texts

Decimal digits of every script count. The ten digits of a script follow each other, so that a script is known
by its zero.

* `parseInteger` reads a whole number in a base: with a sign or without, with the letter of the base behind a
  zero, with single underscores between digits, and with white space at the ends.
-/

namespace GoFixtures.Text

/-- The number that decimal digits of ASCII stand for. -/
def digitsValue (cs : List Char) : Nat := cs.foldl (fun n c => n * 10 + (c.toNat - 0x30)) 0

/-- The zeros of all scripts. -/
def zeros : List Nat :=
  [0x30, 0x660, 0x6f0, 0x7c0, 0x966, 0x9e6, 0xa66, 0xae6, 0xb66, 0xbe6, 0xc66, 0xce6, 0xd66, 0xde6, 0xe50,
    0xed0, 0xf20, 0x1040, 0x1090, 0x17e0, 0x1810, 0x1946, 0x19d0, 0x1a80, 0x1a90, 0x1b50, 0x1bb0, 0x1c40,
    0x1c50, 0xa620, 0xa8d0, 0xa900, 0xa9d0, 0xa9f0, 0xaa50, 0xabf0, 0xff10, 0x104a0, 0x10d30, 0x11066,
    0x110f0, 0x11136, 0x111d0, 0x112f0, 0x11450, 0x114d0, 0x11650, 0x116c0, 0x11730, 0x118e0, 0x11950,
    0x11c50, 0x11d50, 0x11da0, 0x16a60, 0x16ac0, 0x16b50, 0x1d7ce, 0x1d7d8, 0x1d7e2, 0x1d7ec, 0x1d7f6,
    0x1e140, 0x1e2f0, 0x1e950, 0x1fbf0]

/-- The value of a decimal digit. -/
def decimalValue? (c : Char) : Option Nat :=
  (zeros.find? fun first => first ≤ c.toNat && c.toNat < first + 10).map fun first => c.toNat - first

/-- Whether a character is a decimal digit. -/
def isDecimal (c : Char) : Bool := (decimalValue? c).isSome

/-- The most decimal digits that are read. -/
def maxIntegerDigits : Nat := 4300

/-- What is said of a number with more digits. -/
def tooManyDigits (digits : Nat) : String :=
  "Exceeds the limit (" ++ toString maxIntegerDigits ++ " digits) for integer string conversion: value has "
    ++ toString digits ++ " digits; use sys.set_int_max_str_digits() to increase the limit"

/-- The character of ASCII that counts for a character of a number. -/
def numberForm (c : Char) : Char :=
  if c.toNat < 0x80 then c
  else if isWhite c then ' '
  else ((decimalValue? c).map Nat.digitChar).getD c

/-- White space at the ends of a number, in ASCII. What separates records does not count as such. -/
def isNumberSpace (c : Char) : Bool := c = ' ' || (0x09 ≤ c.toNat && c.toNat ≤ 0x0d)

/-- Why a text is no whole number. -/
inductive IntegerFault
  | malformed
  | oversized (digits : Nat)
deriving DecidableEq

/-- The value of a digit in a base. -/
def digitIn? (base : Nat) (c : Char) : Option Nat := (hexValue? c).filter fun d => d < base

/-- Whether the underscores in digits stand alone and have a digit behind them. -/
def isGrouped : List Char → Bool
  | '_' :: cs => cs.head?.any (· ≠ '_') && isGrouped cs
  | _ :: cs => isGrouped cs
  | [] => true

/-- The letter by which a base is known. -/
def baseLetter? (base : Nat) : Option Char :=
  if base = 2 then some 'b' else if base = 8 then some 'o' else if base = 16 then some 'x' else none

/-- The digits behind a zero and the letter of the base, and behind one underscore that may follow. -/
def withoutLetter (base : Nat) (cs : List Char) : List Char :=
  match cs with
  | '0' :: letter :: rest =>
    if some letter.toLower = baseLetter? base then
      match rest with
      | '_' :: more => more
      | more => more
    else cs
  | _ => cs

/-- The number that digits in ASCII stand for. Too many decimal ones are noticed before what stands behind
them. -/
def parseNatural (base : Nat) (cs : List Char) : Except IntegerFault Nat :=
  let cs := withoutLetter base cs
  let run := cs.takeWhile fun c => (digitIn? base c).isSome || c = '_'
  let digits := run.filterMap (digitIn? base)
  if run.head? = some '_' || !isGrouped run then .error .malformed
  else if base = 10 && maxIntegerDigits < digits.length then .error (.oversized digits.length)
  else if digits.isEmpty || !(cs.drop run.length).all isNumberSpace then .error .malformed
  else .ok (digits.foldl (fun n d => n * base + d) 0)

/-- The whole number that a text stands for in a base. -/
def parseInteger (base : Nat) (cs : List Char) : Except IntegerFault Int :=
  match (cs.map numberForm).dropWhile isNumberSpace with
  | '-' :: ds => (parseNatural base ds).map fun n => -(n : Int)
  | '+' :: ds => (parseNatural base ds).map fun n => (n : Int)
  | ds => (parseNatural base ds).map fun n => (n : Int)

/-- The whole number that a text stands for, in decimal. -/
def integerOf? (s : String) : Option Int := (parseInteger 10 s.toList).toOption

end GoFixtures.Text
