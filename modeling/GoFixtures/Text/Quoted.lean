import GoFixtures.Text.CharClass
import GoFixtures.Text.Hexadecimal

/-!
# Quotations

The form in which a message shows a piece of text: between quotes, on one line, with everything
that would not be seen written as an escape.

* `quoteMark` is the quote in use: a double one only for a text with a single quote and no double one.
* `quoteCodes` writes a sequence of code points, `quote` a string, `quoteBytes` bytes.
-/

namespace GoFixtures.Text

/-- The quote around the text: single, unless that would be the only reason for an escape. -/
def quoteMark (codes : List Nat) : Char :=
  if codes.contains 0x27 && !codes.contains 0x22 then '\x22' else '\x27'

/-- One code point of a quotation with the given quote. -/
def quotedCode (mark : Char) (n : Nat) : List Char :=
  if n = mark.toNat || n = 0x5c then ['\\', Char.ofNat n]
  else if n = 0x0a then ['\\', 'n']
  else if n = 0x0d then ['\\', 'r']
  else if n = 0x09 then ['\\', 't']
  else if isPrintable n then [Char.ofNat n]
  else if n ≤ 0xff then '\\' :: 'x' :: hexDigits 2 n
  else if n ≤ 0xffff then '\\' :: 'u' :: hexDigits 4 n
  else '\\' :: 'U' :: hexDigits 8 n

/-- The quotation of a sequence of code points, surrogates allowed. -/
def quoteCodes (codes : List Nat) : String :=
  let mark := quoteMark codes
  String.ofList (mark :: codes.flatMap (quotedCode mark) ++ [mark])

/-- The quotation of a string. -/
def quote (s : String) : String :=
  quoteCodes (s.toList.map Char.toNat)

/-- One byte of a quotation with the given quote. -/
def quotedByte (mark : Char) (n : Nat) : List Char :=
  if n < 0x7f then quotedCode mark n else '\\' :: 'x' :: hexDigits 2 n

/-- The quotation of bytes, which are shown like the characters of ASCII where they are such. -/
def quoteBytes (bytes : List UInt8) : String :=
  let codes := bytes.map UInt8.toNat
  let mark := quoteMark codes
  String.ofList ('b' :: mark :: codes.flatMap (quotedByte mark) ++ [mark])

end GoFixtures.Text
