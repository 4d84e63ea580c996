import GoFixtures.Json.Basic
import GoFixtures.Decimal.Shortest
import GoFixtures.Text.Quoted

/-!
# Writing JSON

The compact form: no blanks, members in their order, and only printable ASCII characters. Every other
character is written as one or two escapes of four hexadecimal digits, unless it has a short one.
-/

namespace GoFixtures.Json

open Text

/-- The escape of a unit of sixteen bits. -/
def unitEscape (n : Nat) : List Char := '\\' :: 'u' :: hexDigits 4 n

/-- One code point of a string. -/
def escapedCode (n : Nat) : List Char :=
  if n = 0x22 then ['\\', '\x22']
  else if n = 0x5c then ['\\', '\\']
  else if n = 0x0a then ['\\', 'n']
  else if n = 0x0d then ['\\', 'r']
  else if n = 0x09 then ['\\', 't']
  else if n = 0x08 then ['\\', 'b']
  else if n = 0x0c then ['\\', 'f']
  else if 0x20 ≤ n && n ≤ 0x7e then [Char.ofNat n]
  else if n < 0x10000 then unitEscape n
  else
    let offset := n - 0x10000
    unitEscape (0xd800 + offset / 0x400) ++ unitEscape (0xdc00 + offset % 0x400)

/-- The string of code points with its quotes. -/
def renderCodes (codes : List Nat) : List Char := '\x22' :: (codes.flatMap escapedCode ++ ['\x22'])

mutual

/-- A value as it is written. -/
def render : Json → List Char
  | null => "null".toList
  | bool true => "true".toList
  | bool false => "false".toList
  | integer n => (toString n).toList
  | double .notANumber => "NaN".toList
  | double (.infinite negative) => (if negative then "-Infinity" else "Infinity").toList
  | double x => x.text.toList
  | string s => renderCodes (codesOf s)
  | brokenString codes => renderCodes codes
  | array items => '[' :: renderItems items
  | object members => '{' :: renderMembers members
  | brokenObject members => '{' :: renderBroken members

/-- The items of an array up to its closing bracket. -/
def renderItems : List Json → List Char
  | [] => [']']
  | [j] => render j ++ [']']
  | j :: js => render j ++ ',' :: renderItems js

/-- The members of an object up to its closing brace. -/
def renderMembers : List (String × Json) → List Char
  | [] => ['}']
  | [(name, j)] => renderCodes (codesOf name) ++ ':' :: (render j ++ ['}'])
  | (name, j) :: ms => renderCodes (codesOf name) ++ ':' :: (render j ++ ',' :: renderMembers ms)

/-- The members of an object with broken names up to its closing brace. -/
def renderBroken : List (List Nat × Json) → List Char
  | [] => ['}']
  | [(codes, j)] => renderCodes codes ++ ':' :: (render j ++ ['}'])
  | (codes, j) :: ms => renderCodes codes ++ ':' :: (render j ++ ',' :: renderBroken ms)

end

/-- The document that holds a value. -/
def toText (j : Json) : String := String.ofList (render j)

end GoFixtures.Json
