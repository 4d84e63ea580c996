/-!
# Bytes in base 64

Four letters stand for three bytes. Characters that are no letters are passed over, and equals signs fill up
the last four letters.

* `decodeBase64?` gives the bytes; letters that are left over without enough equals signs stand for none.
-/

namespace GoFixtures.Text

/-- The value of a letter. -/
def base64Value? (c : Char) : Option Nat :=
  if 'A' ≤ c && c ≤ 'Z' then some (c.toNat - 0x41)
  else if 'a' ≤ c && c ≤ 'z' then some (c.toNat - 0x61 + 26)
  else if '0' ≤ c && c ≤ '9' then some (c.toNat - 0x30 + 52)
  else if c = '+' then some 62
  else if c = '/' then some 63
  else none

/-- The byte that a letter completes behind the letters of its group, and the group with it. -/
def completed (group : List Nat) (value : Nat) : List UInt8 × List Nat :=
  match group with
  | [] => ([], [value])
  | [a] => ([UInt8.ofNat (a * 4 + value / 16)], [a, value])
  | [a, b] => ([UInt8.ofNat (b % 16 * 16 + value / 4)], [a, b, value])
  | _ :: _ :: c :: _ => ([UInt8.ofNat (c % 4 * 64 + value)], [])

/-- Reads on behind the letters of a group and the equals signs that followed them. -/
def base64From (group : List Nat) (signs : Nat) : List Char → Option (List UInt8)
  | [] => if group.isEmpty then some [] else none
  | c :: cs =>
    if c = '=' then
      if group.length < 2 then base64From group signs cs
      else if 4 ≤ group.length + signs + 1 then some []
      else base64From group (signs + 1) cs
    else
      match base64Value? c with
      | none => base64From group signs cs
      | some value =>
        let (bytes, group) := completed group value
        (base64From group 0 cs).map (bytes ++ ·)

/-- The bytes that a text stands for. -/
def decodeBase64? (cs : List Char) : Option (List UInt8) := base64From [] 0 cs

end GoFixtures.Text
