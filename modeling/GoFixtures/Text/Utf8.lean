import GoFixtures.Text.Hexadecimal

/-!
# Bytes and texts

`Utf8.decode` reads bytes as UTF-8 and says what is wrong with bytes that are none: surrogates, overlong forms
and values beyond the last code point are refused at the first byte that rules them out. `Utf8.encode` gives
the bytes of a text. `universalNewlines` makes every line of a text end the same way.
-/

namespace GoFixtures.Text

namespace Utf8

/-- What is wrong with bytes. -/
inductive Reason
  | invalidStart
  | invalidContinuation
  | unexpectedEnd
deriving DecidableEq

/-- The bytes at fault: the first of them, its place, and how many there are. -/
structure DecodeError where
  byte : UInt8
  start : Nat
  count : Nat
  reason : Reason
deriving DecidableEq

namespace DecodeError

/-- A byte in two hexadecimal digits. -/
def hexByte (b : UInt8) : String :=
  let digit (n : Nat) : Char := (Nat.digitChar n)
  String.ofList ['0', 'x', digit (b.toNat / 16), digit (b.toNat % 16)]

/-- The reason in words. -/
def reasonText : Reason → String
  | .invalidStart => "invalid start byte"
  | .invalidContinuation => "invalid continuation byte"
  | .unexpectedEnd => "unexpected end of data"

/-- The error in words. -/
def message (e : DecodeError) : String :=
  let place :=
    if e.count = 1 then "byte " ++ hexByte e.byte ++ " in position " ++ toString e.start
    else "bytes in position " ++ toString e.start ++ "-" ++ toString (e.start + e.count - 1)
  "'utf-8' codec can't decode " ++ place ++ ": " ++ reasonText e.reason

end DecodeError

/-- The bounds of a byte that carries six more bits. -/
def anyTail : Nat × Nat := (0x80, 0xbf)

/-- The bits that a first byte carries, and the bounds of the bytes that have to follow it. -/
def lead? (b : Nat) : Option (Nat × List (Nat × Nat)) :=
  if b < 0x80 then some (b, [])
  else if b < 0xc2 then none
  else if b < 0xe0 then some (b - 0xc0, [anyTail])
  else if b = 0xe0 then some (0, [(0xa0, 0xbf), anyTail])
  else if b = 0xed then some (0xd, [(0x80, 0x9f), anyTail])
  else if b < 0xf0 then some (b - 0xe0, [anyTail, anyTail])
  else if b = 0xf0 then some (0, [(0x90, 0xbf), anyTail, anyTail])
  else if b < 0xf4 then some (b - 0xf0, [anyTail, anyTail, anyTail])
  else if b = 0xf4 then some (4, [(0x80, 0x8f), anyTail, anyTail])
  else none

/-- Reads the bytes behind a first one. A fault comes with the number of bytes that were in order before it. -/
def tail (value good : Nat) : List (Nat × Nat) → List UInt8 → Except (Reason × Nat) (Nat × List UInt8)
  | [], bytes => .ok (value, bytes)
  | _ :: _, [] => .error (.unexpectedEnd, good)
  | (low, high) :: bounds, b :: bytes =>
    if low ≤ b.toNat && b.toNat ≤ high then tail (value * 64 + b.toNat % 64) (good + 1) bounds bytes
    else .error (.invalidContinuation, good)

theorem tail_length {value good n : Nat} {bounds : List (Nat × Nat)} {bytes rest : List UInt8}
    (h : tail value good bounds bytes = .ok (n, rest)) : rest.length ≤ bytes.length := by
  fun_induction tail value good bounds bytes with
  | case1 => simp only [Except.ok.injEq, Prod.mk.injEq] at h; exact Nat.le_of_eq (congrArg List.length h.2.symm)
  | case2 => simp at h
  | case3 value good low high bounds b bytes _ ih => have := ih h; simp only [List.length_cons]; omega
  | case4 => simp at h

/-- Reads bytes that stand at place `start`. -/
def decodeFrom (start : Nat) : List UInt8 → Except DecodeError (List Char)
  | [] => .ok []
  | b :: bytes =>
    match lead? b.toNat with
    | none => .error ⟨b, start, 1, .invalidStart⟩
    | some (value, bounds) =>
      match h : tail value 1 bounds bytes with
      | .error (reason, count) => .error ⟨b, start, count, reason⟩
      | .ok (code, rest) =>
        have := tail_length h
        (decodeFrom (start + 1 + bounds.length) rest).map (Char.ofNat code :: ·)
termination_by bytes => bytes.length
decreasing_by simp_wf; omega

/-- The text that bytes are. -/
def decode (bytes : List UInt8) : Except DecodeError String := (decodeFrom 0 bytes).map String.ofList

/-- The bytes of a text. -/
def encode (s : String) : List UInt8 := s.toUTF8.toList

end Utf8

/-- A carriage return, with or without a line feed behind it, ends a line like a line feed. -/
def unifyNewlines : List Char → List Char
  | '\r' :: '\n' :: cs => '\n' :: unifyNewlines cs
  | c :: cs => (if c = '\r' then '\n' else c) :: unifyNewlines cs
  | [] => []

/-- The text with one kind of line end. -/
def universalNewlines (s : String) : String := String.ofList (unifyNewlines s.toList)

end GoFixtures.Text
