import GoFixtures.Json.Printer
import GoFixtures.Json.Reader

/-!
# Strings of a JSON document, written and read

A string is written as the escapes of its code points, in one of four forms (`Escape`). Each is read as the
code point it is of (`Escape.stringBody_append`), unless that is the first surrogate of a pair. A text has no
surrogates.

* `stringBody_escapes`: what is written for a text is read back, whatever follows.
* `isAscii_escapedCode`: only printable ASCII characters are written.
-/

namespace GoFixtures

namespace Text

/-- A printable ASCII character. -/
def IsAscii (c : Char) : Prop := 0x20 ≤ c.toNat ∧ c.toNat ≤ 0x7e

instance : DecidablePred IsAscii := fun c => inferInstanceAs (Decidable (0x20 ≤ c.toNat ∧ c.toNat ≤ 0x7e))

/-- A hexadecimal digit has its own value. -/
theorem hexValue?_hexDigit : ∀ n < 16, hexValue? (hexDigit n) = some n := by
  decide

theorem isAscii_hexDigit : ∀ n < 16, IsAscii (hexDigit n) := by
  decide

theorem toNat_ofNat {n : Nat} (h : 0x20 ≤ n ∧ n ≤ 0x7e) : (Char.ofNat n).toNat = n := by
  rw [Char.ofNat, dif_pos (.inl (by omega))]
  rfl

/-- Hexadecimal digits are printable ASCII. -/
theorem isAscii_hexDigits (width n : Nat) : ∀ c ∈ hexDigits width n, IsAscii c := by
  induction width generalizing n with
  | zero => simp [hexDigits]
  | succ width ih =>
    intro c hc
    rcases List.mem_append.1 hc with hc | hc
    · exact ih _ c hc
    · obtain rfl := List.mem_singleton.1 hc
      exact isAscii_hexDigit _ (Nat.mod_lt _ (by omega))

namespace Surrogate

/-- A surrogate is no character, so a character is the first of no pair. -/
theorem not_isHigh_toNat (c : Char) : isHigh c.toNat = false := by
  have h := isScalar_toNat c
  simp only [isScalar, Bool.or_eq_true, decide_eq_true_eq, Bool.and_eq_true] at h
  simp only [isHigh, Bool.and_eq_false_iff, decide_eq_false_iff_not]
  omega

end Surrogate

/-- The code points of a text are in the planes. -/
theorem lt_of_mem_codesOf {s : String} : ∀ n ∈ codesOf s, n < 0x110000 := by
  intro n hn
  obtain ⟨c, -, rfl⟩ := List.mem_map.1 hn
  have h := isScalar_toNat c
  simp only [isScalar, Bool.or_eq_true, decide_eq_true_eq, Bool.and_eq_true] at h
  omega

/-- Texts with the same code points are the same. -/
theorem codesOf_injective : Function.Injective codesOf := fun s t h => by
  have hs := stringOfCodes?_codesOf s
  rw [h, stringOfCodes?_codesOf] at hs
  exact (Option.some.inj hs).symm

end Text

namespace Json

open Text Surrogate

variable {n start : Nat} {ns : List Nat} {c : Char} {s : List Char}

/-! ### Units -/

/-- Four digits are read as the unit that they have been written for. -/
theorem unit?_hexDigits (h : n < 0x10000) : unit? (hexDigits 4 n ++ c :: s) = some (n, c :: s) := by
  -- the four digits, from the last to the first
  have h0 : hexValue? (hexDigit (n % 16)) = some (n % 16) := hexValue?_hexDigit _ (by omega)
  have h1 : hexValue? (hexDigit (n / 16 % 16)) = some (n / 16 % 16) := hexValue?_hexDigit _ (by omega)
  have h2 : hexValue? (hexDigit (n / 16 / 16 % 16)) = some (n / 16 / 16 % 16) := hexValue?_hexDigit _ (by omega)
  have h3 : hexValue? (hexDigit (n / 16 / 16 / 16 % 16)) = some (n / 16 / 16 / 16 % 16) :=
    hexValue?_hexDigit _ (by omega)
  have hn : ((n / 16 / 16 / 16 % 16 * 16 + n / 16 / 16 % 16) * 16 + n / 16 % 16) * 16 + n % 16 = n := by omega
  simp [hexDigits, unit?, h0, h1, h2, h3, hn]

/-- A unit that is not the first of a pair is read from its escape alone. -/
theorem unitEscape?_hexDigits (h : n < 0x10000) (hh : isHigh n = false) :
    unitEscape? (hexDigits 4 n ++ c :: s) = .ok (n, c :: s) := by
  rw [unitEscape?, unit?_hexDigits h]
  simp [hh]

theorem pairValue_eq {high low a b : Nat} (ha : high = 0xd800 + a) (hb : low = 0xdc00 + b) :
    pairValue high low = 0x10000 + a * 0x400 + b := by
  unfold pairValue
  omega

/-- The escapes of a pair are read as the code point of the pair. -/
theorem unitEscape?_pair {high low : Nat} (hh : high < 0x400) (hl : low < 0x400) :
    unitEscape? (hexDigits 4 (0xd800 + high) ++ (unitEscape (0xdc00 + low) ++ c :: s))
      = .ok (0x10000 + high * 0x400 + low, c :: s) := by
  have hhigh : isHigh (0xd800 + high) = true := by
    simp only [isHigh, Bool.and_eq_true, decide_eq_true_eq]
    omega
  have hlow : isLow (0xdc00 + low) = true := by
    simp only [isLow, Bool.and_eq_true, decide_eq_true_eq]
    omega
  rw [unitEscape, List.cons_append, unitEscape?, unit?_hexDigits (by omega)]
  simp only [hhigh, Bool.not_true, Bool.false_eq_true, if_false, List.cons_append]
  rw [if_neg (by simp only [List.length_append, length_hexDigits, List.length_cons]; omega),
    unit?_hexDigits (by omega)]
  simp only [hlow, if_true, pairValue_eq rfl rfl]

/-! ### Bodies -/

theorem stringBody_quote : stringBody start ('\x22' :: s) = .ok ([], s) := by
  rw [stringBody]

/-- An escaped unit is one code point. -/
theorem stringBody_unit {s more : List Char} (h : unitEscape? s = .ok (n, more)) :
    stringBody start ('\\' :: 'u' :: s) = (stringBody start more).map fun (codes, rest) =>
      (n :: codes, rest) := by
  rw [stringBody]
  split <;> simp_all

/-- A short escape is one code point. -/
theorem stringBody_short (hc : c ≠ 'u') (h : shortEscape? c = some n) :
    stringBody start ('\\' :: c :: s) = (stringBody start s).map fun (codes, rest) => (n :: codes, rest) := by
  rw [stringBody, h]
  exact hc

/-- Any other character stands for itself. -/
theorem stringBody_plain (hq : c ≠ '\x22') (hb : c ≠ '\\') (hc : 0x20 ≤ c.toNat) :
    stringBody start (c :: s) = (stringBody start s).map fun (codes, rest) => (c.toNat :: codes, rest) := by
  rw [stringBody, if_neg (by omega)]
  all_goals simp_all

/-! ### Escapes -/

/-- The forms in which a code point is written. -/
inductive Escape : Nat → List Char → Prop
  | short {n : Nat} {c : Char} (ascii : IsAscii c) (ne : c ≠ 'u') (eq : shortEscape? c = some n) :
      Escape n ['\\', c]
  | plain {c : Char} (ascii : IsAscii c) (quote : c ≠ '\x22') (backslash : c ≠ '\\') : Escape c.toNat [c]
  | unit {n : Nat} (lt : n < 0x10000) : Escape n (unitEscape n)
  | pair {high low : Nat} (hh : high < 0x400) (hl : low < 0x400) :
      Escape (0x10000 + high * 0x400 + low) (unitEscape (0xd800 + high) ++ unitEscape (0xdc00 + low))

/-- What is written for a code point is one of its escapes. -/
theorem escape_escapedCode (hn : n < 0x110000) : Escape n (escapedCode n) := by
  have short (c : Char) (h : IsAscii c ∧ c ≠ 'u' ∧ shortEscape? c = some n) : Escape n ['\\', c] :=
    .short h.1 h.2.1 h.2.2
  unfold escapedCode
  split
  next h => exact short _ (h ▸ by decide)
  next hquote =>
  split
  next h => exact short _ (h ▸ by decide)
  next hbackslash =>
  split
  next h => exact short _ (h ▸ by decide)
  split
  next h => exact short _ (h ▸ by decide)
  split
  next h => exact short _ (h ▸ by decide)
  split
  next h => exact short _ (h ▸ by decide)
  split
  next h => exact short _ (h ▸ by decide)
  split
  next h =>
    simp only [Bool.and_eq_true, decide_eq_true_eq] at h
    have hc := toNat_ofNat h
    have hp : Escape (Char.ofNat n).toNat [Char.ofNat n] :=
      .plain (by rwa [IsAscii, hc]) (fun h => hquote (by rw [← hc, h]; rfl)) (fun h =>
        hbackslash (by rw [← hc, h]; rfl))
    rwa [hc] at hp
  split
  next h => exact .unit h
  next h =>
    -- a pair holds the ten upper and the ten lower bits of what is above the first plane
    have hsum : 0x10000 + (n - 0x10000) / 0x400 * 0x400 + (n - 0x10000) % 0x400 = n := by omega
    have hp := @Escape.pair ((n - 0x10000) / 0x400) ((n - 0x10000) % 0x400) (by omega) (by omega)
    rwa [hsum] at hp

namespace Escape

variable {e : List Char}

/-- An escape is printable ASCII. -/
theorem isAscii (h : Escape n e) : ∀ c ∈ e, IsAscii c := by
  have unit (n : Nat) : ∀ c ∈ unitEscape n, IsAscii c := by
    intro c hc
    rcases List.mem_cons.1 hc with rfl | hc
    · decide
    rcases List.mem_cons.1 hc with rfl | hc
    · decide
    · exact isAscii_hexDigits 4 n c hc
  cases h with
  | short ascii => simp [ascii]; decide
  | plain ascii => simpa using ascii
  | unit => exact unit n
  | pair =>
    intro c hc
    exact (List.mem_append.1 hc).elim (unit _ c) (unit _ c)

/-- **One code point.** It is read from its escape, unless it is the first of a pair. -/
theorem stringBody_append (h : Escape n e) (hh : isHigh n = false) :
    stringBody start (e ++ c :: s) = (stringBody start (c :: s)).map fun (codes, rest) => (n :: codes, rest) := by
  cases h with
  | short _ ne eq => exact stringBody_short ne eq
  | plain ascii quote backslash => exact stringBody_plain quote backslash ascii.1
  | unit lt => exact stringBody_unit (unitEscape?_hexDigits lt hh)
  | pair hhigh hlow =>
    rw [List.append_assoc]
    exact stringBody_unit (unitEscape?_pair hhigh hlow)

end Escape

/-! ### Strings -/

theorem isAscii_escapedCode (hn : n < 0x110000) : ∀ c ∈ escapedCode n, IsAscii c :=
  (escape_escapedCode hn).isAscii

/-- A quote always follows, so there is a next character. -/
theorem exists_cons_escapes (ns : List Nat) (s : List Char) :
    ∃ c more, ns.flatMap escapedCode ++ '\x22' :: s = c :: more :=
  List.exists_cons_of_ne_nil (by simp)

/-- **A text.** Its code points are read from their escapes, up to the quote that closes the string. -/
theorem stringBody_escapes (cs : List Char) :
    stringBody start ((cs.map Char.toNat).flatMap escapedCode ++ '\x22' :: s) = .ok (cs.map Char.toNat, s) := by
  induction cs with
  | nil => exact stringBody_quote
  | cons d cs ih =>
    obtain ⟨c, more, hs⟩ := exists_cons_escapes (cs.map Char.toNat) s
    have hlt : d.toNat < 0x110000 := lt_of_mem_codesOf (s := String.ofList [d]) _ (by simp [codesOf])
    -- a character is not the first of a pair, so what follows does not matter
    rw [List.map_cons, List.flatMap_cons, List.append_assoc, hs,
      (escape_escapedCode hlt).stringBody_append (not_isHigh_toNat d),
      ← hs, ih]
    rfl

end Json

end GoFixtures
