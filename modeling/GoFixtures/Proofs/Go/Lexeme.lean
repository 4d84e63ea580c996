import GoFixtures.Go.Gap
import GoFixtures.Go.Lexeme
import Mathlib.Data.Bool.AllAny
import Mathlib.Data.List.Find

/-!
# Lexemes are read back

A lexeme of the right form (`Lexeme.isValid`) that stands before a character which it cannot go on with
(`Lexeme.stops`) is read as what it is.

* `Lexeme.scan_append`: no lexeme takes less or more than its text.
* `Lexeme.scan_eq_ok_iff`: what a scan can come to, and when.
-/

namespace GoFixtures.Go

open Text

namespace Lexeme

variable {c mark : Char} {s t body : List Char}

/-! ### Characters -/

/-- The characters that gaps and literals begin with, and the point. -/
def specials : List Char := [' ', '\t', '\x0d', '\n', '/', '\x22', '\x60', '\x27', '.']

/-- A character of a name stands for nothing else. -/
theorem not_mem_specials (h : isNameCharacter c) : c ∉ specials := by
  have hs : ∀ c ∈ specials, isNameCharacter c = false := List.all_iff_forall_prop.1 (by decide)
  intro hc
  rw [hs c hc] at h
  exact Bool.false_ne_true h

theorem isNameCharacter_of_isNameStart (h : isNameStart c) : isNameCharacter c := by
  simp only [isNameStart, Bool.or_eq_true] at h
  simp only [isNameCharacter, Bool.or_eq_true]
  exact h.imp_left isAlphanumeric_of_isLetter

theorem isNameCharacter_of_isDigit (h : isDigit c) : isNameCharacter c := by
  simp [isNameCharacter, isAlphanumeric_of_isDigit h]

/-- Where there is no blank, no line end and no slash, there is no gap. -/
theorem piece?_eq_none (hb : Gap.isBlank c = false) (hl : c ≠ '\n') (hs : c ≠ '/') :
    Gap.piece? (c :: s) = none := by
  unfold Gap.piece?
  split <;> simp_all

/-- A gap does not begin with a character of a name. -/
theorem piece?_eq_none_of_isNameCharacter (h : isNameCharacter c) : Gap.piece? (c :: s) = none := by
  have hc := not_mem_specials h
  simp only [specials, List.mem_cons, not_or] at hc
  exact piece?_eq_none (by simp [Gap.isBlank, hc]) hc.2.2.2.1 hc.2.2.2.2.1

/-! ### The forms of lexemes -/

/-- Whether the lexeme has the form of its kind. -/
def isValid : Lexeme → Bool
  | word [] => false
  | word (c :: cs) => isNameStart c && !isDigit c && cs.all isNameCharacter
  | number kind text =>
    beginsNumber text && (digits? (isHex text) (text ++ [' '])).any fun d =>
      d.text = text && d.rest = [' '] && numberKind d = kind
  | string body => quotedBody? '\x22' (body ++ ['\x22']) = some (body, [])
  | rawString body => !body.contains '\x60'
  | rune body => quotedBody? '\x27' (body ++ ['\x27']) = some (body, [])
  | operator spelling => operators.contains spelling

/-- Whether the lexeme ends before a character, or at the end of the text. An exponent mark keeps a number
from ending there. -/
def stops : Lexeme → Option Char → Bool
  | word _, c? => !c?.any isNameCharacter
  | number _ _, c? => c?.any fun c => !isNameCharacter c && c ≠ '.' && c ≠ '+' && c ≠ '-'
  | operator spelling, c? => !c?.any fun c =>
    (operators.any fun longer => (spelling.toList ++ [c]).isPrefixOf longer.toList)
      || (spelling = "." && isDigit c) || (spelling = "/" && (c = '/' || c = '*'))
  | _, _ => true

/-! ### Words -/

/-- A run of characters ends where the first one stops it. -/
theorem takeWhile_append_of_stops {p : Char → Bool} (h : ∀ c ∈ t, p c) (hs : s.head?.any p = false) :
    (t ++ s).takeWhile p = t ∧ (t ++ s).dropWhile p = s := by
  have hnil : s.takeWhile p = [] ∧ s.dropWhile p = s := by
    cases s with
    | nil => exact ⟨rfl, rfl⟩
    | cons c s =>
      have hc : p c = false := hs
      exact ⟨by rw [List.takeWhile_cons, hc]; rfl, by rw [List.dropWhile_cons, hc]; rfl⟩
  rw [List.takeWhile_append_of_pos h, List.dropWhile_append_of_pos h, hnil.1, hnil.2, List.append_nil]
  exact ⟨rfl, rfl⟩

/-- A word reaches as far as its characters do. -/
theorem scan_word (hc : isNameStart c) (hd : isDigit c = false) (ht : ∀ c ∈ t, isNameCharacter c)
    (hs : s.head?.any isNameCharacter = false) : scan c (t ++ s) = .ok (word (c :: t), s) := by
  have hspecial := not_mem_specials (isNameCharacter_of_isNameStart hc)
  simp only [specials, List.mem_cons, List.not_mem_nil, or_false, not_or] at hspecial
  have hb : beginsNumber (c :: (t ++ s)) = false := by
    unfold beginsNumber
    split <;> simp_all
  obtain ⟨htake, hdrop⟩ := takeWhile_append_of_stops ht hs
  simp only [scan, hspecial, if_false, hb, Bool.false_eq_true, hc, if_true, htake, hdrop]

/-! ### Numbers -/

section Digits

variable {hex : Bool}

/-- The digits of a number end at a character that is none of a number. -/
theorem digits?_stop (hn : isNameCharacter c = false) (hp : c ≠ '.') :
    digits? hex (c :: s) = some ⟨[], false, c :: s⟩ := by
  rw [digits?.eq_def]
  simp [hn, hp]

/-- A point belongs to a number, and makes it a float. -/
theorem digits?_point : digits? hex ('.' :: s) = (digits? hex s).map (Digits.consFloat '.') := by
  have hn : isNameCharacter '.' = false := by decide
  rw [digits?.eq_def]
  simp [hn]

/-- A digit or letter belongs to a number, and leaves its kind as it is. -/
theorem digits?_name (hn : isNameCharacter c) (he : isExponentMark hex c = false) :
    digits? hex (c :: s) = (digits? hex s).map (Digits.cons c) := by
  rw [digits?.eq_def]
  simp [hn, he]

/-- An exponent mark makes a number a float, and takes a sign along if there is one. -/
theorem digits?_exponent {sign : Char} (hn : isNameCharacter c) (he : isExponentMark hex c) :
    digits? hex (c :: sign :: s) =
      if sign = '+' || sign = '-' then (digits? hex s).map fun d => (d.cons sign).consFloat c
      else (digits? hex (sign :: s)).map (Digits.consFloat c) := by
  rw [digits?.eq_def]
  simp [hn, he]

/-- What stands behind a number does not matter, if the number does not go on with it. -/
theorem digits?_append (hs : s.head?.any fun c => !isNameCharacter c && c ≠ '.' && c ≠ '+' && c ≠ '-') :
    ∀ {t : List Char} {d : Digits}, digits? hex (t ++ [' ']) = some d → d.rest = [' '] →
      digits? hex (t ++ s) = some { d with rest := s } := by
  obtain ⟨c, s, rfl⟩ : ∃ c s', s = c :: s' := by
    cases s with
    | nil => cases hs
    | cons c s => exact ⟨c, s, rfl⟩
  simp only [List.head?_cons, Option.any_some, Bool.and_eq_true, Bool.not_eq_true', decide_eq_true_eq] at hs
  obtain ⟨⟨⟨hname, hpoint⟩, hplus⟩, hminus⟩ := hs
  have hblank : isNameCharacter ' ' = false := by decide
  intro t
  -- an exponent mark takes the next character with it, so the induction is on the length
  induction hn : t.length using Nat.strongRecOn generalizing t with
  | _ n ih =>
  intro d h hr
  match t with
  | [] =>
    -- the blank ends the number, and so does `c`
    obtain rfl := Option.some.inj ((digits?_stop hblank (by decide)).symm.trans h)
    exact digits?_stop hname hpoint
  | a :: t =>
    rw [List.length_cons] at hn
    rw [List.cons_append] at h ⊢
    cases ha : isNameCharacter a with
    | false =>
      by_cases hdot : a = '.'
      · subst hdot
        rw [digits?_point] at h ⊢
        obtain ⟨d, hd, rfl⟩ := Option.map_eq_some_iff.1 h
        rw [ih t.length (by omega) rfl hd hr]
        rfl
      · rw [digits?_stop ha hdot] at h
        obtain rfl := Option.some.inj h
        simp at hr
    | true =>
      cases he : isExponentMark hex a with
      | false =>
        rw [digits?_name ha he] at h ⊢
        obtain ⟨d, hd, rfl⟩ := Option.map_eq_some_iff.1 h
        rw [ih t.length (by omega) rfl hd hr]
        rfl
      | true =>
        match t with
        | [] =>
          -- the exponent mark looks at the blank, or at `c`, and finds no sign
          rw [List.nil_append, digits?_exponent ha he, if_neg (by decide), digits?_stop hblank (by decide)] at h
          obtain rfl := Option.some.inj h
          rw [List.nil_append, digits?_exponent ha he, if_neg (by simp [hplus, hminus]),
            digits?_stop hname hpoint]
          rfl
        | sign :: t =>
          rw [List.length_cons] at hn
          rw [List.cons_append, digits?_exponent ha he] at h ⊢
          split
          · rename_i hsign
            rw [if_pos hsign] at h
            obtain ⟨d, hd, rfl⟩ := Option.map_eq_some_iff.1 h
            rw [ih t.length (by omega) rfl hd hr]
            rfl
          · rename_i hsign
            rw [if_neg hsign] at h
            obtain ⟨d, hd, rfl⟩ := Option.map_eq_some_iff.1 h
            rw [← List.cons_append, ih (sign :: t).length (by rw [List.length_cons]; omega) rfl hd hr]
            rfl

/-- Whether a number begins is told by the characters it begins with. -/
theorem beginsNumber_append (h : beginsNumber t) : beginsNumber (t ++ s) := by
  unfold beginsNumber at h
  split at h
  · exact h
  · rename_i c t hdot
    by_cases hc : c = '.'
    · subst hc
      exact absurd h (by decide)
    · rw [List.cons_append, beginsNumber]
      · exact h
      · simp [hc]
  · cases h

/-- A number begins with a digit or a point. -/
theorem exists_of_beginsNumber (h : beginsNumber t) : ∃ c cs, t = c :: cs ∧ (isDigit c ∨ c = '.') := by
  unfold beginsNumber at h
  split at h
  · exact ⟨_, _, rfl, .inr rfl⟩
  · exact ⟨_, _, rfl, .inl h⟩
  · cases h

/-- A number begins at each digit. -/
theorem beginsNumber_of_isDigit (h : isDigit c) : beginsNumber (c :: s) := by
  have hdot : isDigit '.' = false := by decide
  unfold beginsNumber
  split
  · rename_i heq
    obtain ⟨rfl, -⟩ := List.cons.inj heq
    rw [hdot] at h
    cases h
  · rename_i heq
    obtain ⟨rfl, -⟩ := List.cons.inj heq
    exact h
  · rename_i heq
    cases heq

/-- Where no number begins, no digit stands. -/
theorem isDigit_eq_false (h : beginsNumber (c :: s) = false) : isDigit c = false := by
  cases hd : isDigit c with
  | false => rfl
  | true => rw [beginsNumber_of_isDigit hd] at h; cases h

/-- Whether a number is hexadecimal is told by its own characters. -/
theorem isHex_append (ht : t ≠ []) (hs : s.head?.any isNameCharacter = false) : isHex (t ++ s) = isHex t := by
  match t, s with
  | [a], [] => rfl
  | [a], c :: s =>
    have hc : isNameCharacter c = false := hs
    have hx : c ≠ 'x' ∧ c ≠ 'X' := by
      constructor <;> (rintro rfl; exact absurd hc (by decide))
    unfold isHex
    split <;> simp_all
  | a :: b :: t, s => 
    unfold isHex
    split <;> simp_all

/-- A number is read up to where it stops. -/
theorem scan_number {kind : Token.Kind} {text : List Char} (hv : (number kind text).isValid)
    (hs : (number kind text).stops s.head?) :
    ∃ c cs, text = c :: cs ∧ Gap.piece? (c :: (cs ++ s)) = none ∧
      scan c (cs ++ s) = .ok (number kind text, s) := by
  simp only [isValid, Bool.and_eq_true] at hv
  obtain ⟨hb, hd⟩ := hv
  obtain ⟨c, cs, rfl, hc⟩ := exists_of_beginsNumber hb
  obtain ⟨d, hd, ht⟩ := (Option.any_eq_true _ _).1 hd
  simp only [Bool.and_eq_true, decide_eq_true_eq] at ht
  obtain ⟨⟨htext, hrest⟩, hkind⟩ := ht
  have hstop : s.head?.any isNameCharacter = false := by
    cases s with
    | nil => rfl
    | cons a s => simp_all [stops]
  have hhex := isHex_append (List.cons_ne_nil c cs) hstop
  have hb' := @beginsNumber_append s _ hb
  have hd' := digits?_append hs hd hrest
  rw [List.cons_append] at hhex hb' hd'
  -- neither a digit nor a point opens a literal
  have hquotes : c ≠ '\x22' ∧ c ≠ '\x60' ∧ c ≠ '\x27' := by
    rcases hc with hc | rfl
    · have := not_mem_specials (isNameCharacter_of_isDigit hc)
      simp only [specials, List.mem_cons, not_or] at this
      simp [this]
    · decide
  refine ⟨c, cs, rfl, ?_, ?_⟩
  · rcases hc with hc | rfl
    · exact piece?_eq_none_of_isNameCharacter (isNameCharacter_of_isDigit hc)
    · exact piece?_eq_none (by decide) (by decide) (by decide)
  · rw [scan, if_neg hquotes.1, if_neg hquotes.2.1, if_neg hquotes.2.2, if_pos hb', hhex, hd']
    have hk : numberKind { d with rest := s } = kind := hkind
    simp only [hk]
    rw [htext]

end Digits

/-! ### Literals -/

/-- A quoted body goes on to its quote, and must not meet the end of a line. -/
theorem quotedBody?_cons (hc : c ≠ '\\') : quotedBody? mark (c :: t) =
    if c = mark then some ([], t)
    else if c = '\n' then none
    else (quotedBody? mark t).map fun (body, rest) => (c :: body, rest) := by
  rw [quotedBody?]
  · simp [hc]
  · simp [hc]

/-- A quoted body stays the same whatever follows it. -/
theorem quotedBody?_append {rest : List Char} (hm : mark ≠ '\\') (h : quotedBody? mark t = some (body, rest)) :
    quotedBody? mark (t ++ s) = some (body, rest ++ s) := by
  fun_induction quotedBody? mark t generalizing body with
  | case1 => cases h
  | case2 c t ih =>
    obtain ⟨⟨b, r⟩, hb, heq⟩ := Option.map_eq_some_iff.1 h
    obtain ⟨rfl, rfl⟩ := Prod.mk.inj heq
    rw [List.cons_append, List.cons_append, quotedBody?, ih hb]
    rfl
  | case3 t =>
    obtain ⟨rfl, rfl⟩ := Prod.mk.inj (Option.some.inj h)
    rw [List.cons_append, quotedBody?_cons hm, if_pos rfl]
  | case4 => cases h
  | case5 c t _ hmark hc ih =>
    obtain ⟨⟨b, r⟩, hb, heq⟩ := Option.map_eq_some_iff.1 h
    obtain ⟨rfl, rfl⟩ := Prod.mk.inj heq
    simp only [Bool.or_eq_true, decide_eq_true_eq, not_or] at hc
    rw [List.cons_append, quotedBody?_cons hc.2, if_neg hmark, if_neg hc.1, ih hb]
    rfl

/-- A raw body ends at the first quote. -/
theorem rawBody?_append (h : '\x60' ∉ body) : rawBody? (body ++ '\x60' :: s) = some (body, s) := by
  induction body with
  | nil => rfl
  | cons c body ih =>
    rw [List.mem_cons, not_or] at h
    rw [List.cons_append, rawBody?, if_neg (Ne.symm h.1), ih h.2]
    rfl

/-! ### Operators -/

/-- In the list of operators a longer one comes first, so each one is found before those it begins with. -/
theorem find?_prefix : ∀ op ∈ operators, operators.find? (fun o => o.toList.isPrefixOf op.toList) = some op := by
  decide

/-- An operator that no longer one begins with, the next character added, is the longest one here. -/
theorem operator?_append {op : String} (hop : op ∈ operators)
    (hs : ∀ c ∈ s.head?, ∀ longer ∈ operators, (op.toList ++ [c]).isPrefixOf longer.toList = false) :
    operator? (op.toList ++ s) = some op := by
  have hsame : ∀ o ∈ operators, o.toList.isPrefixOf (op.toList ++ s) = o.toList.isPrefixOf op.toList := by
    intro o ho
    rw [Bool.eq_iff_iff, List.isPrefixOf_iff_prefix, List.isPrefixOf_iff_prefix]
    refine ⟨fun h => ?_, fun h => h.trans (List.prefix_append _ _)⟩
    by_cases hlen : o.toList.length ≤ op.toList.length
    · exact List.prefix_of_prefix_length_le h (List.prefix_append _ _) hlen
    obtain ⟨r, hr⟩ := List.prefix_of_prefix_length_le (List.prefix_append op.toList s) h (by omega)
    rw [← hr, List.prefix_append_right_inj] at h
    cases r with
    | nil => rw [← hr, List.append_nil] at hlen; exact absurd (Nat.le_refl _) hlen
    | cons c r =>
      obtain ⟨t, rfl⟩ := h
      have hlong := hs c rfl o ho
      rw [← hr, ← List.singleton_append (l := r), ← List.append_assoc, ← Bool.not_eq_true,
        List.isPrefixOf_iff_prefix] at hlong
      exact absurd (List.prefix_append _ _) hlong
  rw [operator?, List.find?_congr hsame]
  exact find?_prefix op hop

/-- No operator begins like a gap, a literal, a word or a number. -/
theorem operator_head : ∀ op ∈ operators, op.toList.head?.any (fun c =>
    !Gap.isBlank c && c ≠ '\n' && c ≠ '\x22' && c ≠ '\x60' && c ≠ '\x27' && !isNameStart c && !isDigit c) := by
  decide

theorem operators_ne_nil : ∀ op ∈ operators, op.toList ≠ [] := by
  decide

/-- Two operators begin with a slash. -/
theorem operator_slash : ∀ op ∈ operators, op.toList.head? = some '/' → op = "/" ∨ op = "/=" := by
  decide

/-- Two operators begin with a point. -/
theorem operator_point : ∀ op ∈ operators, op.toList.head? = some '.' → op = "." ∨ op = "..." := by
  decide

/-- What it means that an operator ends in front of a character: none is longer, and no number or comment
begins. -/
theorem stops_operator {op : String} (hs : (operator op).stops s.head?) {d : Char} (hd : s.head? = some d) :
    (∀ longer ∈ operators, (op.toList ++ [d]).isPrefixOf longer.toList = false) ∧
      (op = "." → isDigit d = false) ∧ (op = "/" → d ≠ '/' ∧ d ≠ '*') := by
  simp only [hd, stops, Option.any_some, Bool.not_eq_true', Bool.or_eq_false_iff, List.any_eq_false,
    Bool.not_eq_true, Bool.and_eq_false_imp, decide_eq_true_eq, decide_eq_false_iff_not] at hs
  exact ⟨hs.1.1, hs.1.2, hs.2⟩

/-- There is no gap where an operator begins. -/
theorem piece?_operator {op : String} (hop : op ∈ operators) (hs : (operator op).stops s.head?) :
    Gap.piece? (op.toList ++ s) = none := by
  have hhead := operator_head op hop
  have hslash := operator_slash op hop
  cases htext : op.toList with
  | nil => simp [htext] at hhead
  | cons c cs =>
    simp only [htext, List.head?_cons, Option.any_some, Bool.and_eq_true, Bool.not_eq_true', decide_eq_true_eq,
      Option.some.injEq] at hhead hslash
    by_cases hc : c = '/'
    · rcases hslash hc with rfl | rfl
      · obtain ⟨rfl, rfl⟩ : '/' = c ∧ [] = cs := List.cons.inj htext
        cases s with
        | nil => rfl
        | cons d s =>
          have hd := (stops_operator hs rfl).2.2 rfl
          rw [List.cons_append, List.nil_append, Gap.piece?]
          · rfl
          all_goals simp [hd]
      · obtain ⟨rfl, rfl⟩ : '/' = c ∧ ['='] = cs := List.cons.inj htext
        rfl
    · exact piece?_eq_none hhead.1.1.1.1.1.1 hhead.1.1.1.1.1.2 hc

/-- An operator is scanned as a whole if the next character does not make it longer. -/
theorem scan_operator {op : String} (hop : op ∈ operators) (hs : (operator op).stops s.head?) {cs : List Char}
    (htext : op.toList = c :: cs) : scan c (cs ++ s) = .ok (operator op, s) := by
  have hhead := operator_head op hop
  have hpoint := operator_point op hop
  have hslash := operator_slash op hop
  simp only [htext, List.head?_cons, Option.any_some, Bool.and_eq_true, Bool.not_eq_true', decide_eq_true_eq,
    Option.some.injEq] at hhead hpoint hslash
  obtain ⟨⟨⟨⟨-, hq⟩, hr⟩, ha⟩, hname⟩ := hhead.1
  -- only a point could begin a number, and it stops before a digit
  have hnumber : beginsNumber (c :: (cs ++ s)) = false := by
    by_cases hc : c = '.'
    · rcases hpoint hc with rfl | rfl
      · obtain ⟨rfl, rfl⟩ : '.' = c ∧ [] = cs := List.cons.inj htext
        cases s with
        | nil => decide
        | cons d s => exact (stops_operator hs rfl).2.1 rfl
      · obtain ⟨rfl, rfl⟩ : '.' = c ∧ ['.', '.'] = cs := List.cons.inj htext
        exact (by decide : isDigit '.' = false)
    · rw [beginsNumber]
      · exact hhead.2
      · simp [hc]
  -- only a slash could begin a comment, and it stops before a star
  have hcomment : ['/', '*'].isPrefixOf (c :: (cs ++ s)) = false := by
    by_cases hc : c = '/'
    · rcases hslash hc with rfl | rfl
      · obtain ⟨rfl, rfl⟩ : '/' = c ∧ [] = cs := List.cons.inj htext
        cases s with
        | nil => rfl
        | cons d s =>
          have hd := (stops_operator hs rfl).2.2 rfl
          simp [List.isPrefixOf, Ne.symm hd.2]
      · obtain ⟨rfl, rfl⟩ : '/' = c ∧ ['='] = cs := List.cons.inj htext
        rfl
    · simp [List.isPrefixOf, Ne.symm hc]
  rw [scan, if_neg hq, if_neg hr, if_neg ha, hnumber, hname, hcomment]
  have hop' := operator?_append hop fun d hd => (stops_operator hs hd).1
  rw [htext, List.cons_append] at hop'
  simp only [Bool.false_eq_true, if_false, hop']
  rw [htext, ← List.cons_append, List.drop_left]

/-- No operator has a character of a name in it. -/
theorem not_isNameCharacter_operator : ∀ op ∈ operators, ∀ c ∈ op.toList, isNameCharacter c = false := by
  have h : operators.all fun op => op.toList.all fun c => !isNameCharacter c := by decide
  simpa only [List.all_eq_true, Bool.not_eq_true'] using h

/-- No operator goes on with the beginning of a name. -/
theorem stops_operator_of_isNameStart {op : String} (hc : isNameStart c) (hd : isDigit c = false) :
    (operator op).stops (some c) := by
  have hn := isNameCharacter_of_isNameStart hc
  have hspecial := not_mem_specials hn
  have hstar : c ≠ '*' := by
    rintro rfl
    exact absurd hn (by decide)
  simp only [specials, List.mem_cons, not_or] at hspecial
  simp only [stops, Option.any_some, Bool.not_eq_true', Bool.or_eq_false_iff, List.any_eq_false, Bool.not_eq_true]
  refine ⟨⟨fun longer hl => ?_, by simp [hd]⟩, by simp [hspecial, hstar]⟩
  rw [← Bool.not_eq_true, List.isPrefixOf_iff_prefix]
  intro hp
  have hmem : c ∈ longer.toList := hp.subset (List.mem_append_right _ List.mem_cons_self)
  rw [not_isNameCharacter_operator longer hl c hmem] at hn
  exact Bool.false_ne_true hn

/-- All names begin alike, for the lexeme before them. -/
theorem stops_eq_of_isNameStart (x : Lexeme) {d : Char} (hc : isNameStart c) (hd : isDigit c = false)
    (hc' : isNameStart d) (hd' : isDigit d = false) : x.stops (some c) = x.stops (some d) := by
  have hn := isNameCharacter_of_isNameStart hc
  have hn' := isNameCharacter_of_isNameStart hc'
  cases x with
  | operator op => rw [stops_operator_of_isNameStart hc hd, stops_operator_of_isNameStart hc' hd']
  | _ => simp [stops, hn, hn']

/-! ### All lexemes -/

/-- **Maximal munch.** A lexeme is read as what it is, before a character that it cannot go on with. -/
theorem scan_append {x : Lexeme} (hv : x.isValid) (hs : x.stops s.head?) :
    ∃ c cs, x.text = c :: cs ∧ Gap.piece? (c :: (cs ++ s)) = none ∧ scan c (cs ++ s) = .ok (x, s) := by
  cases x with
  | word w =>
    match w with
    | c :: cs =>
      simp only [isValid, Bool.and_eq_true, Bool.not_eq_true', List.all_eq_true] at hv
      simp only [stops, Bool.not_eq_true'] at hs
      exact ⟨c, cs, rfl, piece?_eq_none_of_isNameCharacter (isNameCharacter_of_isNameStart hv.1.1),
        scan_word hv.1.1 hv.1.2 hv.2 hs⟩
  | number kind text =>
    exact scan_number hv hs
  | string body =>
    simp only [isValid, decide_eq_true_eq] at hv
    refine ⟨'\x22', body ++ ['\x22'], rfl, piece?_eq_none (by decide) (by decide) (by decide), ?_⟩
    rw [scan, if_pos rfl, quotedBody?_append (by decide) hv]
    rfl
  | rawString body =>
    simp only [isValid, Bool.not_eq_true', List.contains_eq_mem, decide_eq_false_iff_not] at hv
    refine ⟨'\x60', body ++ ['\x60'], rfl, piece?_eq_none (by decide) (by decide) (by decide), ?_⟩
    rw [scan, if_neg (by decide), if_pos rfl, List.append_assoc, List.singleton_append, rawBody?_append hv]
  | rune body =>
    simp only [isValid, decide_eq_true_eq] at hv
    refine ⟨'\x27', body ++ ['\x27'], rfl, piece?_eq_none (by decide) (by decide) (by decide), ?_⟩
    rw [scan, if_neg (by decide), if_neg (by decide), if_pos rfl, quotedBody?_append (by decide) hv]
    rfl
  | operator op =>
    have hop : op ∈ operators := by simpa [isValid] using hv
    obtain ⟨c, cs, htext⟩ := List.exists_cons_of_ne_nil (operators_ne_nil op hop)
    have hp := piece?_operator hop hs
    rw [htext, List.cons_append] at hp
    exact ⟨c, cs, htext, hp, scan_operator hop hs htext⟩

/-! ### All scans -/

/-- The marks that literals begin with. -/
def quotes : List Char := ['\x22', '\x60', '\x27']

/-- **What a scan can come to**, and when: the lexeme that a text begins with, and what is left. -/
inductive Scanned : Char → List Char → Lexeme → List Char → Prop
  | string {s body rest : List Char} (hbody : quotedBody? '\x22' s = some (body, rest)) :
      Scanned '\x22' s (string body) rest
  | rawString {s body rest : List Char} (hbody : rawBody? s = some (body, rest)) :
      Scanned '\x60' s (rawString body) rest
  | rune {s body rest : List Char} (hbody : quotedBody? '\x27' s = some (body, rest)) :
      Scanned '\x27' s (rune body) rest
  | number {c : Char} {s : List Char} {d : Digits} (hquote : c ∉ quotes) (hnumber : beginsNumber (c :: s))
      (hdigits : digits? (isHex (c :: s)) (c :: s) = some d) : Scanned c s (number (numberKind d) d.text) d.rest
  | word {c : Char} {s : List Char} (hquote : c ∉ quotes) (hnumber : beginsNumber (c :: s) = false)
      (hstart : isNameStart c) :
      Scanned c s (word (c :: s.takeWhile isNameCharacter)) (s.dropWhile isNameCharacter)
  | operator {c : Char} {s : List Char} {op : String} (hquote : c ∉ quotes)
      (hnumber : beginsNumber (c :: s) = false)
      (hstart : isNameStart c = false) (hcomment : ¬ ['/', '*'] <+: c :: s) (hop : operator? (c :: s) = some op) :
      Scanned c s (operator op) ((c :: s).drop op.toList.length)

variable {rest : List Char} {x : Lexeme}

/-- What the scanner finds is there. -/
theorem scanned_of_scan (h : scan c s = .ok (x, rest)) : Scanned c s x rest := by
  unfold scan at h
  by_cases hquote : c ∈ quotes
  · simp only [quotes, List.mem_cons, List.not_mem_nil, or_false] at hquote
    rcases hquote with rfl | rfl | rfl
    · rw [if_pos rfl] at h
      split at h
      · rename_i hbody
        obtain ⟨rfl, rfl⟩ := Prod.mk.inj (Except.ok.inj h)
        exact .string hbody
      · cases h
    · rw [if_neg (by decide), if_pos rfl] at h
      split at h
      · rename_i hbody
        obtain ⟨rfl, rfl⟩ := Prod.mk.inj (Except.ok.inj h)
        exact .rawString hbody
      · cases h
    · rw [if_neg (by decide), if_neg (by decide), if_pos rfl] at h
      split at h
      · rename_i hbody
        obtain ⟨rfl, rfl⟩ := Prod.mk.inj (Except.ok.inj h)
        exact .rune hbody
      · cases h
  have hmarks := hquote
  simp only [quotes, List.mem_cons, List.not_mem_nil, or_false, not_or] at hmarks
  rw [if_neg hmarks.1, if_neg hmarks.2.1, if_neg hmarks.2.2] at h
  split at h
  · rename_i hnumber
    split at h
    · rename_i hdigits
      obtain ⟨rfl, rfl⟩ := Prod.mk.inj (Except.ok.inj h)
      exact .number hquote hnumber hdigits
    · cases h
  rename_i hnumber
  rw [Bool.not_eq_true] at hnumber
  split at h
  · rename_i hstart
    obtain ⟨rfl, rfl⟩ := Prod.mk.inj (Except.ok.inj h)
    exact .word hquote hnumber hstart
  rename_i hstart
  rw [Bool.not_eq_true] at hstart
  split at h
  · cases h
  rename_i hcomment
  rw [List.isPrefixOf_iff_prefix] at hcomment
  split at h
  · rename_i hop
    obtain ⟨rfl, rfl⟩ := Prod.mk.inj (Except.ok.inj h)
    exact .operator hquote hnumber hstart hcomment hop
  · cases h

/-- What is there is what the scanner finds. -/
theorem scan_of_scanned (h : Scanned c s x rest) : scan c s = .ok (x, rest) := by
  unfold scan
  cases h with
  | string hbody => rw [if_pos rfl, hbody]
  | rawString hbody => rw [if_neg (by decide), if_pos rfl, hbody]
  | rune hbody => rw [if_neg (by decide), if_neg (by decide), if_pos rfl, hbody]
  | number hquote hnumber hdigits =>
    simp only [quotes, List.mem_cons, List.not_mem_nil, or_false, not_or] at hquote
    rw [if_neg hquote.1, if_neg hquote.2.1, if_neg hquote.2.2, if_pos hnumber, hdigits]
  | word hquote hnumber hstart =>
    simp only [quotes, List.mem_cons, List.not_mem_nil, or_false, not_or] at hquote
    rw [if_neg hquote.1, if_neg hquote.2.1, if_neg hquote.2.2, if_neg (by simp [hnumber]), if_pos hstart]
  | operator hquote hnumber hstart hcomment hop =>
    simp only [quotes, List.mem_cons, List.not_mem_nil, or_false, not_or] at hquote
    rw [← List.isPrefixOf_iff_prefix] at hcomment
    rw [if_neg hquote.1, if_neg hquote.2.1, if_neg hquote.2.2, if_neg (by simp [hnumber]),
      if_neg (by simp [hstart]), if_neg hcomment,
      hop]

theorem scan_eq_ok_iff : scan c s = .ok (x, rest) ↔ Scanned c s x rest :=
  ⟨scanned_of_scan, scan_of_scanned⟩

end Lexeme

end GoFixtures.Go
