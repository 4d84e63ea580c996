import GoFixtures.Proofs.Go.Decomposition

/-!
# What keeps a text from having tokens

A text has tokens, or it is gaps and lexemes up to a place where no lexeme begins. What is wrong at that place
is said without the scanner: a character that begins no lexeme, a literal or a comment that nothing closes, or
a number that ends the text with the mark of an exponent. All but the last are reported, at the place where
the lexeme begins.

* `digits?_eq_none_iff`, `quotedBody?_eq_none_iff`, `rawBody?_eq_none_iff`, `blockBody?_eq_none_iff`: what
  makes each reader fail.
* `Lexeme.faulty_of_scan`, `Lexeme.scan_of_faulty`: the fault that a scan finds is the one that is there.
* `Token.scan_outcome`: the outcome for any text.
-/

namespace GoFixtures.Go

open Text

namespace Position

/-- The line counts the line ends of a text, and the column the characters behind the last of them. -/
theorem start_after (s : List Char) : start.after s =
    ⟨s.count '\n' + 1, (s.reverse.takeWhile (· ≠ '\n')).length + 1⟩ := by
  induction s using List.reverseRecOn with
  | nil => rfl
  | append_singleton s c ih =>
    rw [after_append, after_cons, after_nil, ih, next, List.count_append, List.reverse_append,
      List.reverse_singleton,
      List.singleton_append, List.takeWhile_cons]
    by_cases hc : c = '\n' <;> simp [hc]

end Position

namespace Gap

variable {s : List Char}

theorem blockBody?_eq_none_iff : blockBody? s = none ↔ ¬ ['*', '/'] <:+: s := by
  fun_induction blockBody? s with
  | case1 => simp
  | case2 rest => simpa using List.infix_cons_iff.2 (.inl (List.prefix_append ['*', '/'] rest))
  | case3 c s hmark ih =>
    rw [Option.map_eq_none_iff, ih, List.infix_cons_iff, not_or, and_iff_right]
    rintro ⟨t, ht⟩
    obtain ⟨rfl, rfl⟩ := List.cons.inj ht
    exact hmark t rfl rfl

end Gap

namespace Lexeme

variable {c mark : Char} {s rest body : List Char} {hex : Bool} {cause other : Fault}

/-! ### Literals and numbers that fail -/

/-- What stands in front of a mark that closes a literal is read. -/
theorem quotedBody?_of_escaped (hm : mark ≠ '\\') (h : Escaped mark body) :
    quotedBody? mark (body ++ mark :: rest) = some (body, rest) := by
  induction h with
  | nil => rw [List.nil_append, quotedBody?_cons hm, if_pos rfl]
  | plain hc hl hb _ ih =>
    rw [List.cons_append, quotedBody?_cons hb, if_neg hc, if_neg (by simp [hl]), ih]
    rfl
  | escape c _ ih => rw [List.cons_append, List.cons_append, quotedBody?, ih]; rfl

theorem quotedBody?_eq_none_iff (hm : mark ≠ '\\') :
    quotedBody? mark s = none ↔ ¬ ∃ body rest, s = body ++ mark :: rest ∧ Escaped mark body := by
  constructor
  · rintro h ⟨body, rest, rfl, hbody⟩
    rw [quotedBody?_of_escaped hm hbody] at h
    cases h
  · intro h
    cases hq : quotedBody? mark s with
    | none => rfl
    | some r => exact absurd ⟨r.1, r.2, (quotedBody?_text hq).symm, escaped_of_quotedBody? hq⟩ h

theorem rawBody?_eq_none_iff : rawBody? s = none ↔ '\x60' ∉ s := by
  induction s with
  | nil => simp [rawBody?]
  | cons c s ih =>
    rw [rawBody?, List.mem_cons, not_or]
    by_cases hc : c = '\x60'
    · simp [hc]
    · simp [hc, Ne.symm hc, ih]

/-- What a number may be made of: points, letters, digits and underscores, and signs behind the mark of an
exponent. -/
inductive Numeral (hex : Bool) : List Char → Prop
  | nil : Numeral hex []
  | point {body : List Char} (h : Numeral hex body) : Numeral hex ('.' :: body)
  | name {c : Char} {body : List Char} (hc : isNameCharacter c) (h : Numeral hex body) : Numeral hex (c :: body)
  | signed {c sign : Char} {body : List Char} (hc : isExponentMark hex c) (hs : sign = '+' ∨ sign = '-')
      (h : Numeral hex body) :
      Numeral hex (c :: sign :: body)

/-- The text is a number that ends with the mark of an exponent. -/
def EndsInExponent (text : List Char) : Prop :=
  beginsNumber text ∧ ∃ body mark, text = body ++ [mark] ∧ Numeral (isHex text) body ∧
    isExponentMark (isHex text) mark

theorem isNameCharacter_of_isExponentMark (h : isExponentMark hex c) : isNameCharacter c := by
  have hc : c = 'e' ∨ c = 'E' ∨ c = 'p' ∨ c = 'P' := by
    simp only [isExponentMark, Bool.or_eq_true, Bool.and_eq_true, decide_eq_true_eq] at h
    tauto
  rcases hc with rfl | rfl | rfl | rfl <;> decide

theorem not_sign_of_isNameCharacter (h : isNameCharacter c) : ¬ (c = '+' ∨ c = '-') := by
  rintro (rfl | rfl) <;> revert h <;> decide

/-- A number has no sign in front. -/
theorem Numeral.head_not_sign (h : Numeral hex (c :: s)) : ¬ (c = '+' ∨ c = '-') := by
  cases h with
  | point => decide
  | name hc => exact not_sign_of_isNameCharacter hc
  | signed hc => exact not_sign_of_isNameCharacter (isNameCharacter_of_isExponentMark hc)

theorem digits?_of_numeral (h : Numeral hex body) (hm : isExponentMark hex mark) :
    digits? hex (body ++ [mark]) = none := by
  have hname := isNameCharacter_of_isExponentMark hm
  induction h with
  | nil => rw [List.nil_append, digits?, if_pos hname, if_pos hm]
  | point _ ih => rw [List.cons_append, digits?_point, ih]; rfl
  | signed hc hs _ ih =>
    rw [List.cons_append, List.cons_append, digits?_exponent (isNameCharacter_of_isExponentMark hc) hc,
      if_pos (by simpa using hs), ih]
    rfl
  | @name c body hc hbody ih =>
    cases he : isExponentMark hex c with
    | false => rw [List.cons_append, digits?_name hc he, ih]; rfl
    | true =>
      -- what follows the mark is no sign
      obtain ⟨d, more, hd, hsign⟩ : ∃ d more, body ++ [mark] = d :: more ∧ ¬ (d = '+' ∨ d = '-') := by
        cases body with
        | nil => exact ⟨mark, [], rfl, not_sign_of_isNameCharacter hname⟩
        | cons d body => exact ⟨d, body ++ [mark], rfl, hbody.head_not_sign⟩
      rw [List.cons_append, hd, digits?_exponent hc he, if_neg (by simpa using hsign), ← hd, ih]
      rfl

theorem digits?_eq_none_iff :
    digits? hex s = none ↔ ∃ body mark, s = body ++ [mark] ∧ Numeral hex body ∧ isExponentMark hex mark := by
  constructor
  · intro h
    fun_induction digits? hex s with
    | case1 => cases h
    | case2 c _ hm => exact ⟨[], c, rfl, .nil, hm⟩
    | case3 c _ hm sign more hs ih =>
      obtain ⟨body, mark, rfl, hbody, hmark⟩ := ih (Option.map_eq_none_iff.1 h)
      exact ⟨c :: sign :: body, mark, rfl, .signed hm (by simpa using hs) hbody, hmark⟩
    | case4 c hname _ sign more _ ih =>
      obtain ⟨body, mark, heq, hbody, hmark⟩ := ih (Option.map_eq_none_iff.1 h)
      exact ⟨c :: body, mark, by rw [heq, List.cons_append], .name hname hbody, hmark⟩
    | case5 c rest hname _ ih =>
      obtain ⟨body, mark, rfl, hbody, hmark⟩ := ih (Option.map_eq_none_iff.1 h)
      exact ⟨c :: body, mark, rfl, .name hname hbody, hmark⟩
    | case6 rest _ ih =>
      obtain ⟨body, mark, rfl, hbody, hmark⟩ := ih (Option.map_eq_none_iff.1 h)
      exact ⟨'.' :: body, mark, rfl, .point hbody, hmark⟩
    | case7 => cases h
  · rintro ⟨body, mark, rfl, hbody, hmark⟩
    exact digits?_of_numeral hbody hmark

/-! ### Faults -/

/-- **Faults.** What is wrong with a text that begins with no lexeme: its first character begins none, nothing
closes the literal or the comment that it begins with, or it is a number that ends with the mark of an
exponent. -/
inductive Faulty : Fault → List Char → Prop
  | unexpected {c : Char} {s : List Char} (hquote : c ∉ ['\x22', '\x60', '\x27']) (hdigit : isDigit c = false)
      (hname : isNameStart c = false) (hop : ∀ op ∈ operators, ¬ op.toList <+: c :: s) : Faulty
        (.unexpected c) (c :: s)
  | string {s : List Char} (h : ¬ ∃ body rest, s = body ++ '\x22' :: rest ∧ Escaped '\x22' body) :
      Faulty .unterminatedString ('\x22' :: s)
  | rawString {s : List Char} (h : '\x60' ∉ s) : Faulty .unterminatedRawString ('\x60' :: s)
  | rune {s : List Char} (h : ¬ ∃ body rest, s = body ++ '\x27' :: rest ∧ Escaped '\x27' body) :
      Faulty .unterminatedRune ('\x27' :: s)
  | comment {s : List Char} (h : ¬ ['*', '/'] <:+: s) : Faulty .unterminatedComment ('/' :: '*' :: s)
  | exponent {s : List Char} (h : EndsInExponent s) : Faulty .truncatedExponent s

theorem Faulty.ne_nil (h : Faulty cause s) : s ≠ [] := by
  cases h with
  | exponent h =>
    obtain ⟨-, body, mark, rfl, -⟩ := h
    simp
  | _ => exact List.cons_ne_nil _ _

theorem operator?_eq_none_iff : operator? s = none ↔ ∀ op ∈ operators, ¬ op.toList <+: s := by
  simp only [operator?, List.find?_eq_none, List.isPrefixOf_iff_prefix]

/-- A number begins with a digit, or with a point, which is an operator. -/
theorem beginsNumber_eq_false (hdigit : isDigit c = false) (hop : ∀ op ∈ operators, ¬ op.toList <+: c :: s) :
    beginsNumber (c :: s) = false := by
  unfold beginsNumber
  split
  · rename_i d rest heq
    obtain ⟨rfl, rfl⟩ := List.cons.inj heq
    exact absurd (List.prefix_append ['.'] (d :: rest)) (hop "." (by decide))
  · rename_i heq
    obtain ⟨rfl, rfl⟩ := List.cons.inj heq
    exact hdigit
  · rfl

/-- A number begins with a digit or a point, which are no quotes. -/
theorem not_quote_of_beginsNumber (h : beginsNumber (c :: s)) : c ∉ ['\x22', '\x60', '\x27'] := by
  have hstring : isDigit '\x22' = false := by decide
  have hraw : isDigit '\x60' = false := by decide
  have hrune : isDigit '\x27' = false := by decide
  obtain ⟨d, ds, heq, hd⟩ := exists_of_beginsNumber h
  obtain ⟨rfl, rfl⟩ := List.cons.inj heq
  simp only [List.mem_cons, List.not_mem_nil, or_false, not_or]
  refine ⟨?_, ?_, ?_⟩ <;> rintro rfl <;> simp_all

/-- A scan finds only what is wrong. -/
theorem faulty_of_scan (hgap : Gap.piece? (c :: s) = none) (h : scan c s = .error cause) :
    Faulty cause (c :: s) := by
  unfold scan at h
  split at h
  · rename_i hc
    subst hc
    split at h
    · cases h
    · rename_i hnone
      obtain rfl := Except.error.inj h
      exact .string ((quotedBody?_eq_none_iff (by decide)).1 hnone)
  rename_i hstring
  split at h
  · rename_i hc
    subst hc
    split at h
    · cases h
    · rename_i hnone
      obtain rfl := Except.error.inj h
      exact .rawString (rawBody?_eq_none_iff.1 hnone)
  rename_i hraw
  split at h
  · rename_i hc
    subst hc
    split at h
    · cases h
    · rename_i hnone
      obtain rfl := Except.error.inj h
      exact .rune ((quotedBody?_eq_none_iff (by decide)).1 hnone)
  rename_i hrune
  split at h
  · rename_i hbegin
    split at h
    · cases h
    · rename_i hnone
      obtain rfl := Except.error.inj h
      exact .exponent ⟨hbegin, digits?_eq_none_iff.1 hnone⟩
  rename_i hnumber
  split at h
  · cases h
  rename_i hname
  split at h
  · rename_i hcomment
    obtain rfl := Except.error.inj h
    obtain ⟨t, ht⟩ := List.isPrefixOf_iff_prefix.1 hcomment
    obtain ⟨rfl, rfl⟩ := List.cons.inj ht
    -- a comment that ends would have been a gap
    exact .comment (Gap.blockBody?_eq_none_iff.1 (Option.map_eq_none_iff.1 hgap))
  split at h
  · cases h
  · rename_i hnone
    obtain rfl := Except.error.inj h
    have hdigit := isDigit_eq_false (by simpa using hnumber)
    exact .unexpected (by simp [hstring, hraw, hrune]) hdigit (by simpa using hname)
      (operator?_eq_none_iff.1 hnone)

/-- And it finds what is wrong. -/
theorem scan_of_faulty (h : Faulty cause (c :: s)) : scan c s = .error cause := by
  unfold scan
  cases h with
  | string h => rw [if_pos rfl, (quotedBody?_eq_none_iff (by decide)).2 h]
  | rawString h => rw [if_neg (by decide), if_pos rfl, rawBody?_eq_none_iff.2 h]
  | rune h => rw [if_neg (by decide), if_neg (by decide), if_pos rfl, (quotedBody?_eq_none_iff (by decide)).2 h]
  | comment h =>
    have hdigit : isDigit '/' = false := by decide
    rw [if_neg (by decide), if_neg (by decide), if_neg (by decide), if_neg (by simp [beginsNumber, hdigit]),
      if_neg (by decide),
      if_pos (by simp)]
  | exponent h =>
    obtain ⟨hbegin, hend⟩ := h
    have hquote := not_quote_of_beginsNumber hbegin
    simp only [List.mem_cons, List.not_mem_nil, or_false, not_or] at hquote
    rw [if_neg hquote.1, if_neg hquote.2.1, if_neg hquote.2.2, if_pos hbegin, digits?_eq_none_iff.2 hend]
  | unexpected hquote hdigit hname hop =>
    simp only [List.mem_cons, List.not_mem_nil, or_false, not_or] at hquote
    have hslash : ¬ ['/', '*'].isPrefixOf (c :: s) := by
      intro hp
      obtain ⟨t, ht⟩ := List.isPrefixOf_iff_prefix.1 hp
      exact hop "/" (by decide) ⟨'*' :: t, ht⟩
    rw [if_neg hquote.1, if_neg hquote.2.1, if_neg hquote.2.2,
      if_neg (by simp [beginsNumber_eq_false hdigit hop]),
      if_neg (by simp [hname]), if_neg hslash, operator?_eq_none_iff.2 hop]

/-- A text has one fault at most. -/
theorem Faulty.cause_eq (h : Faulty cause s) (h' : Faulty other s) : cause = other := by
  obtain ⟨c, rest, rfl⟩ := List.exists_cons_of_ne_nil h.ne_nil
  exact Except.error.inj ((scan_of_faulty h).symm.trans (scan_of_faulty h'))

theorem Faulty.truncatedExponent_iff (h : Faulty cause s) : cause = .truncatedExponent ↔ EndsInExponent s := by
  constructor
  · rintro rfl
    cases h with
    | exponent h => exact h
  · exact fun hend => h.cause_eq (.exponent hend)

end Lexeme

/-! ### What comes before a fault -/

/-- Gaps and lexemes, where `rest` follows them. -/
inductive Reads (rest : List Char) : List Char → Prop
  | nil : Reads rest []
  | gap {piece : Gap.Piece} {before : List Char} (hpiece : piece.StandsBefore (before ++ rest))
      (h : Reads rest before) :
      Reads rest (piece.text ++ before)
  | lexeme {text before : List Char} {kind : Token.Kind} {value : String}
      (hlexeme : Lexeme.Spells text kind value (before ++ rest))
      (h : Reads rest before) : Reads rest (text ++ before)

namespace Layout

variable {p : Position} {e : Bool} {s : List Char} {error : ScanError}

/-- **A layout without tokens** comes to a fault behind gaps and lexemes. -/
theorem faulty_of_tokens (h : (ofText s).tokens p e = .error error) :
    ∃ before rest, s = before ++ rest ∧ Reads rest before ∧
    error.position = p.after before ∧ Lexeme.Faulty error.cause rest := by
  induction s using pieces_induction generalizing p e with
  | nil =>
    rw [tokens_nil] at h
    cases h
  | @gap _ _ piece hp ih =>
    rw [tokens_gap hp] at h
    obtain ⟨before, rest, rfl, hreads, hposition, hfaulty⟩ := ih (map_eq_error_iff.1 h)
    refine ⟨piece.text ++ before, rest, ?_, .gap (Gap.standsBefore_of_piece? hp) hreads, ?_, hfaulty⟩
    · rw [List.append_assoc, Gap.piece?_text hp]
    · rw [hposition, Position.after_append]
  | @lexeme _ _ x _ hg hx ih =>
    rw [tokens_lexeme hg hx] at h
    obtain ⟨before, rest, rfl, hreads, hposition, hfaulty⟩ := ih (map_eq_error_iff.1 h)
    refine ⟨x.text ++ before, rest, ?_, .lexeme (Lexeme.spells_of_scan hx) hreads, ?_, hfaulty⟩
    · rw [List.append_assoc, Lexeme.scan_text hx]
    · rw [hposition, Position.after_append]
  | fault hg hx =>
    rw [tokens_fault hg hx] at h
    obtain rfl := Except.error.inj h
    exact ⟨[], _, rfl, .nil, rfl, Lexeme.faulty_of_scan hg hx⟩

end Layout

/-- A text is gaps and lexemes up to a number that ends it with the mark of an exponent. -/
def Token.IsTruncated (source : String) : Prop :=
  ∃ before rest, source.toList = before ++ rest ∧ Reads rest before ∧ Lexeme.EndsInExponent rest

/-- **The outcome of a scan.** A text has tokens, or it is gaps and lexemes up to a place where no lexeme
begins, and the error is what is wrong there. Its line is one more than the line ends before that place, and
its column one more than the characters behind the last of them. The error is reported unless the text ends
there with the mark of an exponent. -/
theorem Token.scan_outcome (source : String) :
    (∃ ts, Token.scan source = .ok ts) ∨
    ∃ error before rest, Token.scan source = .error error ∧ source.toList = before ++ rest ∧
      Reads rest before ∧ rest ≠ [] ∧
      error.position = ⟨before.count '\n' + 1, (before.reverse.takeWhile (· ≠ '\n')).length + 1⟩ ∧
      Lexeme.Faulty error.cause rest ∧ (error.isReported = false ↔ Lexeme.EndsInExponent rest) := by
  cases h : Token.scan source with
  | ok ts => exact .inl ⟨ts, rfl⟩
  | error error =>
    obtain ⟨before, rest, htext, hreads, hposition, hfaulty⟩ := Layout.faulty_of_tokens h
    refine .inr ⟨error, before, rest, rfl, htext, hreads, hfaulty.ne_nil, ?_, hfaulty, ?_⟩
    · rw [hposition, Position.start_after]
    · rw [← hfaulty.truncatedExponent_iff, ScanError.isReported]
      simp

/-- **The mark of an exponent at the end.** The text is a number, and the scan goes past its end; no place is
reported. -/
theorem Token.scan_exponent :
    Token.scan "1e" = .error ⟨.truncatedExponent, ⟨1, 1⟩⟩ ∧
      (⟨.truncatedExponent, ⟨1, 1⟩⟩ : ScanError).isReported = false := by
  decide +kernel

end GoFixtures.Go
