import GoFixtures.Proofs.Go.Faults
import GoFixtures.Proofs.Outcome

/-!
# Texts joined at a line end

No lexeme and no part of a gap that a text ends with goes on over a line end that is put behind it. So the
tokens of lines are those of the first lines and then those of the others, which only stand further down.

* `Gap.piece?_append_lineEnd`, `Lexeme.scan_append_lineEnd`: what is read first does not change.
* `Layout.tokens_append_lineEnd`: so the tokens of the text do not, and what follows is read from the
  beginning of a line.
* `Layout.tokens_down`: where a text begins is all that the lines of its tokens depend on.
* `Token.scan_joined`: the tokens, or the error, of two texts that are joined.
-/

namespace GoFixtures.Go

open Text

/-! ### The first piece -/

namespace Gap

variable {s rest t : List Char} {p : Piece}

theorem blockBody?_append {body : List Char} (h : blockBody? s = some (body, rest)) :
    blockBody? (s ++ t) = some (body, rest ++ t) := by
  fun_induction blockBody? s generalizing body with
  | case1 => cases h
  | case2 rest =>
    obtain ⟨rfl, rfl⟩ := Prod.mk.inj (Option.some.inj h)
    rfl
  | case3 c s hmark ih =>
    obtain ⟨⟨b, r⟩, hb, heq⟩ := Option.map_eq_some_iff.1 h
    obtain ⟨rfl, rfl⟩ := Prod.mk.inj heq
    rw [List.cons_append, blockBody?, ih hb]
    · rfl
    · -- no end mark stands here, since the body that is read goes on behind it
      rintro r rfl hr
      cases s with
      | nil => cases hb
      | cons d s => exact hmark s rfl (by rw [(List.cons.inj hr).1])

theorem takeWhile_append_of_not {q : Char → Bool} {c : Char} (hc : q c = false) :
    (s ++ c :: t).takeWhile q = s.takeWhile q ∧ (s ++ c :: t).dropWhile q = s.dropWhile q ++ c :: t := by
  induction s with
  | nil => simp [hc]
  | cons d s ih =>
    rw [List.cons_append, List.takeWhile_cons, List.takeWhile_cons, List.dropWhile_cons,
      List.dropWhile_cons, ih.1, ih.2]
    cases q d <;> exact ⟨rfl, rfl⟩

/-- A part of a gap stays what it is where the text goes on behind a line end. -/
theorem piece?_append_lineEnd (h : piece? s = some (p, rest)) :
    piece? (s ++ '\n' :: t) = some (p, rest ++ '\n' :: t) := by
  unfold piece? at h
  split at h
  · obtain ⟨rfl, rfl⟩ := Prod.mk.inj (Option.some.inj h)
    rfl
  · obtain ⟨rfl, rfl⟩ := Prod.mk.inj (Option.some.inj h)
    rename_i body
    have hline := @takeWhile_append_of_not body t (· ≠ '\n') '\n' (by decide)
    rw [List.cons_append, List.cons_append, piece?, hline.1, hline.2]
  · obtain ⟨⟨b, r⟩, hb, heq⟩ := Option.map_eq_some_iff.1 h
    obtain ⟨rfl, rfl⟩ := Prod.mk.inj heq
    rw [List.cons_append, List.cons_append, piece?, blockBody?_append hb]
    rfl
  · rename_i c s _ _ _
    split at h
    · rename_i hblank
      obtain ⟨rfl, rfl⟩ := Prod.mk.inj (Option.some.inj h)
      have hc : c ≠ '/' ∧ c ≠ '\n' := by
        constructor <;> (rintro rfl; exact absurd hblank (by decide))
      rw [List.cons_append, piece?]
      · rw [if_pos hblank]
      all_goals simp [hc]
    · cases h
  · cases h

end Gap

namespace Lexeme

variable {c : Char} {s rest t : List Char} {x : Lexeme} {hex : Bool} {d : Digits}

/-- Where no gap begins but a lexeme, none begins where the text goes on behind a line end, either. -/
theorem piece?_append_lineEnd (hg : Gap.piece? (c :: s) = none) (hx : scan c s = .ok (x, rest)) :
    Gap.piece? (c :: (s ++ '\n' :: t)) = none := by
  by_cases hc : c = '/'
  · subst hc
    match s with
    | [] => rfl
    | d :: s =>
      have hd : d ≠ '/' ∧ d ≠ '*' := by
        constructor
        · rintro rfl
          cases hg
        · rintro rfl
          -- the comment has no end, which is a fault
          have hend := Gap.blockBody?_eq_none_iff.1 (Option.map_eq_none_iff.1 hg)
          cases hx.symm.trans (scan_of_faulty (.comment hend))
      rw [List.cons_append, Gap.piece?]
      · rfl
      all_goals simp [hd]
  · have hblank : Gap.isBlank c = false ∧ c ≠ '\n' := by
      have hline : c ≠ '\n' := by
        rintro rfl
        cases hg
      refine ⟨?_, hline⟩
      rw [Gap.piece?] at hg
      · simpa using hg
      all_goals simp [hc, hline]
    exact piece?_eq_none hblank.1 hblank.2 hc

theorem digits?_append_lineEnd (h : digits? hex s = some d) :
    digits? hex (s ++ '\n' :: t) = some { d with rest := d.rest ++ '\n' :: t } := by
  have hline : isNameCharacter '\n' = false := by decide
  fun_induction digits? hex s generalizing d with
  | case1 =>
    obtain rfl := Option.some.inj h
    exact digits?_stop hline (by decide)
  | case2 => cases h
  | case3 c hc he sign more hs ih =>
    obtain ⟨d, hd, rfl⟩ := Option.map_eq_some_iff.1 h
    rw [List.cons_append, List.cons_append, digits?_exponent hc he, if_pos hs, ih hd]
    rfl
  | case4 c hc he sign more hs ih =>
    obtain ⟨d, hd, rfl⟩ := Option.map_eq_some_iff.1 h
    rw [List.cons_append, List.cons_append, digits?_exponent hc he, if_neg hs, ← List.cons_append, ih hd]
    rfl
  | case5 c rest hc he ih =>
    obtain ⟨d, hd, rfl⟩ := Option.map_eq_some_iff.1 h
    rw [List.cons_append, digits?_name hc (by simpa using he), ih hd]
    rfl
  | case6 rest _ ih =>
    obtain ⟨d, hd, rfl⟩ := Option.map_eq_some_iff.1 h
    rw [List.cons_append, digits?_point, ih hd]
    rfl
  | case7 c rest hc hp =>
    obtain rfl := Option.some.inj h
    exact digits?_stop (by simpa using hc) hp

theorem beginsNumber_append_lineEnd : beginsNumber (c :: (s ++ '\n' :: t)) = beginsNumber (c :: s) := by
  by_cases hc : c = '.'
  · subst hc
    cases s with
    | nil => exact (by decide : isDigit '\n' = isDigit '.')
    | cons d s => rfl
  · rw [beginsNumber, beginsNumber]
    all_goals simp [hc]

theorem isHex_append_lineEnd : isHex (c :: (s ++ '\n' :: t)) = isHex (c :: s) :=
  isHex_append (List.cons_ne_nil c s) (by decide : isNameCharacter '\n' = false)

theorem lineEnd_not_mem : ∀ op ∈ operators, '\n' ∉ op.toList := by decide

/-- No operator goes over the end of a line. -/
theorem operator?_append_lineEnd : operator? (s ++ '\n' :: t) = operator? s := by
  refine List.find?_congr fun op hop => ?_
  rw [Bool.eq_iff_iff, List.isPrefixOf_iff_prefix, List.isPrefixOf_iff_prefix]
  refine ⟨fun h => ?_, fun h => h.trans (List.prefix_append _ _)⟩
  rcases Nat.le_total op.toList.length s.length with hlen | hlen
  · exact List.prefix_of_prefix_length_le h (List.prefix_append _ _) hlen
  -- an operator that goes on behind the text has the line end in it
  obtain ⟨r, hr⟩ := List.prefix_of_prefix_length_le (List.prefix_append s ('\n' :: t)) h hlen
  rw [← hr, List.prefix_append_right_inj] at h
  cases r with
  | nil => exact ⟨[], by rw [← hr, List.append_nil, List.append_nil]⟩
  | cons c r =>
    obtain ⟨rfl, -⟩ := List.cons_prefix_cons.1 h
    have hmem : '\n' ∈ op.toList := by simp [← hr]
    exact absurd hmem (lineEnd_not_mem op hop)

/-- **A lexeme** stays what it is where the text goes on behind a line end. -/
theorem scan_append_lineEnd (h : scan c s = .ok (x, rest)) :
    scan c (s ++ '\n' :: t) = .ok (x, rest ++ '\n' :: t) := by
  refine scan_eq_ok_iff.2 ?_
  cases scan_eq_ok_iff.1 h with
  | string hbody => exact .string (quotedBody?_append (by decide) hbody)
  | rawString hbody =>
    refine .rawString ?_
    rw [← rawBody?_text hbody, List.append_assoc, List.cons_append, rawBody?_append (not_mem_of_rawBody? hbody)]
  | rune hbody => exact .rune (quotedBody?_append (by decide) hbody)
  | @number _ _ d hquote hnumber hdigits =>
    have hdigits' := digits?_append_lineEnd (t := t) hdigits
    rw [List.cons_append, ← isHex_append_lineEnd (t := t)] at hdigits'
    exact .number hquote (beginsNumber_append_lineEnd.trans hnumber) hdigits'
  | word hquote hnumber hstart =>
    have hname : isNameCharacter '\n' = false := by decide
    have hword := Gap.takeWhile_append_of_not (s := s) (t := t) hname
    rw [← hword.1, ← hword.2]
    exact .word hquote (beginsNumber_append_lineEnd.trans hnumber) hstart
  | @operator _ _ op hquote hnumber hstart hcomment hop =>
    have hcomment' : ¬ ['/', '*'] <+: c :: (s ++ '\n' :: t) := by
      cases s with
      | nil => simp
      | cons d s => simpa using hcomment
    have hop' : operator? (c :: (s ++ '\n' :: t)) = some op := by
      rw [← List.cons_append, operator?_append_lineEnd, hop]
    have hlen : op.toList.length ≤ (c :: s).length := by
      rw [← operator?_text hop, List.length_append]
      omega
    rw [← List.drop_append_of_le_length hlen, List.cons_append]
    exact .operator hquote (beginsNumber_append_lineEnd.trans hnumber) hstart hcomment' hop'

end Lexeme

/-! ### All pieces -/

namespace Layout

variable {s t : List Char} {p : Position} {e : Bool} {ts : List Token}

/-- The last token stands for the end of the text. -/
theorem exists_of_tokens (h : (ofText s).tokens p e = .ok ts) : ∃ us, ts = us ++ [.finish (p.after s)] := by
  have htokens := tokens_eq h
  rw [ofText_text, ← List.append_assoc] at htokens
  exact ⟨_, htokens⟩

theorem ne_nil_of_tokens (h : (ofText s).tokens p e = .ok ts) : ts ≠ [] := by
  obtain ⟨us, rfl⟩ := exists_of_tokens h
  simp

/-- **A text and the lines behind it.** -/
theorem tokens_append_lineEnd (h : (ofText s).tokens p e = .ok ts) : (ofText (s ++ '\n' :: t)).tokens p e =
    ((ofText t).tokens (p.after (s ++ ['\n'])) false).map (ts.dropLast ++ ·) := by
  induction s using pieces_induction generalizing p e ts with
  | nil =>
    rw [tokens_nil] at h
    obtain rfl := Except.ok.inj h
    rw [List.dropLast_concat, List.nil_append, tokens_gap rfl]
    cases e <;> rfl
  | gap hp ih =>
    rw [tokens_gap hp] at h
    obtain ⟨us, hus, rfl⟩ := map_eq_ok_iff.1 h
    rw [tokens_gap (Gap.piece?_append_lineEnd hp), ih hus,
      List.dropLast_append_of_ne_nil (ne_nil_of_tokens hus), map_map,
      ← Position.after_append, ← List.append_assoc, Gap.piece?_text hp]
    simp only [List.append_assoc]
  | lexeme hg hx ih =>
    rw [tokens_lexeme hg hx] at h
    obtain ⟨us, hus, rfl⟩ := map_eq_ok_iff.1 h
    rw [List.cons_append, tokens_lexeme (Lexeme.piece?_append_lineEnd hg hx) (Lexeme.scan_append_lineEnd hx),
      ih hus,
      List.dropLast_cons_of_ne_nil (ne_nil_of_tokens hus), map_map, ← Position.after_append,
        ← List.append_assoc, Lexeme.scan_text hx]
    rfl
  | fault hg hx =>
    rw [tokens_fault hg hx] at h
    cases h

end Layout

/-! ### Lines -/

namespace Position

variable {p : Position} {k : Nat} {c : Char} {s : List Char}

/-- The same column, some lines further down. -/
def down (k : Nat) (p : Position) : Position := ⟨p.line + k, p.column⟩

theorem next_down : (p.down k).next c = (p.next c).down k := by
  unfold next
  split
  · simp only [down, mk.injEq, and_true]
    omega
  · rfl

theorem after_down : (p.down k).after s = (p.after s).down k := by
  induction s generalizing p with
  | nil => rfl
  | cons c s ih => rw [after_cons, after_cons, next_down, ih]

/-- Behind a text and a line end the next line begins. -/
theorem start_after_lineEnd (s : List Char) : (start.after s).after ['\n'] = start.down (s.count '\n' + 1) := by
  rw [start_after, after_cons, after_nil, next, if_pos rfl]
  simp only [down, start, mk.injEq, and_true]
  omega

end Position

/-- The token, some lines further down. -/
def Token.down (k : Nat) (t : Token) : Token := { t with position := t.position.down k }

/-- The error, some lines further down. -/
def ScanError.down (k : Nat) (e : ScanError) : ScanError := { e with position := e.position.down k }

namespace Layout

variable {p : Position} {k : Nat} {e last : Bool} {gap : Gap} {l : Layout}

theorem lineEnd?_down : gap.lineEnd? (p.down k) = (gap.lineEnd? p).map (Position.down k) := by
  induction gap generalizing p with
  | nil => rfl
  | cons piece gap ih =>
    rw [Gap.lineEnd?, Gap.lineEnd?, Position.after_down, ih]
    split <;> rfl

theorem semicolons_down : semicolons e last (p.down k) gap = (semicolons e last p gap).map (Token.down k) := by
  unfold semicolons
  rw [lineEnd?_down, Position.after_down]
  cases e with
  | false => rfl
  | true => cases gap.lineEnd? p <;> cases last <;> rfl

/-- **Lines.** Only the lines of the tokens depend on the line where a text begins. -/
theorem tokens_down : l.tokens (p.down k) e =
    ((l.tokens p e).map (List.map (Token.down k))).mapError (ScanError.down k) := by
  induction l generalizing p e with
  | finish gap =>
    rw [tokens, tokens, semicolons_down, Position.after_down]
    simp [Except.map, Except.mapError, Token.finish, Token.down]
  | fault gap cause rest =>
    rw [tokens, tokens, Position.after_down]
    rfl
  | lexeme gap x next ih =>
    rw [tokens, tokens]
    simp only [Position.after_down, ih, semicolons_down]
    cases tokens ((p.after gap.text).after x.text) x.kind.endsLine next with
    | error e => rfl
    | ok ts => simp [Except.map, Except.mapError, Lexeme.token, Token.down]

end Layout

/-- **Texts joined at a line end.** If the first text has tokens, they stay, but for the one that stands for
its end, and behind them come those of the second text. If the second has none, the whole has none for the
same reason. Everything of the second text stands further down, by the line ends before it. -/
theorem Token.scan_joined {a b : String} {ts : List Token} (h : Token.scan a = .ok ts) :
    ∃ init, ts = init ++ [.finish (Position.start.after a.toList)] ∧
      (∀ us, Token.scan b = .ok us →
        Token.scan (a ++ "\n" ++ b) = .ok (init ++ us.map (Token.down (a.toList.count '\n' + 1)))) ∧
      ∀ error, Token.scan b = .error error →
        Token.scan (a ++ "\n" ++ b) = .error (error.down (a.toList.count '\n' + 1)) := by
  obtain ⟨init, rfl⟩ := Layout.exists_of_tokens h
  have hjoined : Token.scan (a ++ "\n" ++ b) =
      (((Token.scan b).map (List.map (Token.down (a.toList.count '\n' + 1)))).mapError
        (ScanError.down (a.toList.count '\n' + 1))).map (init ++ ·) := by
    have htext : (a ++ "\n" ++ b).toList = a.toList ++ '\n' :: b.toList := by simp
    rw [Token.scan, htext, Layout.tokens_append_lineEnd h, Position.after_append, Position.start_after_lineEnd,
      Layout.tokens_down,
      List.dropLast_concat]
    rfl
  refine ⟨init, rfl, fun us hus => ?_, fun error herror => ?_⟩
  · rw [hjoined, hus]
    rfl
  · rw [hjoined, herror]
    rfl

/-- A raw literal over a line end, a number that ends with a sign, and a comment up to the end of the text. -/
theorem Token.scan_joined_comment :
    Token.scan "\x60\n\x60 1e+ // c" =
        .ok [⟨.string, "\n", ⟨1, 1⟩⟩, ⟨.float, "1e+", ⟨2, 3⟩⟩, .impliedSemicolon ⟨2, 11⟩, .finish ⟨2, 11⟩] ∧
      Token.scan "\nb" = .ok [⟨.identifier, "b", ⟨2, 1⟩⟩, .impliedSemicolon ⟨2, 2⟩, .finish ⟨2, 2⟩] ∧
      Token.scan ("\x60\n\x60 1e+ // c" ++ "\n" ++ "\nb") =
        .ok [⟨.string, "\n", ⟨1, 1⟩⟩, ⟨.float, "1e+", ⟨2, 3⟩⟩, .impliedSemicolon ⟨2, 11⟩,
          ⟨.identifier, "b", ⟨4, 1⟩⟩,
          .impliedSemicolon ⟨4, 2⟩, .finish ⟨4, 2⟩] := by
  have ha : Token.scan "\x60\n\x60 1e+ // c" =
      .ok [⟨.string, "\n", ⟨1, 1⟩⟩, ⟨.float, "1e+", ⟨2, 3⟩⟩, .impliedSemicolon ⟨2, 11⟩, .finish ⟨2, 11⟩] := by
        decide +kernel
  have hb : Token.scan "\nb" = .ok [⟨.identifier, "b", ⟨2, 1⟩⟩, .impliedSemicolon ⟨2, 2⟩, .finish ⟨2, 2⟩] := by
    decide +kernel
  obtain ⟨init, hinit, hjoined, -⟩ := Token.scan_joined (b := "\nb") ha
  have hinit := congrArg List.dropLast hinit
  rw [List.dropLast_concat] at hinit
  refine ⟨ha, hb, ?_⟩
  rw [hjoined _ hb, ← hinit]
  rfl

end GoFixtures.Go
