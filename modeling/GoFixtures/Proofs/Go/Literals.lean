import GoFixtures.Proofs.Go.Faults

/-!
# Quoted literals

A literal in double or single quotes ends at the first quote of its kind that no unpaired backslash stands
before, if that comes before a line end which no unpaired backslash stands before. A backslash takes a line
end with it like any other character, so a literal may go on in the next line.

* `Lexeme.escaped_iff`: the body of a literal, told by the runs of backslashes in it.
* `Token.scan_quoted`: which literals are read, what the others are reported as, and which tokens have a line
  end in them.
-/

namespace GoFixtures.Go

namespace Lexeme

/-- The quotes of literals in which a backslash escapes. -/
inductive Quote
  | double | single

namespace Quote

/-- The quote as it is written. -/
def mark : Quote → Char
  | double => '\x22'
  | single => '\x27'

/-- The kind of the literals between such quotes. -/
def kind : Quote → Token.Kind
  | double => .string
  | single => .rune

/-- What a literal is reported as that no quote closes. -/
def fault : Quote → Fault
  | double => .unterminatedString
  | single => .unterminatedRune

/-- The literal with a body. -/
def lexeme (body : List Char) : Quote → Lexeme
  | double => .string body
  | single => .rune body

end Quote

variable {mark c : Char} {s b before body rest : List Char}

/-! ### Unpaired backslashes -/

/-- Whether the text ends with a backslash that no other one escapes: with an odd number of them. -/
def EndsUnpaired (before : List Char) : Prop := (before.reverse.takeWhile (· = '\\')).length % 2 = 1

instance : DecidablePred EndsUnpaired := fun _ => inferInstanceAs (Decidable (_ = _))

theorem not_endsUnpaired_nil : ¬ EndsUnpaired [] := by decide

theorem endsUnpaired_concat : EndsUnpaired (b ++ [c]) ↔ c = '\\' ∧ ¬ EndsUnpaired b := by
  unfold EndsUnpaired
  rw [List.reverse_append, List.reverse_singleton, List.singleton_append, List.takeWhile_cons]
  by_cases hc : c = '\\'
  · simp only [hc, decide_true, if_true, List.length_cons, true_and]
    omega
  · simp [hc]

/-- A backslash and what it escapes leave nothing unpaired. -/
theorem not_endsUnpaired_escape (h : ¬ EndsUnpaired b) : ¬ EndsUnpaired (b ++ ['\\', c]) := by
  rw [← List.singleton_append, ← List.append_assoc, endsUnpaired_concat, endsUnpaired_concat]
  simp [h]

theorem Escaped.not_endsUnpaired (h : Escaped mark body) (hb : ¬ EndsUnpaired before) :
    ¬ EndsUnpaired (before ++ body) := by
  induction h generalizing before with
  | nil => rwa [List.append_nil]
  | @plain c body _ _ hc _ ih =>
    rw [List.append_cons]
    exact ih fun h => hc (endsUnpaired_concat.1 h).1
  | @escape c body _ ih =>
    rw [List.append_cons, List.append_cons, List.append_assoc before, List.singleton_append]
    exact ih (not_endsUnpaired_escape hb)

/-- In the body of a literal, the mark and the line end are escaped. -/
theorem Escaped.endsUnpaired (hm : mark ≠ '\\') (h : Escaped mark body) (hb : ¬ EndsUnpaired before)
    {a : List Char}
    (heq : body = b ++ c :: a) (hc : c = mark ∨ c = '\n') : EndsUnpaired (before ++ b) := by
  have hback : c ≠ '\\' := by
    rcases hc with rfl | rfl
    · exact hm
    · decide
  induction h generalizing before b with
  | nil => simp at heq
  | @plain d body hmark hline hd _ ih =>
    cases b with
    | nil =>
      obtain ⟨rfl, -⟩ := List.cons.inj heq
      exact absurd hc (by simp [hmark, hline])
    | cons e b =>
      obtain ⟨rfl, htail⟩ := List.cons.inj heq
      rw [List.append_cons]
      exact ih (fun h => hd (endsUnpaired_concat.1 h).1) htail
  | @escape d body _ ih =>
    match b with
    | [] =>
      obtain ⟨rfl, -⟩ := List.cons.inj heq
      exact absurd rfl hback
    | [e] =>
      -- the character stands right behind the backslash
      obtain ⟨rfl, -⟩ := List.cons.inj heq
      exact endsUnpaired_concat.2 ⟨rfl, hb⟩
    | e :: f :: b =>
      simp only [List.cons_append, List.cons.injEq] at heq
      obtain ⟨rfl, rfl, htail⟩ := heq
      rw [List.append_cons, List.append_cons, List.append_assoc before, List.singleton_append]
      exact ih (not_endsUnpaired_escape hb) htail

theorem escaped_of_endsUnpaired : ∀ {before body : List Char}, ¬ EndsUnpaired before →
    ¬ EndsUnpaired (before ++ body) →
    (∀ b c a, body = b ++ c :: a → c = mark ∨ c = '\n' → EndsUnpaired (before ++ b)) → Escaped mark body
  | _, [], _, _, _ => .nil
  | before, c :: body, hb, hend, hall => by
    have hc : ¬ (c = mark ∨ c = '\n') := by
      intro hc
      have hfirst := hall [] c body rfl hc
      rw [List.append_nil] at hfirst
      exact hb hfirst
    by_cases hback : c = '\\'
    · subst hback
      cases body with
      | nil => exact absurd (endsUnpaired_concat.2 ⟨rfl, hb⟩) hend
      | cons d body =>
        have happend : ∀ s, before ++ '\\' :: d :: s = before ++ ['\\', d] ++ s := fun s => by simp
        refine .escape d
          (escaped_of_endsUnpaired (not_endsUnpaired_escape hb) (happend body ▸ hend) fun b e a heq he => ?_)
        rw [← happend]
        exact hall ('\\' :: d :: b) e a (by rw [heq]; rfl) he
    · rw [not_or] at hc
      refine .plain hc.1 hc.2 hback (@escaped_of_endsUnpaired (before ++ [c]) body ?_ ?_ fun b e a heq he => ?_)
      · exact fun h => hback (endsUnpaired_concat.1 h).1
      · rwa [← List.append_cons]
      · rw [← List.append_cons]
        exact hall (c :: b) e a (by rw [heq]; rfl) he

/-- **The body of a literal.** Every mark and every line end in it stands behind an unpaired backslash, and
its end does not. -/
theorem escaped_iff (hm : mark ≠ '\\') : Escaped mark body ↔
    ¬ EndsUnpaired body ∧ ∀ b c a, body = b ++ c :: a → c = mark ∨ c = '\n' → EndsUnpaired b :=
  ⟨fun h =>
    ⟨h.not_endsUnpaired not_endsUnpaired_nil, fun _ _ _ heq hc => h.endsUnpaired hm not_endsUnpaired_nil heq hc⟩,
    fun h => escaped_of_endsUnpaired not_endsUnpaired_nil h.1 h.2⟩

/-! ### Where a literal ends -/

/-- Whether a mark that is not escaped comes before the first line end that is not escaped. -/
def IsClosed (mark : Char) (s : List Char) : Prop :=
  ∃ body rest, s = body ++ mark :: rest ∧ ¬ EndsUnpaired body ∧ ∀ b a, body = b ++ '\n' :: a → EndsUnpaired b

/-- The first mark that closes a literal. -/
structure Closes (mark : Char) (s body rest : List Char) : Prop where
  text : s = body ++ mark :: rest
  unescaped : ¬ EndsUnpaired body
  first : ∀ b a, body = b ++ mark :: a → EndsUnpaired b
  lines : ∀ b a, body = b ++ '\n' :: a → EndsUnpaired b

theorem isClosed_iff_exists_closes : IsClosed mark s ↔ ∃ body rest, Closes mark s body rest := by
  refine ⟨fun ⟨body, rest, htext, hend, hlines⟩ => ?_, fun ⟨body, rest, h⟩ =>
    ⟨body, rest, h.text, h.unescaped, h.lines⟩⟩
  induction hn : body.length using Nat.strongRecOn generalizing body rest with
  | _ n ih =>
  by_cases hfirst : ∀ b a, body = b ++ mark :: a → EndsUnpaired b
  · exact ⟨body, rest, htext, hend, hfirst, hlines⟩
  -- an earlier mark closes the literal
  simp only [not_forall] at hfirst
  obtain ⟨b, a, rfl, hb⟩ := hfirst
  refine ih b.length ?_ b (a ++ mark :: rest) ?_ hb (fun b' a' heq => ?_) rfl
  · rw [← hn, List.length_append, List.length_cons]
    omega
  · rw [htext, List.append_assoc, List.cons_append]
  · exact hlines b' (a' ++ mark :: a) (by rw [heq, List.append_assoc, List.cons_append])

theorem quotedBody?_eq_some_iff (hm : mark ≠ '\\') :
    quotedBody? mark s = some (body, rest) ↔ Closes mark s body rest := by
  constructor
  · intro h
    obtain ⟨hend, hall⟩ := (escaped_iff hm).1 (escaped_of_quotedBody? h)
    exact ⟨(quotedBody?_text h).symm, hend, fun b a heq => hall b mark a heq (.inl rfl), fun b a heq =>
      hall b '\n' a heq (.inr rfl)⟩
  · intro h
    rw [h.text]
    refine quotedBody?_of_escaped hm ((escaped_iff hm).2 ⟨h.unescaped, ?_⟩)
    rintro b c a heq (rfl | rfl)
    · exact h.first b a heq
    · exact h.lines b a heq

namespace Quote

variable {q : Quote}

theorem mark_ne_backslash : q.mark ≠ '\\' := by
  cases q <;> decide

theorem piece?_mark : Gap.piece? (q.mark :: s) = none := by
  cases q <;> rfl

theorem text_lexeme : (q.lexeme body).text = q.mark :: (body ++ [q.mark]) := by
  cases q <;> rfl

theorem token_lexeme {p : Position} : (q.lexeme body).token p = ⟨q.kind, String.ofList body, p⟩ := by
  cases q <;> rfl

/-- **A literal that is closed** is read. -/
theorem scan_of_closes (h : Closes q.mark s body rest) : scan q.mark s = .ok (q.lexeme body, rest) := by
  have hbody := (quotedBody?_eq_some_iff mark_ne_backslash).2 h
  cases q with
  | double => exact scan_of_scanned (.string hbody)
  | single => exact scan_of_scanned (.rune hbody)

/-- **A literal that is not closed** is reported. -/
theorem scan_of_not_isClosed (h : ¬ IsClosed q.mark s) : scan q.mark s = .error q.fault := by
  have hnone : ¬ ∃ body rest, s = body ++ q.mark :: rest ∧ Escaped q.mark body := by
    rintro ⟨body, rest, htext, hbody⟩
    obtain ⟨hend, hall⟩ := (escaped_iff mark_ne_backslash).1 hbody
    exact h ⟨body, rest, htext, hend, fun b a heq => hall b '\n' a heq (.inr rfl)⟩
  cases q with
  | double => exact scan_of_faulty (.string hnone)
  | single => exact scan_of_faulty (.rune hnone)

end Quote

/-- The lexemes of literals: raw ones, and those that a quote closes. -/
theorem literal_of_scan {x : Lexeme} (h : scan c s = .ok (x, rest)) (hkind : x.kind = .string ∨ x.kind = .rune) :
    (c = '\x60' ∧ x.kind = .string) ∨ ∃ q :
    Quote, c = q.mark ∧ ∃ body, x = q.lexeme body ∧ Closes q.mark s body rest := by
  cases scan_eq_ok_iff.1 h with
  | rawString => exact .inl ⟨rfl, rfl⟩
  | @string _ body _ hbody =>
    exact .inr ⟨.double, rfl, body, rfl,
      (quotedBody?_eq_some_iff (Quote.mark_ne_backslash (q := .double))).1 hbody⟩
  | @rune _ body _ hbody =>
    exact .inr ⟨.single, rfl, body, rfl,
      (quotedBody?_eq_some_iff (Quote.mark_ne_backslash (q := .single))).1 hbody⟩
  | @number _ _ d =>
    rcases numberKind_cases d with hd | hd | hd <;> simp [kind, hd] at hkind
  | @word c s =>
    rcases kind_word_cases (c :: s.takeWhile isNameCharacter) with hk | ⟨k, hk⟩ <;> simp [hk] at hkind
  | @operator _ _ op =>
    obtain ⟨hrune, hstring⟩ := ofOperator_not_literal op
    exact absurd hkind (not_or.2 ⟨hstring, hrune⟩)

end Lexeme

/-! ### The literals of a text -/

open Layout Lexeme

/-- **Quoted literals.** Where a reader comes to a quote, it reads a literal if a quote that is not escaped
comes before the first line end that is not escaped; the first such quote closes the literal. If there is
none, the text has no tokens, and that is reported at the place of the quote that opens the literal. A token
of a literal thus comes from a raw literal, or each line end in its value is escaped. -/
theorem Token.scan_quoted (source : String) :
    (∀ (q : Quote) (p : Position) (s : List Char), Reaches source p (q.mark :: s) →
      (IsClosed q.mark s → ∃ body rest ts, Closes q.mark s body rest ∧
        Token.scan source = ((ofText rest).tokens (p.after (q.mark :: (body ++ [q.mark]))) true).map
          (ts ++ ⟨q.kind, String.ofList body, p⟩ :: ·)) ∧
      (¬ IsClosed q.mark s → Token.scan source = .error ⟨q.fault, p⟩)) ∧
    ∀ ts, Token.scan source = .ok ts → ∀ t ∈ ts, t.kind = .string ∨ t.kind = .rune →
      (t.kind = .string ∧ ∃ s, Reaches source t.position ('\x60' :: s)) ∨
      ∃ (q : Quote) (s : List Char), Reaches source t.position (q.mark :: s) ∧ t.kind = q.kind ∧
        ∀ b a, t.value.toList = b ++ '\n' :: a → EndsUnpaired b := by
  refine ⟨fun q p s h => ⟨fun hclosed => ?_, fun hclosed => ?_⟩, fun ts hts t ht hkind => ?_⟩
  · obtain ⟨body, rest, hcloses⟩ := isClosed_iff_exists_closes.1 hclosed
    obtain ⟨ts, e, hscan⟩ := h.scan_eq
    have hends : (q.lexeme body).kind.endsLine = true := by cases q <;> rfl
    refine ⟨body, rest, ts, hcloses, ?_⟩
    rw [hscan, tokens_lexeme Quote.piece?_mark (Quote.scan_of_closes hcloses), map_map, Quote.text_lexeme,
      Quote.token_lexeme, hends]
  · obtain ⟨ts, e, hscan⟩ := h.scan_eq
    rw [hscan, tokens_fault Quote.piece?_mark (Quote.scan_of_not_isClosed hclosed)]
    rfl
  · rcases Reaches.start.exists_scan hts ht with hsemi | hend | ⟨c, u, x, rest, hreach, hx, htoken⟩
    · simp [hsemi] at hkind
    · simp [hend] at hkind
    rw [htoken] at hkind ⊢
    rcases literal_of_scan hx hkind with ⟨rfl, hstring⟩ | ⟨q, rfl, body, rfl, hcloses⟩
    · exact .inl ⟨hstring, u, hreach⟩
    · refine .inr ⟨q, u, hreach, by rw [Quote.token_lexeme], fun b a heq => hcloses.lines b a ?_⟩
      rwa [Quote.token_lexeme, String.toList_ofList] at heq

/-- A string with a quote that is escaped, and a rune that is not closed. -/
def openSource : String := "\x22a\\\x22b\x22 \x27c"

/-- What stands behind its first quote. -/
def openTail : List Char := ['a', '\\', '\x22', 'b', '\x22', ' ', '\x27', 'c']

theorem Token.scan_quoted_open :
    Reaches openSource ⟨1, 1⟩ (Quote.double.mark :: openTail) ∧ IsClosed Quote.double.mark openTail ∧
      Reaches openSource ⟨1, 8⟩ (Quote.single.mark :: ['c']) ∧ ¬ IsClosed Quote.single.mark ['c'] ∧
      (∃ body rest ts, Closes Quote.double.mark openTail body rest ∧
        Token.scan openSource =
          ((ofText rest).tokens (Position.after ⟨1, 1⟩ ('\x22' :: (body ++ ['\x22']))) true).map
          (ts ++ ⟨.string, String.ofList body, ⟨1, 1⟩⟩ :: ·)) ∧
      Token.scan openSource = .error ⟨.unterminatedRune, ⟨1, 8⟩⟩ := by
  have hstring : Reaches openSource ⟨1, 1⟩ (Quote.double.mark :: openTail) := .start
  have hclosed : IsClosed Quote.double.mark openTail := by
    refine ⟨['a', '\\', '\x22', 'b'], [' ', '\x27', 'c'], rfl, by decide, fun b a heq => ?_⟩
    have hline : '\n' ∈ ['a', '\\', '\x22', 'b'] := by simp [heq]
    exact absurd hline (by decide)
  have hread : Lexeme.scan Quote.double.mark openTail =
    .ok (.string ['a', '\\', '\x22', 'b'], [' ', '\x27', 'c']) := rfl
  have hblank : Gap.piece? [' ', '\x27', 'c'] = some (.blank ' ', ['\x27', 'c']) := rfl
  have hrune : Reaches openSource ⟨1, 8⟩ (Quote.single.mark :: ['c']) :=
    .gap (.lexeme hstring Quote.piece?_mark hread) hblank
  have hopen : ¬ IsClosed Quote.single.mark ['c'] := by
    rintro ⟨body, rest, heq, -, -⟩
    have hmark : Quote.single.mark ∈ ['c'] := by simp [heq]
    exact absurd hmark (by decide)
  obtain ⟨hquoted, -⟩ := Token.scan_quoted openSource
  exact ⟨hstring, hclosed, hrune, hopen, (hquoted .double _ _ hstring).1 hclosed,
    (hquoted .single _ _ hrune).2 hopen⟩

/-- **A backslash in front of a line end.** The literal is read over the line end, though no quote closes it
on its line. -/
theorem Token.scan_escapedLineEnd :
    Token.scan "\x22a\\\nb\x22" = .ok [⟨.string, "a\\\nb", ⟨1, 1⟩⟩, .impliedSemicolon ⟨2, 3⟩, .finish ⟨2, 3⟩] ∧
      ¬ ∃ body rest, "a\\\nb\x22".toList = body ++ '\x22' :: rest ∧ ¬ EndsUnpaired body ∧ '\n' ∉ body := by
  refine ⟨by decide +kernel, ?_⟩
  rintro ⟨body, rest, htext, -, hline⟩
  have htext : ['a', '\\', '\n', 'b', '\x22'] = body ++ '\x22' :: rest := htext
  -- the line end stands before the only quote
  rcases body with _ | ⟨a, _ | ⟨b, _ | ⟨c, body⟩⟩⟩ <;> simp at htext
  simp [← htext.2.2.1] at hline

end GoFixtures.Go
