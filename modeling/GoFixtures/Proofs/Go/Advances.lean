import GoFixtures.Go.SourceFile
import GoFixtures.Proofs.Go.Reading
import Mathlib.Data.List.Infix
import Mathlib.Data.List.TakeWhile

/-!
# Readers that take tokens

A loop ends only if its rounds take tokens, and a stall stands for a loop that never ends.

* `Token.Ended`: the tokens end with the end of the file. No reader takes this token.
* `TypeExpr.Blocks`: a bracket in an interface body that nothing in the body opens. Only such a bracket may
  make a reader stall.
* `TokenReader.Advances`: a reader takes so many tokens at least, with one lemma for each way to put readers
  together; `Advances.repeatFor` for the loops.
-/

namespace GoFixtures.Go

open TokenReader

namespace Token

/-- The last token stands for the end of the file. -/
def Ended (ts : List Token) : Prop := ∃ t, ts.getLast? = some t ∧ t.kind = .endOfFile

variable {t : Token} {ts us : List Token}

/-- Tokens with an end are never empty. -/
theorem Ended.ne_nil (h : Ended ts) : ts ≠ [] := by
  rintro rfl
  obtain ⟨t, ht, -⟩ := h
  cases ht

/-- An end of the tokens is still ended. -/
theorem Ended.of_suffix (h : Ended ts) (hs : us <:+ ts) (hne : us ≠ []) : Ended us := by
  obtain ⟨t, ht, hk⟩ := h
  obtain ⟨vs, rfl⟩ := hs
  rw [List.getLast?_append_of_ne_nil _ hne] at ht
  exact ⟨t, ht, hk⟩

/-- Another token is not the last one. -/
theorem Ended.tail (h : Ended (t :: ts)) (hk : t.kind ≠ .endOfFile) : Ended ts := by
  refine h.of_suffix (List.suffix_cons t ts) ?_
  rintro rfl
  obtain ⟨u, hu, hend⟩ := h
  obtain rfl : t = u := Option.some.inj hu
  exact hk hend

end Token

open Token

/-! ### Interface bodies that are blocked -/

namespace TypeExpr

/-- The first bracket that closes a group which is open before the tokens, all kinds of brackets counted.
`inner` is the number of groups that are open inside that group. -/
def closer? : Nat → List Token → Option Token
  | _, [] => none
  | inner, t :: ts =>
    match t.kind, inner with
    | .endOfFile, _ => none
    | .opening _, inner => closer? (inner + 1) ts
    | .closing _, 0 => some t
    | .closing _, inner + 1 => closer? inner ts
    | _, inner => closer? inner ts

/-- The tokens behind the opening brace of an interface body come to a parenthesis or a square bracket that
nothing in the body opens. -/
def Blocks (t : Token) (body : List Token) : Prop := closer? 0 body = some t ∧ t.kind ≠ .closing .brace

/-- Among the tokens there is an interface body that a bracket at `p` blocks. -/
def BlockedAt (p : Position) (ts : List Token) : Prop :=
  ∃ word brace body t, (word :: brace :: body) <:+ ts ∧ word.kind = .keyword .interface ∧
    brace.kind = .opening .brace
    ∧ Blocks t body ∧ t.position = p

/-- What blocks an end of the tokens blocks them all. -/
theorem BlockedAt.of_suffix {p : Position} {ts us : List Token} (h : BlockedAt p us) (hs : us <:+ ts) :
    BlockedAt p ts := by
  obtain ⟨word, brace, body, t, hbody, hword, hbrace, hblocks, hp⟩ := h
  exact ⟨word, brace, body, t, hbody.trans hs, hword, hbrace, hblocks, hp⟩

end TypeExpr

open TypeExpr

/-! ### Readers that take tokens -/

namespace TokenReader

variable {α β : Type} {r : TokenReader α} {f : α → TokenReader β} {ts us rest : List Token}
    {k : Token.Kind} {n m : Nat}

/-- From `ts` the reader takes `n` tokens at least and not the last one, or it ends in an error; and it stalls
only where a bracket blocks an interface body. -/
def Advances (n : Nat) (r : TokenReader α) (ts : List Token) : Prop :=
  Ended ts → (∀ a rest, r ts = .ok (a, rest) → Ended rest ∧ rest <:+ ts ∧ rest.length + n ≤ ts.length) ∧
    ∀ p, r ts = .error ⟨.stalled, p⟩ → BlockedAt p ts

namespace Advances

/-- Less may be said of how many tokens are taken. -/
theorem mono (h : Advances n r ts) (hm : m ≤ n) : Advances m r ts := by
  intro hts
  refine ⟨fun a rest hr => ?_, (h hts).2⟩
  obtain ⟨hended, hsuffix, hlen⟩ := (h hts).1 a rest hr
  exact ⟨hended, hsuffix, by omega⟩

/-- Nothing is taken, and nothing goes wrong. -/
protected theorem pure {a : α} : Advances 0 (pure a) ts := by
  intro hts
  refine ⟨fun b rest hr => ?_, fun p hr => nomatch hr⟩
  obtain ⟨-, rfl⟩ := Prod.mk.inj (Except.ok.inj hr)
  exact ⟨hts, List.suffix_rfl, le_rfl⟩

/-- **One reader after the other.** -/
protected theorem bind (h : Advances n r ts)
    (hf : ∀ a rest, r ts = .ok (a, rest) → rest.length + n ≤ ts.length → Advances m (f a) rest) :
    Advances (n + m) (r >>= f) ts := by
  intro hts
  obtain ⟨hok, hstall⟩ := h hts
  rw [bind_apply]
  cases hr : r ts with
  | error e =>
    exact ⟨fun b rest hb => (nomatch hb), fun p hp => hstall p (hr.trans (congrArg _ (Except.error.inj hp)))⟩
  | ok found =>
    obtain ⟨a, us⟩ := found
    obtain ⟨hended, hsuffix, hlen⟩ := hok a us hr
    obtain ⟨hok', hstall'⟩ := hf a us hr hlen hended
    refine ⟨fun b rest hb => ?_, fun p hp => (hstall' p hp).of_suffix hsuffix⟩
    obtain ⟨hended', hsuffix', hlen'⟩ := hok' b rest hb
    exact ⟨hended', hsuffix'.trans hsuffix, by omega⟩

/-- What comes second takes tokens, too, but they need not be counted. -/
theorem before (h : Advances n r ts) (hf : ∀ a rest, rest.length + n ≤ ts.length → Advances 0 (f a) rest) :
    Advances n (r >>= f) ts :=
  h.bind fun a rest _ => hf a rest

/-- What comes second takes the tokens that count. -/
theorem andThen (h : Advances 0 r ts) (hf : ∀ a rest, rest.length ≤ ts.length → Advances n (f a) rest) :
    Advances n (r >>= f) ts := by
  have hboth := h.bind fun a rest _ => hf a rest
  rwa [Nat.zero_add] at hboth

/-- A reader that only looks. -/
theorem look {a : α} (h : r ts = .ok (a, ts)) (hf : Advances n (f a) ts) : Advances n (r >>= f) ts := by
  intro hts
  rw [bind_apply, h]
  exact hf hts

/-! ### Single tokens -/

/-- A step that fails does not stall, unless it says so. -/
theorem fail {cause : ParseFault} {p : Position} (h : cause ≠ .stalled) :
    Advances n (fail cause p : TokenReader α) ts := by
  intro _
  refine ⟨fun a rest hr => (nomatch hr), fun q hr => ?_⟩
  exact absurd (congrArg ParseError.cause (Except.error.inj hr)) h

/-- A token in front of the last one. -/
theorem advance (h : kindAt ts 0 ≠ .endOfFile) : Advances 1 advance ts := by
  intro hts
  refine ⟨fun a rest hr => ?_, fun p hr => nomatch hr⟩
  obtain ⟨-, rfl⟩ := Prod.mk.inj (Except.ok.inj hr)
  match ts with
  | [] => exact absurd rfl hts.ne_nil
  | [t] =>
    obtain ⟨u, hu, hend⟩ := hts
    obtain rfl : t = u := Option.some.inj hu
    exact absurd hend h
  | t :: u :: us =>
    exact ⟨hts.of_suffix (List.suffix_cons t _) (List.cons_ne_nil _ _), List.suffix_cons t _, le_rfl⟩

/-- The last token is not taken. -/
theorem advance' : Advances 0 TokenReader.advance ts := by
  intro hts
  refine ⟨fun a rest hr => ?_, fun p hr => (nomatch hr)⟩
  obtain ⟨-, rfl⟩ := Prod.mk.inj (Except.ok.inj hr)
  have hne : behind ts ≠ [] := by
    unfold behind
    split
    · exact List.cons_ne_nil _ _
    · exact hts.ne_nil
  exact ⟨hts.of_suffix behind_suffix hne, behind_suffix, behind_suffix.length_le⟩

theorem headOf_kind (ts : List Token) : (headOf ts).kind = kindAt ts 0 := by
  cases ts <;> rfl

/-- A token that is asked for is taken, and is not the end. -/
theorem expect (hk : k ≠ .endOfFile) : Advances 1 (expect k) ts := by
  refine look (r := peek) rfl ?_
  by_cases h : (headOf ts).kind = k
  · rw [if_pos h]
    refine advance ?_
    rw [← headOf_kind, h]
    exact hk
  · rw [if_neg h]
    exact fail (by simp)

/-- A token that may be there is taken or left. -/
theorem accept : Advances 0 (accept k) ts := by
  refine look (r := at? k) rfl ?_
  by_cases h : kindAt ts 0 = k
  · simp only [h, decide_true, if_true]
    exact advance'.before fun _ _ _ => .pure
  · simp only [h, decide_false, Bool.false_eq_true, if_false]
    exact .pure

/-- Passing over semicolons does not pass over the end. -/
theorem ended_dropWhile (h : Ended ts) : Ended (ts.dropWhile (·.kind = .mark .semicolon)) := by
  refine h.of_suffix (List.dropWhile_suffix _) fun hnil => ?_
  obtain ⟨t, ht, hend⟩ := h
  have hall := List.dropWhile_eq_nil_iff.1 hnil t (List.mem_of_getLast? ht)
  rw [hend] at hall
  exact absurd hall (by decide)

theorem skipSemicolons : Advances 0 skipSemicolons ts := by
  intro hts
  refine ⟨fun a rest hr => ?_, fun p hr => nomatch hr⟩
  obtain ⟨-, rfl⟩ := Prod.mk.inj (Except.ok.inj hr)
  exact ⟨ended_dropWhile hts, List.dropWhile_suffix _, (List.dropWhile_suffix _).length_le⟩

theorem expectTerminator : Advances 0 expectTerminator ts := by
  refine look (r := at? .endOfFile) rfl ?_
  by_cases h : kindAt ts 0 = .endOfFile
  · simp only [h, decide_true, if_true]
    exact .pure
  · simp only [h, decide_false, Bool.false_eq_true, if_false]
    exact ((expect (by decide)).mono (Nat.zero_le 1)).before fun _ _ _ => .pure

/-! ### Brackets -/

/-- A group ends in front of the end. -/
theorem ended_behindGroup {b : Bracket} {opener : Position} {inner : Nat} (hts : Ended ts)
    (h : behindGroup b opener inner ts = .ok rest) : Ended rest := by
  fun_induction behindGroup b opener inner ts with
  | case1 | case2 => cases h
  | case3 inner t ts hend _ ih | case5 t ts hend _ _ inner ih | case6 inner t ts hend _ _ ih =>
    exact ih (hts.tail hend) h
  | case4 t ts hend => exact Except.ok.inj h ▸ hts.tail hend

/-- The only fault of a group is that it is not closed. -/
theorem behindGroup_error {b : Bracket} {opener : Position} {inner : Nat} {e : ParseError}
    (h : behindGroup b opener inner ts = .error e) : e.cause = .unclosed b := by
  fun_induction behindGroup b opener inner ts with
  | case1 | case2 => exact Except.error.inj h ▸ rfl
  | case3 | case5 | case6 => rename_i ih; exact ih h
  | case4 => cases h

/-- A group has an opening bracket at least. -/
theorem skipGroup {b : Bracket} : Advances 1 (skipGroup b) ts := by
  refine (expect (by simp)).before fun opener us _ => ?_
  intro hus
  cases h : behindGroup b opener.position 0 us with
  | error e =>
    refine ⟨fun a rest hr => by simp [h, Except.map] at hr, fun p hr => ?_⟩
    simp only [h, Except.map, Except.error.injEq] at hr
    have := behindGroup_error h
    simp [hr] at this
  | ok rest =>
    refine ⟨fun a rest' hr => ?_, fun p hr => by simp [h, Except.map] at hr⟩
    simp only [h, Except.map, Except.ok.injEq, Prod.mk.injEq, true_and] at hr
    have hsuffix := behindGroup_suffix h
    exact hr ▸ ⟨ended_behindGroup hus h, hsuffix, hsuffix.length_le⟩

/-- A skip stops at the end at the latest. -/
theorem ended_untilStop {stops : Token.Kind → Bool} {depth : Nat} (h : Ended ts) :
    Ended (untilStop stops depth ts) := by
  fun_induction untilStop stops depth ts with
  | case1 => exact absurd rfl h.ne_nil
  | case2 | case3 | case5 => exact h
  | case4 t ts hend _ depth _ _ ih | case6 t ts hend _ depth _ _ ih | case7 t ts hend depth _ _ _ _ ih =>
    exact ih (h.tail hend)

/-- A skip may stop at once. -/
theorem skipUntil {stops : Token.Kind → Bool} : Advances 0 (skipUntil stops) ts := by
  intro hts
  refine ⟨fun a rest hr => ?_, fun p hr => (nomatch hr)⟩
  obtain ⟨-, rfl⟩ := Prod.mk.inj (Except.ok.inj hr)
  exact ⟨ended_untilStop hts, untilStop_suffix, untilStop_suffix.length_le⟩

/-! ### Loops -/

/-- **A loop whose rounds take tokens** has rounds enough. -/
theorem repeatFor {goesOn : Token.Kind → Bool}
    (hround : ∀ us, us.length ≤ ts.length → Ended us → goesOn (kindAt us 0) → Advances 1 r us)
    (hn : ts.length ≤ n) :
    Advances 0 (repeatFor goesOn r n) ts := by
  induction n generalizing ts with
  | zero =>
    intro hts
    have hpos := List.length_pos_of_ne_nil hts.ne_nil
    omega
  | succ n ih =>
    refine look (r := peekKind 0) rfl ?_
    intro hts
    by_cases h : goesOn (kindAt ts 0)
    · rw [if_pos h]
      -- the round takes a token, so one round less is enough for the rest
      have hrounds : Advances (1 + 0) (r >>= fun a => TokenReader.repeatFor goesOn r n >>= fun more =>
          pure (a :: more)) ts := by
        refine (hround ts le_rfl hts h).before fun a rest hlen => ?_
        have hmore : Advances 0 (TokenReader.repeatFor goesOn r n) rest :=
          ih (fun us hus => hround us (by omega)) (by omega)
        exact hmore.before fun _ _ _ => .pure
      exact hrounds.mono (Nat.zero_le 1) hts
    · rw [if_neg h]
      exact Advances.pure hts

/-- A loop whose rounds take a token comes to its end. -/
theorem repeatWhile {goesOn : Token.Kind → Bool}
    (hround : ∀ us, us.length ≤ ts.length → Ended us → goesOn (kindAt us 0) → Advances 1 r us) :
    Advances 0 (repeatWhile goesOn r) ts :=
  repeatFor hround le_rfl

end Advances

/-- One round of `entries`. -/
def entryRound (b : Bracket) (entry : TokenReader α) : TokenReader α := do
  let a ← entry
  if !(← at? (.closing b)) then
    let _ ← expect (.mark .semicolon)
  skipSemicolons
  return a

theorem entries_eq (b : Bracket) (entry : TokenReader α) :
    entries b entry = repeatWhile (fun k => k ≠ .closing b && k ≠ .endOfFile) (entryRound b entry) := rfl

namespace Advances

variable {b : Bracket}

/-- A round takes what its entry takes. -/
theorem entryRound (h : Advances 1 r ts) : Advances 1 (entryRound b r) ts := by
  refine h.before fun a us _ => look (r := at? (.closing b)) rfl ?_
  split
  · exact ((expect (by decide)).mono (Nat.zero_le 1)).before fun _ _ _ => skipSemicolons.before fun _ _ _ => .pure
  · exact skipSemicolons.before fun _ _ _ => .pure

/-- Entries may be none. -/
theorem entries (h : ∀ us, us.length ≤ ts.length → Advances 1 r us) : Advances 0 (entries b r) ts := by
  rw [entries_eq]
  exact repeatWhile fun us hlen _ _ => (h us hlen).entryRound

/-- A group has brackets at least, or one entry. -/
theorem group (h : ∀ us, us.length ≤ ts.length → Advances 1 r us) : Advances 1 (group r) ts := by
  refine accept.andThen fun c us hlen => ?_
  split
  · refine skipSemicolons.andThen fun _ vs hvs =>
      (entries fun ws hws => h ws (by omega)).andThen fun specs _ _ => ?_
    exact (expect (by decide)).before fun _ _ _ => .pure
  · exact (h us hlen).before fun _ _ _ => .pure

theorem nameRound (h : kindAt ts 0 = .mark .comma) : Advances 1 nameRound ts := by
  refine (advance (by rw [h]; decide)).before fun _ _ _ => ?_
  exact ((expect (by decide)).mono (Nat.zero_le 1)).before fun _ _ _ => .pure

/-- A list of names has one name at least. -/
theorem nameList : Advances 1 nameList ts := by
  rw [nameList_eq]
  refine (expect (by decide)).before fun first us _ => ?_
  exact (repeatWhile fun us _ _ h => nameRound (of_decide_eq_true h)).before fun _ _ _ => .pure

end Advances

end TokenReader

end GoFixtures.Go
