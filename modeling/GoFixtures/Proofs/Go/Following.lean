import GoFixtures.Go.SourceFile
import GoFixtures.Proofs.Go.Advances

/-!
# What follows the tokens read

A reader decides by the next tokens. As long as it does not come to the end of the tokens it is given, it does
not matter what follows them, with one exception: behind a name in a struct body, a square bracket is looked
up to the bracket that closes it, all kinds of brackets counted, and that may stand anywhere.

* `TypeExpr.Misled`: what follows changes such a look.
* `TokenReader.Alike`: two readers read the same from tokens that go on differently, or the second one fails
  where it is misled; with one lemma for each way to put readers together, `Alike.repeatFor` for the loops.
-/

namespace GoFixtures.Go

open TokenReader

namespace TypeExpr

/-- Whether the field ends behind the bracket that closes the group at the beginning, all kinds of brackets
counted. -/
def endsBehindGroup (ts : List Token) : Bool :=
  match closingOffset? 0 ts with
  | some i => endsEmbedded (kindAt ts (i + 1))
  | none => false

/-- Behind some name in `p`, a look at the bracket that closes a group ends otherwise if `q'` stands in the
place of `q`. -/
def Misled (q q' p : List Token) : Prop :=
  ∃ name bracket more, name :: bracket :: more <:+ p ∧ name.kind = .identifier ∧ bracket.kind = .opening .square ∧
    endsBehindGroup (bracket :: more ++ q') ≠ endsBehindGroup (bracket :: more ++ q)

/-- What is misled in an end of `p` is misled in `p`. -/
theorem Misled.of_suffix {q q' p p' : List Token} (h : Misled q q' p') (hs : p' <:+ p) : Misled q q' p := by
  obtain ⟨name, bracket, more, hmore, hrest⟩ := h
  exact ⟨name, bracket, more, hmore.trans hs, hrest⟩

/-- What stands in front of the tokens that change. -/
theorem Misled.append {q q' p s : List Token} (h : Misled (s ++ q) (s ++ q') p) : Misled q q' (p ++ s) := by
  obtain ⟨name, bracket, more, ⟨front, rfl⟩, hname, hb, hne⟩ := h
  refine ⟨name, bracket, more ++ s, ⟨front, by simp⟩, hname, hb, ?_⟩
  rwa [List.cons_append, List.cons_append, List.append_assoc, List.append_assoc]

end TypeExpr

open TypeExpr

namespace TokenReader

variable {α β : Type} {q q' ts : List Token}

/-- Where `r` reads something from `ts`, so does `r'`, and it leaves an end of `ts`. Where `ts` goes on with
`q` and `r` does not come so far, `r'` reads the same if `q'` stands in the place of `q`, or it is misled and
fails. -/
structure Alike (q q' : List Token) (r r' : TokenReader α) (ts : List Token) : Prop where
  suffix : ∀ {a rest}, r ts = .ok (a, rest) → rest <:+ ts
  same : ∀ {a rest}, r ts = .ok (a, rest) → r' ts = .ok (a, rest)
  agrees : ∀ {p p' a}, ts = p ++ q → p' ≠ [] → r ts = .ok (a, p' ++ q) →
    r' (p ++ q') = .ok (a, p' ++ q') ∨ Misled q q' p ∧ ∃ e, r' (p ++ q') = .error e

/-- What two readers have read one after the other. -/
theorem exists_of_bind_ok {r : TokenReader α} {f : α → TokenReader β} {b : β} {rest : List Token}
    (h : (r >>= f) ts = .ok (b, rest)) :
    ∃ a us, r ts = .ok (a, us) ∧ f a us = .ok (b, rest) := by
  rw [bind_apply] at h
  cases hr : r ts with
  | error e => rw [hr] at h; cases h
  | ok found =>
    rw [hr] at h
    exact ⟨found.1, found.2, rfl, h⟩

/-- A token that is asked for is taken if there is another one behind it. -/
theorem expect_apply {k : Token.Kind} {t : Token} {us : List Token} (h : t.kind = k) (hus : us ≠ []) :
    expect k (t :: us) = .ok (t, us) := by
  obtain ⟨u, us, rfl⟩ := List.exists_cons_of_ne_nil hus
  simp [expect, bind_apply, peek, headOf, h, advance, behind]

/-- A token that may be there is taken if there is another one behind it. -/
theorem accept_apply {k : Token.Kind} {t : Token} {us : List Token} (h : t.kind = k) (hus : us ≠ []) :
    accept k (t :: us) = .ok (true, us) := by
  obtain ⟨u, us, rfl⟩ := List.exists_cons_of_ne_nil hus
  simp [accept, bind_apply, at?, kindAt, h, advance, behind, pure_apply]

/-- A token that is not there is not taken. -/
theorem accept_of_ne {k : Token.Kind} (h : kindAt ts 0 ≠ k) : accept k ts = .ok (false, ts) := by
  simp [accept, bind_apply, at?, h, pure_apply]

/-- What is known once a token that was asked for has been found. -/
theorem of_expect_ok {k : Token.Kind} {first : Token} {rest : List Token} (h : expect k ts = .ok (first, rest)) :
    kindAt ts 0 = k ∧ first = headOf ts ∧ rest = behind ts := by
  by_cases hk : (headOf ts).kind = k
  · have hadvance : expect k ts = .ok (headOf ts, behind ts) := by
      rw [expect, bind_apply]
      exact congrFun (if_pos hk) ts
    obtain ⟨rfl, rfl⟩ := Prod.mk.inj (Except.ok.inj (hadvance.symm.trans h))
    exact ⟨Advances.headOf_kind ts ▸ hk, rfl, rfl⟩
  · have hfail : expect k ts = TokenReader.fail (.expected k.label (headOf ts)) (headOf ts).position ts := by
      rw [expect, bind_apply]
      exact congrFun (if_neg hk) ts
    cases hfail.symm.trans h

/-- What is left of the tokens if nothing else is given. -/
theorem of_map_ok {r : Except ParseError (List Token)} {u : Unit} {rest : List Token}
    (h : (r.map fun us => ((), us)) = .ok (u, rest)) :
    r = .ok rest := by
  cases r with
  | error e => cases h
  | ok us => exact congrArg _ (Prod.mk.inj (Except.ok.inj h)).2

/-- What is known once a group has been passed over. -/
theorem of_skipGroup_ok {b : Bracket} {bracket : Token} {us rest : List Token} {u : Unit}
    (h : skipGroup b (bracket :: us) = .ok (u, rest)) :
    behindGroup b bracket.position 0 us = .ok rest := by
  obtain ⟨opener, vs, hopener, -⟩ := exists_of_bind_ok h
  rw [skipGroup_apply hopener] at h
  obtain ⟨hb, hfirst, hvs⟩ := of_expect_ok hopener
  have hgroup : behindGroup b bracket.position 0 (behind (bracket :: us)) = .ok rest := by
    rw [← hvs, ← show opener = bracket from hfirst]
    exact of_map_ok h
  cases us with
  | nil =>
    -- the bracket would stand for the end of the file
    have hunclosed : behindGroup b bracket.position 0 [bracket] = .error ⟨.unclosed b, bracket.position⟩ := by
      have hkind : bracket.kind = .opening b := hb
      simp [behindGroup, hkind]
    cases hunclosed.symm.trans hgroup
  | cons next us => exact hgroup

/-- What is left and has not come to `q` ends what was given. -/
theorem exists_front {p p' us : List Token} (hus : us <:+ p ++ q) (hp' : p' ++ q <:+ us) (hne : p' ≠ []) :
    ∃ p'', us = p'' ++ q ∧ p'' ≠ [] ∧ p'' <:+ p ∧ p' <:+ p'' := by
  obtain ⟨front, hfront⟩ := hp'
  have hus' : us = (front ++ p') ++ q := by rw [← hfront, List.append_assoc]
  refine ⟨front ++ p', hus', by simp [hne], ?_, List.suffix_append _ _⟩
  obtain ⟨before, hbefore⟩ := hus
  rw [hus', ← List.append_assoc] at hbefore
  exact ⟨before, List.append_cancel_right hbefore⟩

/-- What has more than `q` in it is no end of `q`. -/
theorem not_append_suffix {p' : List Token} (hne : p' ≠ []) : ¬ p' ++ q <:+ q := by
  intro h
  have hlen := h.length_le
  have hpos := List.length_pos_of_ne_nil hne
  rw [List.length_append] at hlen
  omega

/-- Both lists end in `q`, so one is an end of the other without it. -/
theorem suffix_of_append {p p' : List Token} (h : p' ++ q <:+ p ++ q) : p' <:+ p := by
  obtain ⟨before, hbefore⟩ := h
  rw [← List.append_assoc] at hbefore
  exact ⟨before, List.append_cancel_right hbefore⟩

namespace Alike

variable {r r' : TokenReader α} {f f' : α → TokenReader β} {k : Token.Kind}

/-- **One reader after the other.** -/
protected theorem bind (h : Alike q q' r r' ts) (hf : ∀ a us, r ts = .ok (a, us) → Alike q q' (f a) (f' a) us) :
    Alike q q' (r >>= f) (r' >>= f') ts := by
  refine ⟨fun hb => ?_, fun hb => ?_, fun {p p' b} hp hne hb => ?_⟩
  · obtain ⟨a, us, ha, hb⟩ := exists_of_bind_ok hb
    exact ((hf a us ha).suffix hb).trans (h.suffix ha)
  · obtain ⟨a, us, ha, hb⟩ := exists_of_bind_ok hb
    rw [bind_apply, h.same ha]
    exact (hf a us ha).same hb
  · obtain ⟨a, us, ha, hb⟩ := exists_of_bind_ok hb
    have hfront := (hf a us ha).suffix hb
    subst hp
    obtain ⟨p'', rfl, hne'', hsuffix, -⟩ := exists_front (h.suffix ha) hfront hne
    rw [bind_apply]
    rcases h.agrees rfl hne'' ha with hr' | ⟨hmisled, e, hr'⟩
    · rcases (hf a _ ha).agrees rfl hne hb with hf' | ⟨hmisled, e, hf'⟩
      · exact .inl (by rw [hr']; exact hf')
      · exact .inr ⟨hmisled.of_suffix hsuffix, e, by rw [hr']; exact hf'⟩
    · exact .inr ⟨hmisled, e, by rw [hr']⟩

/-- Nothing is read, and nothing depends on what follows. -/
protected theorem pure {a : α} : Alike q q' (pure a) (pure a) ts := by
  refine ⟨fun h => ?_, fun h => h, fun {p p' b} hp _ h => .inl ?_⟩
  · obtain ⟨-, rfl⟩ := Prod.mk.inj (Except.ok.inj h)
    exact List.suffix_rfl
  · obtain ⟨rfl, hrest⟩ := Prod.mk.inj (Except.ok.inj h)
    obtain rfl : p = p' := List.append_cancel_right (hp.symm.trans hrest)
    rfl

/-- A reader that never reads anything. -/
theorem of_error (h : ∀ a rest, r ts ≠ .ok (a, rest)) : Alike q q' r r' ts :=
  ⟨fun hr => absurd hr (h _ _), fun hr => absurd hr (h _ _), fun _ _ hr => absurd hr (h _ _)⟩

/-- A step that fails is like any other one: there is nothing to compare. -/
theorem fail {cause : ParseFault} {p : Position} : Alike q q' (fail cause p : TokenReader α) r' ts :=
  of_error fun _ _ h => nomatch h

theorem stall : Alike q q' (stall : TokenReader α) r' ts :=
  of_error fun _ _ h => nomatch h

/-- A reader that only looks. Where it sees something else if `q'` stands in the place of `q`, the next reader
is misled. -/
theorem lookFar {l : TokenReader α} {g : List Token → α} (hl : ∀ us, l us = .ok (g us, us))
    (hg : ∀ p p' b, ts = p ++ q → p' ≠ [] → p' <:+ p → f (g ts) ts = .ok (b, p' ++ q) →
      g (p ++ q') = g ts ∨ Misled q q' p ∧ ∃ e, f' (g (p ++ q')) (p ++ q') = .error e)
    (hf : Alike q q' (f (g ts)) (f' (g ts)) ts) : Alike q q' (l >>= f) (l >>= f') ts := by
  have happly {h : α → TokenReader β} (us : List Token) : (l >>= h) us = h (g us) us := by rw [bind_apply, hl]
  refine ⟨fun hb => ?_, fun hb => ?_, fun {p p' b} hp hne hb => ?_⟩
  · rw [happly] at hb
    exact hf.suffix hb
  · rw [happly] at hb ⊢
    exact hf.same hb
  · rw [happly] at hb
    have hsuffix : p' <:+ p := suffix_of_append (hp ▸ hf.suffix hb)
    rw [happly]
    rcases hg p p' b hp hne hsuffix hb with hsame | hmisled
    · rw [hsame]
      exact hf.agrees hp hne hb
    · exact .inr hmisled

/-- A reader that looks at what the next reader takes. -/
theorem look {l : TokenReader α} {g : List Token → α} (hl : ∀ us, l us = .ok (g us, us))
    (hg : ∀ p p' b, ts = p ++ q → p' ≠ [] → p' <:+ p → f (g ts) ts = .ok (b, p' ++ q) → g (p ++ q') = g ts)
    (hf : Alike q q' (f (g ts)) (f' (g ts)) ts) : Alike q q' (l >>= f) (l >>= f') ts :=
  lookFar hl (fun p p' b hp hne hs hb => .inl (hg p p' b hp hne hs hb)) hf

/-- The next token does not change. -/
theorem kindAt_zero {p p' : List Token} (hne : p' ≠ []) (hs : p' <:+ p) :
    kindAt (p ++ q') 0 = kindAt (p ++ q) 0 := by
  cases p with
  | nil => exact absurd (List.suffix_nil.1 hs) hne
  | cons t p => rfl

/-- A look at the head is the same if there is a head in front of `q`. -/
theorem peek {f f' : Token → TokenReader β} (hf : Alike q q' (f (headOf ts)) (f' (headOf ts)) ts) :
    Alike q q' (peek >>= f) (peek >>= f') ts := by
  refine look (g := headOf) (fun _ => rfl) (fun p p' b hp hne hs _ => ?_) hf
  cases p with
  | nil => exact absurd (List.suffix_nil.1 hs) hne
  | cons t p => rw [hp]; rfl

/-- A look at the kind of the head is, too. -/
theorem peekKind {f f' : Token.Kind → TokenReader β} (hf : Alike q q' (f (kindAt ts 0)) (f' (kindAt ts 0)) ts) :
    Alike q q' (peekKind 0 >>= f) (peekKind 0 >>= f') ts :=
  look (g := (kindAt · 0)) (fun _ => rfl) (fun _ _ _ hp hne hs _ => hp ▸ kindAt_zero hne hs) hf

/-- So is a look for one kind. -/
theorem at? {f f' : Bool → TokenReader β} (hf : Alike q q' (f (kindAt ts 0 = k)) (f' (kindAt ts 0 = k)) ts) :
    Alike q q' (at? k >>= f) (at? k >>= f') ts :=
  look (g := (decide <| kindAt · 0 = k)) (fun _ => rfl)
    (fun _ _ _ hp hne hs _ => by rw [hp]; exact congrArg (decide <| · = k) (kindAt_zero hne hs)) hf

/-- A choice that is made before. -/
theorem ite {c : Prop} [Decidable c] {r₁ r₁' r₂ r₂' : TokenReader α} (h₁ : c → Alike q q' r₁ r₁' ts)
    (h₂ : ¬ c → Alike q q' r₂ r₂' ts) :
    Alike q q' (if c then r₁ else r₂) (if c then r₁' else r₂') ts := by
  by_cases hc : c
  · rw [if_pos hc, if_pos hc]
    exact h₁ hc
  · rw [if_neg hc, if_neg hc]
    exact h₂ hc

section Tokens

variable (hq : q ≠ []) (hle : q.length ≤ q'.length)

include hq hle

/-- What is behind the head, when the head is in front of `q`. -/
theorem behind_append {t : Token} {p : List Token} :
    behind (t :: (p ++ q)) = p ++ q ∧ behind (t :: (p ++ q')) = p ++ q' := by
  have hq' : q' ≠ [] := by
    rintro rfl
    exact hq (List.eq_nil_of_length_eq_zero (by simpa using hle))
  have hbehind {us : List Token} (h : us ≠ []) : behind (t :: us) = us := by
    cases us with
    | nil => exact absurd rfl h
    | cons u us => rfl
  exact ⟨hbehind (by simp [hq]), hbehind (by simp [hq'])⟩

/-- Taking a token is the same, if the token stands in front of `q`. -/
theorem advance : Alike q q' advance advance ts := by
  refine ⟨fun h => ?_, fun h => h, fun {p p' a} hp hne h => .inl ?_⟩
  · obtain ⟨-, rfl⟩ := Prod.mk.inj (Except.ok.inj h)
    exact behind_suffix
  · obtain ⟨rfl, hrest⟩ := Prod.mk.inj (Except.ok.inj h)
    subst hp
    cases p with
    | nil =>
      exact absurd (hrest ▸ behind_suffix) (not_append_suffix hne)
    | cons t p =>
      obtain ⟨hbehind, hbehind'⟩ := behind_append hq hle (t := t) (p := p)
      obtain rfl : p = p' := List.append_cancel_right (hbehind.symm.trans hrest)
      show Except.ok (t, behind (t :: (p ++ q'))) = Except.ok (t, p ++ q')
      rw [hbehind']

theorem expect : Alike q q' (expect k) (expect k) ts :=
  peek (ite (fun _ => advance hq hle) fun _ => fail)

theorem accept : Alike q q' (accept k) (accept k) ts :=
  at? (ite (fun _ => (advance hq hle).bind fun _ _ _ => .pure) fun _ => .pure)

theorem expectTerminator : Alike q q' expectTerminator expectTerminator ts :=
  at? (ite (fun _ => .pure) fun _ => (expect hq hle).bind fun _ _ _ => .pure)

end Tokens

theorem skipSemicolons : Alike q q' skipSemicolons skipSemicolons ts := by
  refine ⟨fun h => ?_, fun h => h, fun {p p' a} hp hne h => .inl ?_⟩
  · obtain ⟨-, rfl⟩ := Prod.mk.inj (Except.ok.inj h)
    exact List.dropWhile_suffix _
  · obtain ⟨-, hrest⟩ := Prod.mk.inj (Except.ok.inj h)
    rw [hp, List.dropWhile_append] at hrest
    by_cases hall : (p.dropWhile (·.kind = .mark .semicolon)).isEmpty
    · rw [if_pos hall] at hrest
      exact absurd (hrest ▸ List.dropWhile_suffix _) (not_append_suffix hne)
    · rw [if_neg hall] at hrest
      obtain rfl := List.append_cancel_right hrest
      show Except.ok ((), (p ++ q').dropWhile _) = _
      rw [List.dropWhile_append, if_neg hall]

/-! ### Brackets -/

/-- A group that is closed in front of `q` is closed there whatever follows. -/
theorem behindGroup_append {b : Bracket} {opener : Position} {n : Nat} {p p' : List Token} (hne : p' ≠ [])
    (h : behindGroup b opener n (p ++ q) = .ok (p' ++ q)) :
    behindGroup b opener n (p ++ q') = .ok (p' ++ q') := by
  induction p generalizing n with
  | nil => exact absurd (behindGroup_suffix h) (not_append_suffix hne)
  | cons t p ih =>
    rw [List.cons_append, behindGroup.eq_def] at h ⊢
    simp only at h ⊢
    split at h
    · cases h
    split at h
    · rw [if_neg ‹_›, if_pos ‹_›]
      exact ih h
    split at h
    · rw [if_neg ‹_›, if_neg ‹_›, if_pos ‹_›]
      cases n with
      | zero =>
        obtain rfl := List.append_cancel_right (Except.ok.inj h)
        rfl
      | succ n => exact ih h
    · rw [if_neg ‹_›, if_neg ‹_›, if_neg ‹_›]
      exact ih h

/-- Passing over a group is the same as long as the group is closed in front of `q`. -/
theorem skipGroup (hq : q ≠ []) (hle : q.length ≤ q'.length) {b : Bracket} :
    Alike q q' (skipGroup b) (skipGroup b) ts := by
  refine (expect hq hle).bind fun opener us _ => ?_
  refine ⟨fun h => behindGroup_suffix (of_map_ok h), fun h => h, fun {p p' a} hp hne h => .inl ?_⟩
  subst hp
  rw [behindGroup_append hne (of_map_ok h)]
  rfl

/-- A skip that stops in front of `q` stops there whatever follows. -/
theorem untilStop_append {stops : Token.Kind → Bool} {n : Nat} {p p' : List Token} (hne : p' ≠ [])
    (h : untilStop stops n (p ++ q) = p' ++ q) : untilStop stops n (p ++ q') = p' ++ q' := by
  induction p generalizing n with
  | nil => exact absurd (h ▸ untilStop_suffix) (not_append_suffix hne)
  | cons t p ih =>
    have hstay (h : t :: (p ++ q) = p' ++ q) : t :: (p ++ q') = p' ++ q' := by
      obtain rfl : t :: p = p' := List.append_cancel_right h
      rfl
    rw [List.cons_append, untilStop.eq_def] at h ⊢
    simp only at h ⊢
    split at h
    · rw [if_pos ‹_›]
      exact hstay h
    split at h
    · rw [if_neg ‹_›, if_pos ‹_›]
      exact hstay h
    rw [if_neg ‹_›, if_neg ‹_›]
    cases hk : t.kind with
    | opening b =>
      rw [hk] at h
      exact ih h
    | closing b =>
      rw [hk] at h
      cases n with
      | zero => exact hstay h
      | succ n => exact ih h
    | _ =>
      rw [hk] at h
      exact ih h

/-- Skipping is the same, if the stop is in front of `q`. -/
theorem skipUntil {stops : Token.Kind → Bool} : Alike q q' (skipUntil stops) (skipUntil stops) ts := by
  refine ⟨fun h => ?_, fun h => h, fun {p p' a} hp hne h => .inl ?_⟩
  · obtain ⟨-, rfl⟩ := Prod.mk.inj (Except.ok.inj h)
    exact untilStop_suffix
  · obtain ⟨-, hrest⟩ := Prod.mk.inj (Except.ok.inj h)
    subst hp
    show Except.ok ((), untilStop stops 0 (p ++ q')) = _
    rw [untilStop_append hne hrest]

/-! ### Loops -/

/-- **A loop**, with as many rounds at least. -/
theorem repeatFor {goesOn : Token.Kind → Bool} {n n' : Nat} (hround : ∀ us, us <:+ ts → Alike q q' r r' us)
    (hn : n ≤ n') :
    Alike q q' (repeatFor goesOn r n) (repeatFor goesOn r' n') ts := by
  induction n generalizing n' ts with
  | zero =>
    by_cases hgo : goesOn (kindAt ts 0)
    · refine of_error fun a rest h => ?_
      have hstall : TokenReader.repeatFor goesOn r 0 ts = TokenReader.stall ts := by
        rw [TokenReader.repeatFor, bind_apply]
        exact congrFun (if_pos hgo) ts
      rw [hstall] at h
      cases h
    · cases n' with
      | zero =>
        refine peekKind ?_
        rw [if_neg hgo]
        exact .pure
      | succ n' =>
        refine peekKind ?_
        rw [if_neg hgo, if_neg hgo]
        exact .pure
  | succ n ih =>
    obtain ⟨n', rfl⟩ : ∃ m, n' = m + 1 := ⟨n' - 1, by omega⟩
    refine peekKind (ite (fun _ => ?_) fun _ => .pure)
    have hfirst := hround ts List.suffix_rfl
    refine hfirst.bind fun a us hus => ?_
    have hmore : Alike q q' (TokenReader.repeatFor goesOn r n) (TokenReader.repeatFor goesOn r' n') us :=
      ih (fun vs hvs => hround vs (hvs.trans (hfirst.suffix hus))) (by omega)
    exact hmore.bind fun _ _ _ => .pure

/-- Loops are the same if their rounds are. -/
theorem repeatWhile (hle : q.length ≤ q'.length) {goesOn : Token.Kind → Bool}
    (hround : ∀ us, us <:+ ts → Alike q q' r r' us) :
    Alike q q' (repeatWhile goesOn r) (repeatWhile goesOn r') ts := by
  have hloop {n : Nat} (hn : ts.length ≤ n) :
      Alike q q' (TokenReader.repeatFor goesOn r ts.length) (TokenReader.repeatFor goesOn r' n) ts :=
        repeatFor hround hn
  refine ⟨(hloop le_rfl).suffix, (hloop le_rfl).same, fun {p p' a} hp hne h => ?_⟩
  have hlen : ts.length ≤ (p ++ q').length := by
    rw [hp, List.length_append, List.length_append]
    omega
  exact (hloop hlen).agrees hp hne h

variable (hq : q ≠ []) (hle : q.length ≤ q'.length)

include hq hle

/-- A round of a group is the same if its entry is. -/
theorem entryRound {b : Bracket} (h : Alike q q' r r' ts) : Alike q q' (entryRound b r) (entryRound b r') ts := by
  refine h.bind fun a us _ => at? ?_
  split
  · exact (expect hq hle).bind fun _ _ _ => skipSemicolons.bind fun _ _ _ => .pure
  · exact skipSemicolons.bind fun _ _ _ => .pure

/-- Groups are the same if their entries are. -/
theorem group (h : ∀ us, us <:+ ts → Alike q q' r r' us) : Alike q q' (group r) (group r') ts := by
  have haccept : Alike q q' (TokenReader.accept (.opening .paren)) (TokenReader.accept (.opening .paren)) ts :=
    accept hq hle
  refine haccept.bind fun c us hus => ite (fun _ => ?_) fun _ => ?_
  · refine skipSemicolons.bind fun _ vs hvs => ?_
    have hsemicolons : Alike q q' TokenReader.skipSemicolons TokenReader.skipSemicolons us := skipSemicolons
    have hvs' : vs <:+ ts := (hsemicolons.suffix hvs).trans (haccept.suffix hus)
    have hentries : Alike q q' (entries .paren r) (entries .paren r') vs := by
      rw [entries_eq, entries_eq]
      exact repeatWhile hle fun ws hws => entryRound hq hle (h ws (hws.trans hvs'))
    refine hentries.bind fun _ _ _ => ?_
    exact (expect hq hle).bind fun _ _ _ => .pure
  · exact (h us (haccept.suffix hus)).bind fun _ _ _ => .pure

theorem nameList : Alike q q' nameList nameList ts := by
  have hround (us : List Token) : Alike q q' nameRound nameRound us :=
    (advance hq hle).bind fun _ _ _ => (expect hq hle).bind fun _ _ _ => .pure
  rw [nameList_eq]
  refine (expect hq hle).bind fun first us _ => ?_
  exact (repeatWhile hle fun vs _ => hround vs).bind fun _ _ _ => .pure

end Alike

end TokenReader

end GoFixtures.Go
