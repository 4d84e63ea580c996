import GoFixtures.Go.TokenReader
import GoFixtures.Proofs.Go.Layout
import Mathlib.Data.List.Forall2

/-!
# What readers take

`TokenReader.Takes r signs follow Q`: where tokens with the given signs stand before a token of a kind in
`follow`, the reader takes just these tokens and returns something that `Q` holds of. Places of tokens never
matter for that.

* `Takes.bind`: readers one after the other.
* `takes_skipGroup`: brackets, if what is between them is balanced in their own kind (`depth?`).
* `Takes.repeatWhile`: loops, round by round.
-/

namespace GoFixtures.Go

/-- The signs of tokens. -/
abbrev Signs := List (Token.Kind × String)

namespace TokenReader

variable {α β γ : Type} {r : TokenReader α} {f : α → TokenReader β} {signs signs' : Signs} {k k' : Token.Kind}
    {v : String}

/-- One step after the other, the second one where the first one stops. -/
theorem bind_apply (ts : List Token) : (r >>= f) ts =
    match r ts with
    | .ok (a, rest) => f a rest
    | .error e => .error e := rfl

/-- How steps are bracketed does not matter. -/
theorem bind_assoc {g : β → TokenReader γ} : r >>= f >>= g = r >>= fun a => f a >>= g := by
  funext ts
  rw [bind_apply, bind_apply, bind_apply]
  cases r ts <;> rfl

theorem pure_apply (a : α) (ts : List Token) : (pure a : TokenReader α) ts = .ok (a, ts) := rfl

/-! ### What is left -/

section Rest

variable {ts rest : List Token} {b : Bracket} {stops : Token.Kind → Bool} {n : Nat}

/-- What is behind the head is an end of the tokens. -/
theorem behind_suffix : behind ts <:+ ts := by
  unfold behind
  split
  · exact List.suffix_cons _ _
  · exact List.suffix_rfl

/-- What is behind a group is an end of the tokens. -/
theorem behindGroup_suffix {opener : Position} (h : behindGroup b opener n ts = .ok rest) : rest <:+ ts := by
  fun_induction behindGroup b opener n ts with
  | case1 | case2 => cases h
  | case3 | case5 | case6 => rename_i ih; exact (ih h).trans (List.suffix_cons _ _)
  | case4 => exact Except.ok.inj h ▸ List.suffix_cons _ _

/-- What a skip stops at is an end of the tokens. -/
theorem untilStop_suffix : untilStop stops n ts <:+ ts := by
  fun_induction untilStop stops n ts with
  | case1 | case2 | case3 | case5 => exact List.suffix_rfl
  | case4 | case6 | case7 => rename_i ih; exact ih.trans (List.suffix_cons _ _)

end Rest

/-- Over tokens with the given signs, before a token of a kind in `follow`, the reader takes just these
tokens, and `Q` holds of what it returns. -/
def Takes (r : TokenReader α) (signs : Signs) (follow : Token.Kind → Prop) (Q : α → Prop) : Prop :=
  ∀ ts t rest, ts.map Token.sign = signs → follow t.kind → ∃ a, Q a ∧ r (ts ++ t :: rest) = .ok (a, t :: rest)

/-- The kinds that a text with the given signs begins with, before a token of a kind in `follow`. -/
def Begins (signs : Signs) (follow : Token.Kind → Prop) (k : Token.Kind) : Prop :=
  match signs with
  | [] => follow k
  | (k', _) :: _ => k = k'

/-- The first of two lists decides, unless it is empty. -/
theorem begins_append {F : Token.Kind → Prop} :
    Begins (signs ++ signs') F k ↔ Begins signs (Begins signs' F) k := by
  cases signs <;> rfl

/-- A list of parts begins like one of them, or like what follows. -/
theorem begins_flatMap {ι : Type} {items : List ι} {σ : ι → Signs} {F G : Token.Kind → Prop}
    (hb : ∀ i ∈ items, ∃ k v rest, σ i = (k, v) :: rest ∧ G k) (hF : ∀ k, F k → G k) :
    ∀ k, Begins (items.flatMap σ) F k → G k := by
  intro k h
  match items with
  | [] => exact hF k h
  | i :: items =>
    obtain ⟨k', v, rest, hi, hG⟩ := hb i List.mem_cons_self
    rw [List.flatMap_cons, hi] at h
    exact h ▸ hG

/-- The same with items on lines of their own. -/
theorem begins_lines {ι : Type} {items : List ι} {σ : ι → Signs} {F G : Token.Kind → Prop}
    (hb : ∀ i ∈ items, ∃ k v rest, σ i = (k, v) :: rest ∧ G k) (hF : ∀ k, F k → G k) :
    ∀ k, Begins (items.flatMap fun i => σ i ++ [Token.lineSign]) F k → G k := by
  refine begins_flatMap (fun i hi => ?_) hF
  obtain ⟨k, v, rest, hi, hk⟩ := hb i hi
  exact ⟨k, v, rest ++ [Token.lineSign], by rw [hi]; rfl, hk⟩

namespace Takes

variable {F G : Token.Kind → Prop} {P : α → Prop} {Q : β → Prop}

/-- More may follow, and less may be said of the result. -/
theorem mono {P' : α → Prop} (h : Takes r signs G P) (hF : ∀ k, F k → G k) (hP : ∀ a, P a → P' a) :
    Takes r signs F P' := by
  intro ts t rest hts ht
  obtain ⟨a, ha, hr⟩ := h ts t rest hts (hF _ ht)
  exact ⟨a, hP a ha, hr⟩

/-- Less may be said of the result. -/
theorem imp {P' : α → Prop} (h : Takes r signs F P) (hP : ∀ a, P a → P' a) : Takes r signs F P' :=
  h.mono (fun _ hk => hk) hP

protected theorem pure {a : α} (h : P a) : Takes (pure a) [] F P := by
  intro ts t rest hts _
  obtain rfl := List.map_eq_nil_iff.1 hts
  exact ⟨a, h, rfl⟩

/-- **One reader after the other.** What the second one takes has to begin with what may follow the first one. -/
protected theorem bind (h : Takes r signs G P) (hf : ∀ a, P a → Takes (f a) signs' F Q)
    (hG : ∀ k, Begins signs' F k → G k) : Takes (r >>= f) (signs ++ signs') F Q := by
  intro ts t rest hts ht
  obtain ⟨us, ws, rfl, hus, hws⟩ := List.map_eq_append_iff.1 hts
  -- the first reader stands before the first token of the second, or before `t` if that takes none
  obtain ⟨u, rest', hu, hG'⟩ : ∃ u rest', ws ++ t :: rest = u :: rest' ∧ G u.kind := by
    cases ws with
    | nil =>
      obtain rfl : [] = signs' := hws
      exact ⟨t, rest, rfl, hG _ ht⟩
    | cons w ws =>
      subst hws
      exact ⟨w, ws ++ t :: rest, rfl, hG _ rfl⟩
  obtain ⟨a, ha, hr⟩ := h us u rest' hus hG'
  obtain ⟨b, hb, hf⟩ := hf a ha ws t rest hws ht
  refine ⟨b, hb, ?_⟩
  rw [List.append_assoc, hu, bind_apply, hr, ← hf, ← hu]

/-- One reader after another one that anything may follow. -/
theorem andThen (h : Takes r signs (fun _ => True) P) (hf : ∀ a, P a → Takes (f a) signs' F Q) :
    Takes (r >>= f) (signs ++ signs') F Q :=
  h.bind hf fun _ _ => trivial

/-- A reader that takes nothing looks at what the next one takes. -/
protected theorem look (h : Takes r [] G P) (hf : ∀ a, P a → Takes (f a) signs F Q)
    (hG : ∀ k, Begins signs F k → G k) : Takes (r >>= f) signs F Q :=
  h.bind hf hG

/-- A reader that looks further ahead. -/
theorem ahead {a : α}
    (hr : ∀ ts t rest, ts.map Token.sign = signs → F t.kind → r (ts ++ t :: rest) = .ok (a, ts ++ t :: rest))
    (hf : Takes (f a) signs F Q) : Takes (r >>= f) signs F Q := by
  intro ts t rest hts ht
  rw [bind_apply, hr ts t rest hts ht]
  exact hf ts t rest hts ht

/-- What is made of the thing read. -/
protected theorem map {g : α → β} (h : Takes r signs F P) (hg : ∀ a, P a → Q (g a)) :
    Takes (r >>= fun a => pure (g a)) signs F Q := by
  intro ts t rest hts ht
  obtain ⟨a, ha, hr⟩ := h ts t rest hts ht
  exact ⟨g a, hg a ha, by rw [bind_apply, hr]; rfl⟩

/-! ### Single tokens -/

/-- A look at the head takes nothing. -/
theorem peek : Takes peek [] F (F ·.kind) := by
  intro ts t rest hts ht
  obtain rfl := List.map_eq_nil_iff.1 hts
  exact ⟨t, ht, rfl⟩

theorem peekKind : Takes (peekKind 0) [] F F := by
  intro ts t rest hts ht
  obtain rfl := List.map_eq_nil_iff.1 hts
  exact ⟨t.kind, ht, rfl⟩

/-- A look for a kind that is there. -/
theorem at?_true : Takes (at? k) [] (· = k) (· = true) := by
  intro ts t rest hts ht
  obtain rfl := List.map_eq_nil_iff.1 hts
  exact ⟨true, rfl, by simp [at?, kindAt, ht]⟩

/-- A look for a kind that is not there. -/
theorem at?_false : Takes (at? k) [] (· ≠ k) (· = false) := by
  intro ts t rest hts ht
  obtain rfl := List.map_eq_nil_iff.1 hts
  exact ⟨false, rfl, by simp [at?, kindAt, ht]⟩

/-- The next token is taken whatever it is. -/
theorem advance : Takes advance [(k, v)] F (·.sign = (k, v)) := by
  intro ts t rest hts _
  obtain ⟨u, rfl, hu⟩ := List.map_eq_singleton_iff.1 hts
  exact ⟨u, hu, rfl⟩

/-- A token that is asked for is taken if it is there. -/
theorem expect : Takes (expect k) [(k, v)] F (·.sign = (k, v)) := by
  intro ts t rest hts _
  obtain ⟨u, rfl, hu⟩ := List.map_eq_singleton_iff.1 hts
  have hk : u.kind = k := congrArg Prod.fst hu
  refine ⟨u, hu, ?_⟩
  simp [TokenReader.expect, bind_apply, TokenReader.peek, headOf, hk, TokenReader.advance, behind]

/-- A token that may be there is taken if it is. -/
theorem accept_true : Takes (accept k) [(k, v)] F (· = true) := by
  intro ts t rest hts _
  obtain ⟨u, rfl, hu⟩ := List.map_eq_singleton_iff.1 hts
  have hk : u.kind = k := congrArg Prod.fst hu
  refine ⟨true, rfl, ?_⟩
  simp [accept, bind_apply, pure_apply, at?, kindAt, hk, TokenReader.advance, behind]

/-- A token that may be there is not missed. -/
theorem accept_false : Takes (accept k) [] (· ≠ k) (· = false) := by
  intro ts t rest hts ht
  obtain rfl := List.map_eq_nil_iff.1 hts
  exact ⟨false, rfl, by simp [accept, bind_apply, pure_apply, at?, kindAt, ht]⟩

/-- There are no semicolons to be passed over in front of anything else. -/
theorem skipSemicolons : Takes skipSemicolons [] (· ≠ .mark .semicolon) (fun _ => True) := by
  intro ts t rest hts ht
  obtain rfl := List.map_eq_nil_iff.1 hts
  exact ⟨(), trivial, by simp [TokenReader.skipSemicolons, ht]⟩

/-- The end of a declaration takes one semicolon. -/
theorem expectTerminator : Takes expectTerminator [(.mark .semicolon, v)] F (fun _ => True) := by
  intro ts t rest hts _
  obtain ⟨u, rfl, hu⟩ := List.map_eq_singleton_iff.1 hts
  have hk : u.kind = .mark .semicolon := congrArg Prod.fst hu
  refine ⟨(), trivial, ?_⟩
  simp [TokenReader.expectTerminator, bind_apply, pure_apply, at?, kindAt, hk, TokenReader.expect,
    TokenReader.peek, headOf,
    TokenReader.advance, behind]

end Takes

/-- The kind of a token further on, by its sign. -/
theorem kindAt_append {ts more : List Token} {i : Nat} (h : ts.map Token.sign = signs)
    (hi : signs[i]? = some (k, v)) :
    kindAt (ts ++ more) i = k := by
  rw [← h, List.getElem?_map] at hi
  obtain ⟨t, ht, hsign⟩ := Option.map_eq_some_iff.1 hi
  have hlt : i < ts.length := (List.getElem?_eq_some_iff.1 ht).1
  rw [kindAt, List.getElem?_append_left hlt, ht]
  exact congrArg Prod.fst hsign

/-! ### Brackets -/

/-- How many groups of one kind of brackets are open behind tokens of the given kinds, if `n` are open before
them. -/
def depth? (b : Bracket) : Nat → List Token.Kind → Option Nat
  | n, [] => some n
  | n, k :: ks =>
    if k = .endOfFile then none
    else if k = .opening b then depth? b (n + 1) ks
    else if k = .closing b then
      match n with
      | 0 => none
      | n + 1 => depth? b n ks
    else depth? b n ks

variable {b : Bracket} {n m : Nat} {ks ls : List Token.Kind}

/-- How deep the brackets of two lists are, one behind the other. -/
theorem depth?_append : depth? b n (ks ++ ls) = (depth? b n ks).bind fun m => depth? b m ls := by
  fun_induction depth? b n ks with
  | case1 => rfl
  | case2 n ks => simp [depth?]
  | case3 n ks hk ih => simp [depth?, ih]
  | case4 ks hk ho => simp [depth?]
  | case5 ks n hk ho ih => simp [depth?, ih]
  | case6 n k ks hk ho hc ih => simp [depth?, hk, ho, hc, ih]

/-- Tokens that do not close the group are passed over. -/
theorem behindGroup_append {ts more : List Token} {opener : Position}
    (h : depth? b n (ts.map Token.kind) = some m) :
    behindGroup b opener n (ts ++ more) = behindGroup b opener m more := by
  induction ts generalizing n with
  | nil => rw [Option.some.inj h]; rfl
  | cons t ts ih =>
    rw [List.map_cons, depth?.eq_def] at h
    rw [List.cons_append, behindGroup.eq_def]
    by_cases hend : t.kind = .endOfFile
    · simp [hend] at h
    by_cases hopen : t.kind = .opening b
    · simp only [hopen] at h ⊢
      exact ih (by simpa using h)
    by_cases hclose : t.kind = .closing b
    · cases n with
      | zero => simp [hclose] at h
      | succ n =>
        simp only [hclose] at h ⊢
        exact ih (by simpa using h)
    · simp only [hend, hopen, hclose, if_false] at h ⊢
      exact ih h

/-- The kinds of signs. -/
def kinds (signs : Signs) : List Token.Kind := signs.map Prod.fst

theorem map_kind_of_sign {ts : List Token} (h : ts.map Token.sign = signs) : ts.map Token.kind = kinds signs := by
  rw [kinds, ← h, List.map_map]
  rfl

/-- A group is passed over up to the bracket that closes it. -/
theorem skipGroup_apply {ts rest : List Token} {opener : Token}
    (h : expect (.opening b) ts = .ok (opener, rest)) :
    skipGroup b ts = (behindGroup b opener.position 0 rest).map fun rest => ((), rest) := by
  change TokenReader.bind (expect (.opening b)) _ ts = _
  simp only [TokenReader.bind, h]

end TokenReader

/-- Signs between brackets. -/
def Signs.inside (b : Bracket) (signs : Signs) : Signs :=
  (.opening b, b.opening) :: signs ++ [(.closing b, b.closing)]

theorem Signs.length_inside (b : Bracket) (signs : Signs) : (signs.inside b).length = signs.length + 2 := by
  rw [inside, List.length_append, List.length_cons, List.length_singleton]

/-- Signs that are balanced in one kind of brackets. -/
def Signs.Balanced (b : Bracket) (signs : Signs) : Prop :=
  TokenReader.depth? b 0 (TokenReader.kinds signs) = some 0

/-- Balanced signs do not begin with a bracket that closes. -/
theorem Signs.Balanced.ne_closing {b : Bracket} {k : Token.Kind} {v : String} {signs : Signs}
    (h : Signs.Balanced b ((k, v) :: signs)) : k ≠ .closing b := by
  rintro rfl
  simp [Balanced, TokenReader.kinds, TokenReader.depth?] at h

namespace TokenReader

variable {α β : Type} {r : TokenReader α} {signs : Signs} {b : Bracket}

/-- **A group.** It is skipped up to the bracket that closes it, whatever is between the brackets, as long as
their own kind is balanced there. -/
theorem takes_skipGroup {F : Token.Kind → Prop} (h : signs.Balanced b) :
    Takes (skipGroup b) (signs.inside b) F (fun _ => True) := by
  intro ts t rest hts _
  obtain ⟨us, ws, rfl, hus, hws⟩ := List.map_eq_append_iff.1 hts
  obtain ⟨opener, inner, rfl, hopener, hinner⟩ := List.map_eq_cons_iff.1 hus
  obtain ⟨closer, rfl, hcloser⟩ := List.map_eq_singleton_iff.1 hws
  have ho : opener.kind = .opening b := congrArg Prod.fst hopener
  have hc : closer.kind = .closing b := congrArg Prod.fst hcloser
  obtain ⟨next, more, hnext⟩ : ∃ next more, inner ++ closer :: t :: rest = next :: more :=
    List.exists_cons_of_ne_nil (by simp)
  have hexpect : TokenReader.expect (.opening b) (opener :: next :: more) = .ok (opener, next :: more) := by
    simp [TokenReader.expect, bind_apply, TokenReader.peek, headOf, ho, TokenReader.advance, behind]
  refine ⟨(), trivial, ?_⟩
  rw [List.append_assoc, List.singleton_append, List.cons_append, hnext, skipGroup_apply hexpect, ← hnext,
    behindGroup_append (by rw [map_kind_of_sign hinner]; exact h)]
  simp [behindGroup, hc, Except.map]

/-! ### Loops -/

/-- One round of `nameList`. -/
def nameRound : TokenReader String := do
  let _ ← advance
  let t ← expect .identifier
  return t.value

theorem nameList_eq : nameList = (do
    let first ← expect .identifier
    let more ← repeatWhile (· = .mark .comma) nameRound
    return first.value :: more) := rfl

section Loop

variable {goesOn : Token.Kind → Bool} {F G : Token.Kind → Prop} {ι : Type} {σ : ι → Signs} {Q : ι → α → Prop}
    {items : List ι}

/-- The induction on the rounds that are left: each one takes the signs of one item. -/
theorem takes_repeatFor {rounds : Nat} (hr : ∀ i ∈ items, Takes r (σ i) G (Q i))
    (hb : ∀ i ∈ items, ∃ k v rest, σ i = (k, v) :: rest ∧ goesOn k ∧ G k) (hF : ∀ k, F k → goesOn k = false ∧ G k)
    (hn : items.length ≤ rounds) :
    Takes (repeatFor goesOn r rounds) (items.flatMap σ) F (List.Forall₂ Q items) := by
  induction items generalizing rounds with
  | nil =>
    intro ts t rest hts ht
    obtain rfl := List.map_eq_nil_iff.1 hts
    refine ⟨[], .nil, ?_⟩
    cases rounds <;> simp [repeatFor, bind_apply, pure_apply, peekKind, kindAt, (hF _ ht).1]
  | cons i items ih =>
    obtain ⟨rounds, rfl⟩ : ∃ n, rounds = n + 1 := ⟨rounds - 1, by simp only [List.length_cons] at hn; omega⟩
    obtain ⟨k, v, rest, hi, hk, -⟩ := hb i List.mem_cons_self
    rw [List.forall_mem_cons] at hr hb
    rw [repeatFor, List.flatMap_cons]
    -- behind a round comes the next one, or what follows the loop
    have hnext : ∀ k, Begins (items.flatMap σ) F k → G k := by
      refine begins_flatMap (fun i hi => ?_) fun k hk => (hF k hk).2
      obtain ⟨k, v, rest, hi, -, hG⟩ := hb.2 i hi
      exact ⟨k, v, rest, hi, hG⟩
    refine Takes.look (Takes.peekKind (F := (· = k))) ?_ ?_
    · rintro _ rfl
      rw [if_pos hk]
      refine Takes.bind hr.1 (fun a ha => ?_) hnext
      exact (ih hr.2 hb.2 (by simpa using hn)).map fun as has => .cons ha has
    · rw [hi]
      exact fun _ h => h

/-- **A loop.** It takes the tokens of its rounds, if it goes on at the beginning of each round and not behind
the last. -/
theorem Takes.repeatWhile (hr : ∀ i ∈ items, Takes r (σ i) G (Q i))
    (hb : ∀ i ∈ items, ∃ k v rest, σ i = (k, v) :: rest ∧ goesOn k ∧ G k)
    (hF : ∀ k, F k → goesOn k = false ∧ G k) :
    Takes (repeatWhile goesOn r) (items.flatMap σ) F (List.Forall₂ Q items) := by
  intro ts t rest hts ht
  -- each round takes a token at least
  have hlen : items.length ≤ (items.flatMap σ).length := by
    clear hts hr
    induction items with
    | nil => simp
    | cons i items ih =>
      rw [List.forall_mem_cons] at hb
      obtain ⟨⟨k, v, rest, hi, -⟩, hb⟩ := hb
      have := ih hb
      simp only [List.length_cons, List.flatMap_cons, List.length_append, hi]
      omega
  have hrounds : items.length ≤ (ts ++ t :: rest).length := by
    rw [← hts, List.length_map] at hlen
    rw [List.length_append]
    omega
  exact takes_repeatFor hr hb hF hrounds ts t rest hts ht

/-- **Entries on lines of their own**, up to the bracket that closes the group. -/
theorem Takes.entries {b : Bracket} {entry : TokenReader α}
    (hr : ∀ i ∈ items, Takes entry (σ i) (· = .mark .semicolon) (Q i))
    (hb : ∀ i ∈ items, ∃ k v rest, σ i = (k, v) :: rest ∧ k ≠ .closing b ∧ k ≠ .endOfFile ∧
    k ≠ .mark .semicolon) :
    Takes (entries b entry) (items.flatMap fun i => σ i ++ [Token.lineSign]) (· = .closing b)
      (List.Forall₂ Q items) := by
  refine Takes.repeatWhile (G := (· ≠ .mark .semicolon)) (fun i hi => ?_) (fun i hi => ?_) (fun k hk =>
    by simp [hk])
  · refine Takes.bind (hr i hi) (fun a ha => ?_) fun _ hk => hk
    refine Takes.look (Takes.mono Takes.at?_false (F := (· = .mark .semicolon)) (by simp +contextual)
      fun _ h => h)
      (fun c hc => ?_) fun _ hk => hk
    simp only [hc, Bool.not_false, if_true]
    show Takes _ ([Token.lineSign] ++ []) _ _
    refine Takes.bind (G := (· ≠ .mark .semicolon)) Takes.expect (fun _ _ => ?_) fun _ hk => hk
    exact Takes.skipSemicolons.map fun _ _ => ha
  · obtain ⟨k, v, rest, hi, hclose, hend, hsemicolon⟩ := hb i hi
    exact ⟨k, v, rest ++ [Token.lineSign], by rw [hi]; rfl, by simp [hclose, hend], hsemicolon⟩

/-- **A group in parentheses**, with its entries on lines of their own. -/
theorem takes_block {spec : TokenReader α} (hr : ∀ i ∈ items, Takes spec (σ i) (· = .mark .semicolon) (Q i))
    (hb : ∀ i ∈ items, ∃ k v rest, σ i = (k, v) :: rest ∧ k ≠ .closing .paren ∧ k ≠ .endOfFile ∧
    k ≠ .mark .semicolon) :
    Takes (group spec) (Signs.inside .paren (items.flatMap fun i => σ i ++ [Token.lineSign])) F
      (List.Forall₂ Q items) := by
  have hfirst : ∀ k,
    Begins ((items.flatMap fun i => σ i ++ [Token.lineSign]) ++ [(.closing .paren, Bracket.paren.closing)]) F k →
      k ≠ .mark .semicolon := by
    intro k
    rw [begins_append]
    refine begins_lines (G := (· ≠ .mark .semicolon)) (fun i hi => ?_) ?_ k
    · obtain ⟨k, v, rest, hi, -, -, hs⟩ := hb i hi
      exact ⟨k, v, rest, hi, hs⟩
    · rintro _ rfl
      decide
  show Takes _ ([(.opening .paren, Bracket.paren.opening)] ++
    (_ ++ [(.closing .paren, Bracket.paren.closing)])) _ _
  refine Takes.andThen Takes.accept_true (fun paren hparen => ?_)
  rw [hparen, if_pos rfl]
  refine Takes.look (G := (· ≠ .mark .semicolon)) Takes.skipSemicolons (fun _ _ => ?_) hfirst
  refine Takes.bind (Takes.entries hr hb) (fun a ha => ?_) fun _ hk => hk
  exact Takes.expect.map fun _ _ => ha

/-- A group of one. -/
theorem takes_single {spec : TokenReader α} {P : α → Prop} (h : Takes spec signs F P)
    (hs : ∀ k, Begins signs F k → k ≠ .opening .paren) :
    Takes (group spec) signs F (fun as => ∃ a, as = [a] ∧ P a) := by
  refine Takes.look Takes.accept_false (fun b hb => ?_) hs
  simp only [hb, Bool.false_eq_true, if_false]
  exact h.map fun a ha => ⟨a, rfl, ha⟩

end Loop

end TokenReader

end GoFixtures.Go
