import GoFixtures.Proofs.Go.Following

/-!
# Groups of brackets

A group that is taken is counted in brackets of its own kind, whatever else stands between them. The look for
the bracket that closes a group counts all kinds of brackets: tokens in which they balance make no difference
to it, and neither does what follows the bracket that it finds.

* `IsGroup`, `skipGroup_append`: a group that is taken.
* `level?`: the number of groups that are open behind tokens.
* `closingOffset?_passes`, `closingOffset?_stops`: the look, over the tokens in front and behind.
* `TypeExpr.not_misled_of_closes`, `TypeExpr.not_misled_of_neutral`: looks that are not misled.
-/

namespace GoFixtures.Go

open TokenReader

/-- Brackets of one kind with any tokens between them in which this kind is balanced. -/
def IsGroup (b : Bracket) (ts : List Token) : Prop :=
  ∃ opener inner closer, ts = opener :: (inner ++ [closer]) ∧ opener.kind = .opening b ∧
    depth? b 0 (inner.map Token.kind) = some 0 ∧
    closer.kind = .closing b

section Taken

variable {b : Bracket} {g rest : List Token}

theorem skipGroup_append (h : IsGroup b g) : skipGroup b (g ++ rest) = .ok ((), rest) := by
  obtain ⟨opener, inner, closer, rfl, hopener, hinner, hcloser⟩ := h
  obtain ⟨next, more, hnext⟩ : ∃ next more, inner ++ closer :: rest = next :: more :=
    List.exists_cons_of_ne_nil (by simp)
  have hexpect : expect (.opening b) (opener :: next :: more) = .ok (opener, next :: more) := by
    simp [expect, bind_apply, peek, headOf, hopener, advance, behind]
  have hclose : behindGroup b opener.position 0 (closer :: rest) = .ok rest := by
    simp [behindGroup, hcloser]
  rw [List.cons_append, List.append_assoc, List.singleton_append, hnext, skipGroup_apply hexpect, ← hnext,
    behindGroup_append hinner,
    hclose]
  rfl

theorem kindAt_group (h : IsGroup b g) : kindAt (g ++ rest) 0 = .opening b := by
  obtain ⟨opener, inner, closer, rfl, hopener, -⟩ := h
  exact hopener

end Taken

/-! ### All kinds of brackets -/

/-- How many groups are open behind a token, all kinds of brackets counted, if `n` are open before it. -/
def levelBehind? (n : Nat) : Token.Kind → Option Nat
  | .endOfFile => none
  | .opening _ => some (n + 1)
  | .closing _ => if n = 0 then none else some (n - 1)
  | _ => some n

/-- How many groups are open behind tokens of the given kinds, if `n` are open before them. -/
def level? : Nat → List Token.Kind → Option Nat
  | n, [] => some n
  | n, k :: ks => (levelBehind? n k).bind (level? · ks)

variable {t : Token} {ts us : List Token} {k : Token.Kind} {ks : List Token.Kind} {n m i : Nat}

theorem levelBehind?_closing (b : Bracket) (n : Nat) : levelBehind? (n + 1) (.closing b) = some n := by
  rw [levelBehind?, if_neg (by omega), Nat.add_sub_cancel]

theorem levelBehind?_add (h : levelBehind? n k = some m) (j : Nat) : levelBehind? (n + j) k = some (m + j) := by
  cases k with
  | endOfFile => cases h
  | opening b =>
    obtain rfl := Option.some.inj h
    rw [levelBehind?, show n + j + 1 = n + 1 + j by omega]
  | closing b =>
    cases n with
    | zero => cases h
    | succ n =>
      rw [levelBehind?_closing] at h
      obtain rfl := Option.some.inj h
      rw [show n + 1 + j = n + j + 1 by omega, levelBehind?_closing]
  | _ =>
    obtain rfl := Option.some.inj h
    rfl

/-- With more groups open before the tokens, as many more are open behind them. -/
theorem level?_add (h : level? n ks = some m) (j : Nat) : level? (n + j) ks = some (m + j) := by
  induction ks generalizing n with
  | nil => rw [← Option.some.inj h]; rfl
  | cons k ks ih =>
    obtain ⟨l, hl, h⟩ := Option.bind_eq_some_iff.1 h
    exact Option.bind_eq_some_iff.2 ⟨l + j, levelBehind?_add hl j, ih h⟩

theorem closingOffset?_opening {b : Bracket} (h : t.kind = .opening b) (us : List Token) :
    closingOffset? 0 (t :: us) = (closingOffset? 1 us).map (· + 1) := by
  rw [closingOffset?, h]

theorem closingOffset?_cons_some (h : levelBehind? n t.kind = some m) :
    closingOffset? (n + 1) (t :: ts) = (closingOffset? (m + 1) ts).map (· + 1) := by
  rw [closingOffset?]
  cases hk : t.kind with
  | endOfFile => rw [hk] at h; cases h
  | closing b =>
    rw [hk] at h
    cases n with
    | zero => cases h
    | succ n =>
      rw [levelBehind?_closing] at h
      obtain rfl := Option.some.inj h
      simp only
      rw [if_neg (by omega), Nat.add_sub_cancel]
  | _ =>
    rw [hk] at h
    obtain rfl := Option.some.inj h
    rfl

/-- The token that closes the group, and the end of the file, end the look. -/
theorem closingOffset?_cons_none (h : levelBehind? n t.kind = none) :
    closingOffset? (n + 1) (t :: ts) = if t.kind = .endOfFile then none else some 0 := by
  rw [closingOffset?]
  cases hk : t.kind with
  | endOfFile => rfl
  | closing b =>
    rw [hk] at h
    cases n with
    | zero => rfl
    | succ n => rw [levelBehind?_closing] at h; cases h
  | _ => rw [hk] at h; cases h

/-- A look that does not find the bracket in `ts` goes on behind it. -/
theorem closingOffset?_passes (h : level? n (ts.map Token.kind) = some m) :
    closingOffset? (n + 1) (ts ++ us) = (closingOffset? (m + 1) us).map (· + ts.length) := by
  induction ts generalizing n with
  | nil =>
    rw [← Option.some.inj h, List.nil_append]
    cases closingOffset? (n + 1) us <;> rfl
  | cons t ts ih =>
    obtain ⟨l, hl, h⟩ := Option.bind_eq_some_iff.1 h
    rw [List.cons_append, closingOffset?_cons_some hl, ih h, Option.map_map]
    rfl

/-- A look that comes to its end in `ts` is not changed by what follows. -/
theorem closingOffset?_stops (h : level? n (ts.map Token.kind) = none) :
    closingOffset? (n + 1) (ts ++ us) = closingOffset? (n + 1) ts := by
  induction ts generalizing n with
  | nil => cases h
  | cons t ts ih =>
    cases hl : levelBehind? n t.kind with
    | none => rw [List.cons_append, closingOffset?_cons_none hl, closingOffset?_cons_none hl]
    | some l =>
      have h : level? l (ts.map Token.kind) = none := by
        rw [List.map_cons, level?, hl] at h
        exact h
      rw [List.cons_append, closingOffset?_cons_some hl, closingOffset?_cons_some hl, ih h]

/-- What the look finds is a closing bracket. -/
theorem exists_closing (h : closingOffset? (n + 1) ts = some i) :
    ∃ b, ts[i]?.map Token.kind = some (.closing b) := by
  induction ts generalizing n i with
  | nil => cases h
  | cons t ts ih =>
    cases hl : levelBehind? n t.kind with
    | none =>
      rw [closingOffset?_cons_none hl] at h
      cases hk : t.kind with
      | endOfFile => rw [if_pos hk] at h; cases h
      | closing b =>
        rw [if_neg (by simp [hk])] at h
        obtain rfl := Option.some.inj h
        exact ⟨b, congrArg some hk⟩
      | _ => rw [hk] at hl; cases hl
    | some l =>
      rw [closingOffset?_cons_some hl] at h
      obtain ⟨j, hj, rfl⟩ := Option.map_eq_some_iff.1 h
      obtain ⟨b, hb⟩ := ih hj
      exact ⟨b, hb⟩

namespace TypeExpr

variable {q q' p d : List Token}

/-- Every square bracket behind a name is closed among the tokens, all kinds of brackets counted. -/
def Closes (p : List Token) : Prop :=
  ∀ name bracket more, name :: bracket :: more <:+ p → name.kind = .identifier → bracket.kind = .opening .square →
    ∃ i, closingOffset? 0 (bracket :: more) = some i

/-- All kinds of brackets balance in the tokens. -/
def Neutral (d : List Token) : Prop := level? 0 (d.map Token.kind) = some 0

/-- The last token is no closing bracket. -/
def EndsOpen (p : List Token) : Prop := ∀ t b, p.getLast? = some t → t.kind ≠ .closing b

theorem kindAt_append_right (us q : List Token) (j : Nat) : kindAt (us ++ q) (j + us.length) = kindAt q j := by
  rw [kindAt, kindAt, List.getElem?_append_right (by omega), Nat.add_sub_cancel]

section Look

variable {bracket : Token} {more : List Token} (hb : bracket.kind = .opening .square)

include hb

/-- A look that finds its bracket does not go on behind the tokens. -/
theorem level?_of_closingOffset? (h : closingOffset? 0 (bracket :: more) = some i) :
    level? 0 (more.map Token.kind) = none := by
  cases hl : level? 0 (more.map Token.kind) with
  | none => rfl
  | some m =>
    have hpass : closingOffset? 1 (more ++ []) = (closingOffset? (m + 1) []).map (· + more.length) :=
      closingOffset?_passes hl
    rw [List.append_nil] at hpass
    rw [closingOffset?_opening hb, hpass] at h
    cases h

/-- A look that comes to its end in front of `q` sees the same behind the bracket that it finds. -/
theorem endsBehindGroup_stops (hend : EndsOpen more) (h : level? 0 (more.map Token.kind) = none)
    (q : List Token) :
    endsBehindGroup (bracket :: (more ++ q)) = endsBehindGroup (bracket :: more) := by
  unfold endsBehindGroup
  rw [closingOffset?_opening hb, closingOffset?_opening hb, closingOffset?_stops h]
  cases hi : closingOffset? (0 + 1) more with
  | none => rfl
  | some i =>
    obtain ⟨b, hclose⟩ := exists_closing hi
    have hlt : i + 1 < more.length := by
      obtain ⟨t, ht, hk⟩ := Option.map_eq_some_iff.1 hclose
      have hi := (List.getElem?_eq_some_iff.1 ht).1
      by_contra hlast
      have hlast : more.getLast? = some t := by
        rw [List.getLast?_eq_getElem?, ← ht, show more.length - 1 = i by omega]
      exact hend t b hlast hk
    have hkind : kindAt (bracket :: (more ++ q)) (i + 1 + 1) = kindAt (bracket :: more) (i + 1 + 1) := by
      rw [kindAt, kindAt, List.getElem?_cons_succ, List.getElem?_cons_succ, List.getElem?_append_left hlt]
    exact congrArg endsEmbedded hkind

/-- A look that goes on behind `more` sees the same if balanced tokens stand there. -/
theorem endsBehindGroup_passes (hd : Neutral d) (h : level? 0 (more.map Token.kind) = some m) (q : List Token) :
    endsBehindGroup (bracket :: (more ++ (d ++ q))) = endsBehindGroup (bracket :: (more ++ q)) := by
  have hd : level? m (d.map Token.kind) = some m := by
    have hd := level?_add hd m
    rwa [Nat.zero_add] at hd
  unfold endsBehindGroup
  rw [closingOffset?_opening hb, closingOffset?_opening hb, closingOffset?_passes h, closingOffset?_passes h,
    closingOffset?_passes hd]
  cases closingOffset? (m + 1) q with
  | none => rfl
  | some i =>
    have hkind : kindAt (bracket :: (more ++ (d ++ q))) (i + d.length + more.length + 1 + 1) =
        kindAt (bracket :: (more ++ q)) (i + more.length + 1 + 1) := by
      have hleft := kindAt_append_right (bracket :: (more ++ d)) q (i + 1)
      have hright := kindAt_append_right (bracket :: more) q (i + 1)
      rw [List.length_cons, List.cons_append] at hleft hright
      rw [List.length_append, List.append_assoc] at hleft
      rw [show i + d.length + more.length + 1 + 1 = i + 1 + (more.length + d.length + 1) by omega, hleft,
        show i + more.length + 1 + 1 = i + 1 + (more.length + 1) by omega, hright]
    exact congrArg endsEmbedded hkind

end Look

theorem EndsOpen.of_suffix (h : EndsOpen p) {more : List Token} (hs : more <:+ p) : EndsOpen more := by
  intro t b ht
  obtain ⟨front, rfl⟩ := hs
  refine h t b ?_
  rw [List.getLast?_append, ht]
  rfl

/-- What stands behind the first two of the tokens. -/
theorem suffix_behind {name bracket : Token} {more : List Token} (h : name :: bracket :: more <:+ p) :
    more <:+ p :=
  (List.suffix_cons bracket more).trans ((List.suffix_cons name _).trans h)

theorem Closes.concat {next : Token} (h : Closes p) (hnext : next.kind ≠ .opening .square) :
    Closes (p ++ [next]) := by
  rintro name bracket more ⟨front, hfront⟩ hname hb
  rcases List.eq_nil_or_concat more with rfl | ⟨init, x, rfl⟩
  · have hlast : front ++ [name] ++ [bracket] = p ++ [next] := by rw [← hfront, List.append_assoc]; rfl
    obtain ⟨-, hlast⟩ := List.append_inj' hlast rfl
    obtain rfl := List.singleton_inj.1 hlast
    exact absurd hb hnext
  · rw [List.concat_eq_append] at hfront ⊢
    have hinit : front ++ name :: bracket :: init ++ [x] = p ++ [next] := by rw [← hfront, List.append_assoc]; rfl
    obtain ⟨hinit, -⟩ := List.append_inj' hinit rfl
    obtain ⟨i, hi⟩ := h name bracket init ⟨front, hinit⟩ hname hb
    refine ⟨i, ?_⟩
    rw [closingOffset?_opening hb, closingOffset?_stops (level?_of_closingOffset? hb hi),
      ← closingOffset?_opening hb, hi]

/-- **No look is misled** where the brackets behind names are closed. -/
theorem not_misled_of_closes (hend : EndsOpen p) (h : Closes p) : ¬ Misled q q' p := by
  rintro ⟨name, bracket, more, hmore, hname, hb, hne⟩
  obtain ⟨i, hi⟩ := h name bracket more hmore hname hb
  have hmore' : EndsOpen more := hend.of_suffix (suffix_behind hmore)
  have hstop := level?_of_closingOffset? hb hi
  refine hne ?_
  rw [List.cons_append, List.cons_append, endsBehindGroup_stops hb hmore' hstop,
    endsBehindGroup_stops hb hmore' hstop]

/-- **No look is misled** by tokens in which the brackets balance. -/
theorem not_misled_of_neutral (hend : EndsOpen p) (hd : Neutral d) : ¬ Misled q (d ++ q) p := by
  rintro ⟨name, bracket, more, hmore, hname, hb, hne⟩
  have hmore' : EndsOpen more := hend.of_suffix (suffix_behind hmore)
  refine hne ?_
  rw [List.cons_append, List.cons_append]
  cases hl : level? 0 (more.map Token.kind) with
  | none => rw [endsBehindGroup_stops hb hmore' hl, endsBehindGroup_stops hb hmore' hl]
  | some m => exact endsBehindGroup_passes hb hd hl q

end TypeExpr

end GoFixtures.Go
