import GoFixtures.Proofs.Go.Groups
import GoFixtures.Proofs.Go.Lookahead

/-!
# Brackets that match

The look for the bracket that closes a group counts all kinds of brackets together, the reader that takes a
group counts brackets of its own kind. Each of them sees a part of what is open: the look how many groups, the
reader how many of one kind. Where every group is closed by a bracket of its own kind, the groups that are
open are a stack, and neither number comes down to that of the first group before this group is closed.
Elsewhere the two may stop at different brackets.

* `Nested`, `pending?`, `nested_iff`: groups in groups, and the stack of those that are open.
* `level?_of_pending?`, `depth?_of_pending?`: the two numbers.
* `skipGroup_cases`, `exists_isGroup_of_balances`: a group is taken just if brackets of its kind balance
  somewhere.
* `TypeExpr.field_group`: the line of a field with a group behind its name.
* `matchers_agree`, `skipGroup_closing_iff`: where look and reader stop at the same bracket.
-/

namespace GoFixtures.Go

open TokenReader TypeExpr

/-! ### Groups in groups -/

/-- Neither a bracket nor the end of the file. -/
def Token.Kind.isPlain : Token.Kind → Bool
  | .opening _ | .closing _ | .endOfFile => false
  | _ => true

/-- Every group in the tokens is closed by a bracket of its own kind, inside the group that it is opened in. -/
inductive Nested : List Token.Kind → Prop
  | nil : Nested []
  | plain {k : Token.Kind} {ks : List Token.Kind} (hk : k.isPlain) (hks : Nested ks) : Nested (k :: ks)
  | group {b : Bracket} {inner more : List Token.Kind} (hinner : Nested inner) (hmore : Nested more) :
      Nested (.opening b :: (inner ++ .closing b :: more))

/-- The groups that are open behind a token, the innermost first, if those in `s` are open before it. -/
def pendingBehind? (s : List Bracket) : Token.Kind → Option (List Bracket)
  | .endOfFile => none
  | .opening b => some (b :: s)
  | .closing b => if s.head? = some b then some s.tail else none
  | _ => some s

/-- The groups that are open behind tokens, if those in `s` are open before them. -/
def pending? : List Bracket → List Token.Kind → Option (List Bracket)
  | s, [] => some s
  | s, k :: ks => (pendingBehind? s k).bind (pending? · ks)

variable {b : Bracket} {s s' : List Bracket} {k : Token.Kind} {ks ls : List Token.Kind} {n m i : Nat}

/-- A plain token leaves the pending brackets as they are. -/
theorem pendingBehind?_plain (h : k.isPlain) (s : List Bracket) : pendingBehind? s k = some s := by
  cases k <;> first | rfl | cases h

/-- A closing bracket takes its own one away. -/
theorem pendingBehind?_closing (b : Bracket) (s : List Bracket) :
    pendingBehind? (b :: s) (.closing b) = some s := by
  simp [pendingBehind?]

/-- What one token does to the groups that are open. -/
theorem pendingBehind?_cases (h : pendingBehind? s k = some s') :
    (k.isPlain ∧ s' = s) ∨ (∃ b, k = .opening b ∧ s' = b :: s) ∨ ∃ b, k = .closing b ∧ s = b :: s' := by
  cases k with
  | endOfFile => cases h
  | opening b => exact .inr (.inl ⟨b, rfl, (Option.some.inj h).symm⟩)
  | closing b =>
    cases s with
    | nil => cases h
    | cons c s =>
      simp only [pendingBehind?, List.head?_cons, Option.some.injEq, List.tail_cons] at h
      split at h
      · rename_i hc
        exact .inr (.inr ⟨b, rfl, by rw [hc, Option.some.inj h]⟩)
      · cases h
  | _ => exact .inl ⟨rfl, (Option.some.inj h).symm⟩

/-- The brackets that are pending behind two lists, one behind the other. -/
theorem pending?_append : pending? s (ks ++ ls) = (pending? s ks).bind (pending? · ls) := by
  induction ks generalizing s with
  | nil => rfl
  | cons k ks ih =>
    rw [List.cons_append, pending?, pending?, Option.bind_assoc]
    exact Option.bind_congr fun l _ => ih

/-- Nested tokens leave open what was open. -/
theorem Nested.pending?_eq (h : Nested ks) (s : List Bracket) : pending? s ks = some s := by
  induction h generalizing s with
  | nil => rfl
  | plain hk _ ih => rw [pending?, pendingBehind?_plain hk, Option.bind_some, ih]
  | @group b inner more _ _ ihinner ihmore =>
    rw [pending?, show pendingBehind? s (.opening b) = some (b :: s) from rfl, Option.bind_some,
      pending?_append, ihinner, Option.bind_some,
      pending?, pendingBehind?_closing, Option.bind_some, ihmore]

/-- The tokens close the groups in `s`, one after the other, with nested tokens in front of each closing
bracket and behind the last. -/
def Completes : List Bracket → List Token.Kind → Prop
  | [], ks => Nested ks
  | b :: s, ks => ∃ inner more, ks = inner ++ .closing b :: more ∧ Nested inner ∧ Completes s more

namespace Completes

/-- A plain token may stand in front. -/
theorem plain (hk : k.isPlain) (h : Completes s ks) : Completes s (k :: ks) := by
  cases s with
  | nil => exact .plain hk h
  | cons b s =>
    obtain ⟨inner, more, rfl, hinner, hmore⟩ := h
    exact ⟨k :: inner, more, rfl, .plain hk hinner, hmore⟩

/-- A group that is closed first may be opened first. -/
theorem opening (h : Completes (b :: s) ks) : Completes s (.opening b :: ks) := by
  obtain ⟨inner, more, rfl, hinner, hmore⟩ := h
  cases s with
  | nil => exact .group hinner hmore
  | cons c s =>
    obtain ⟨inner', more, rfl, hinner', hmore⟩ := hmore
    exact ⟨.opening b :: (inner ++ .closing b :: inner'), more, by simp, .group hinner hinner', hmore⟩

/-- A list that leaves nothing pending completes what has been. -/
theorem of_pending? (h : pending? s ks = some []) : Completes s ks := by
  induction ks generalizing s with
  | nil =>
    obtain rfl := Option.some.inj h
    exact .nil
  | cons k ks ih =>
    obtain ⟨s', hs, h⟩ := Option.bind_eq_some_iff.1 h
    -- the rest completes what is open behind the token, and the token changes that by one group at most
    have hrest := ih h
    obtain ⟨hk, rfl⟩ | ⟨b, rfl, rfl⟩ | ⟨b, rfl, rfl⟩ := pendingBehind?_cases hs
    · exact hrest.plain hk
    · exact hrest.opening
    · exact ⟨[], ks, rfl, .nil, hrest⟩

end Completes

/-- **Nested tokens** are those behind which no group is open. -/
theorem nested_iff : Nested ks ↔ pending? [] ks = some [] :=
  ⟨fun h => h.pending?_eq [], fun h => Completes.of_pending? h⟩

instance : DecidablePred Nested := fun _ => decidable_of_iff _ nested_iff.symm

example : ¬ Nested [.opening .square, .opening .paren, .closing .square, .closing .paren] := by decide

/-! ### What look and reader count -/

theorem levelBehind?_plain (h : k.isPlain) (n : Nat) : levelBehind? n k = some n := by
  cases k <;> first | rfl | cases h

theorem depth?_plain (h : k.isPlain) : depth? b n (k :: ks) = depth? b n ks := by
  cases k <;> first | rfl | cases h

/-- The look counts all groups that are open. -/
theorem level?_of_pending? (h : pending? s ks = some s') : level? s.length ks = some s'.length := by
  induction ks generalizing s with
  | nil => rw [← Option.some.inj h]; rfl
  | cons k ks ih =>
    obtain ⟨l, hl, h⟩ := Option.bind_eq_some_iff.1 h
    refine Option.bind_eq_some_iff.2 ⟨l.length, ?_, ih h⟩
    obtain ⟨hk, rfl⟩ | ⟨c, rfl, rfl⟩ | ⟨c, rfl, rfl⟩ := pendingBehind?_cases hl
    · exact levelBehind?_plain hk l.length
    · rfl
    · exact levelBehind?_closing c l.length

/-- The reader counts those of one kind. -/
theorem depth?_of_pending? (b : Bracket) (h : pending? s ks = some s') :
    depth? b (s.count b) ks = some (s'.count b) := by
  induction ks generalizing s with
  | nil => rw [← Option.some.inj h]; rfl
  | cons k ks ih =>
    obtain ⟨l, hl, h⟩ := Option.bind_eq_some_iff.1 h
    rw [← ih h]
    obtain ⟨hk, rfl⟩ | ⟨c, rfl, rfl⟩ | ⟨c, rfl, rfl⟩ := pendingBehind?_cases hl
    · exact depth?_plain hk
    · by_cases hc : c = b <;> simp [depth?, hc]
    · by_cases hc : c = b <;> simp [depth?, hc]

theorem Nested.level?_eq (h : Nested ks) : level? 0 ks = some 0 := level?_of_pending? (h.pending?_eq [])

theorem Nested.depth?_eq (h : Nested ks) (b : Bracket) : depth? b 0 ks = some 0 :=
  depth?_of_pending? b (h.pending?_eq [])

/-! ### Where a group ends -/

section Taken

variable {opener : Token} {g p us rest : List Token}

/-- Tokens behind which the number of open groups is not known: in them the file ends, or one more group is
closed than is open. -/
theorem exists_of_depth?_none (h : depth? b n ks = none) :
    ∃ front k back m, ks = front ++ k :: back ∧ depth? b n front = some m ∧
    (k = .endOfFile ∨ m = 0 ∧ k = .closing b) := by
  fun_induction depth? b n ks with
  | case1 => cases h
  | case2 n ks => exact ⟨[], .endOfFile, ks, n, rfl, rfl, .inl rfl⟩
  | case4 ks => exact ⟨[], .closing b, ks, 0, rfl, rfl, .inr ⟨rfl, rfl⟩⟩
  | case3 | case5 =>
    rename_i ih
    obtain ⟨front, k, back, m, rfl, hfront, hk⟩ := ih h
    exact ⟨_ :: front, k, back, m, rfl, by simpa [depth?] using hfront, hk⟩
  | case6 n j ks hend ho hc ih =>
    obtain ⟨front, k, back, m, rfl, hfront, hk⟩ := ih h
    exact ⟨j :: front, k, back, m, rfl, by simpa [depth?, hend, ho, hc] using hfront, hk⟩

/-- The same of tokens. -/
theorem exists_stop (h : depth? b n (us.map Token.kind) = none) : ∃ inner t rest m, us = inner ++ t :: rest ∧
    depth? b n (inner.map Token.kind) = some m ∧ (t.kind = .endOfFile ∨ m = 0 ∧ t.kind = .closing b) := by
  obtain ⟨front, k, back, m, hus, hfront, hk⟩ := exists_of_depth?_none h
  obtain ⟨inner, behind, rfl, rfl, hbehind⟩ := List.map_eq_append_iff.1 hus
  obtain ⟨t, rest, rfl, rfl, -⟩ := List.map_eq_cons_iff.1 hbehind
  exact ⟨inner, t, rest, m, rfl, hfront, hk⟩

/-- The groups that are open behind tokens, by the numbers of brackets in them. -/
theorem count_of_depth? (h : depth? b n ks = some m) :
    .endOfFile ∉ ks ∧ n + ks.count (.opening b) = m + ks.count (.closing b) := by
  fun_induction depth? b n ks with
  | case1 => simpa using h
  | case2 | case4 => cases h
  | case3 | case5 | case6 =>
    rename_i ih
    obtain ⟨hend, hcount⟩ := ih h
    simp only [List.mem_cons, hend, List.count_cons]
    grind

/-- In tokens in front of the end of the file, some at least, as many groups of one kind are closed as are
opened. -/
structure Balances (b : Bracket) (p : List Token) : Prop where
  nonempty : p ≠ []
  inFile : ∀ t ∈ p, t.kind ≠ .endOfFile
  count_eq : (p.map Token.kind).count (.opening b) = (p.map Token.kind).count (.closing b)

/-- The brackets of its own kind balance in a group. -/
theorem IsGroup.balances (h : IsGroup b g) : Balances b g := by
  obtain ⟨opener, inner, closer, rfl, hopener, hinner, hcloser⟩ := h
  obtain ⟨hend, hcount⟩ := count_of_depth? hinner
  refine ⟨by simp, fun t ht => ?_, ?_⟩
  · rcases List.mem_cons.1 ht with rfl | ht
    · simp [hopener]
    rcases List.mem_append.1 ht with ht | ht
    · exact fun hk => hend (hk ▸ List.mem_map_of_mem ht)
    · simp [List.mem_singleton.1 ht, hcloser]
  · simp only [List.map_cons, List.map_append, List.map_nil, List.count_cons, List.count_append, hopener, hcloser]
    grind

/-- Where brackets of its kind balance, a group is closed. -/
theorem exists_isGroup_of_balances (hopener : opener.kind = .opening b) (hp : p <+: opener :: us)
    (h : Balances b p) :
    ∃ g, g <+: p ∧ IsGroup b g := by
  obtain ⟨more, rfl, -⟩ : ∃ more, p = opener :: more ∧ more <+: us := by
    rcases List.prefix_cons_iff.1 hp with rfl | hp
    · exact absurd rfl h.nonempty
    · exact hp
  cases hdepth : depth? b 0 (more.map Token.kind) with
  | some m =>
    have hcount := (count_of_depth? hdepth).2
    have hsame := h.count_eq
    simp only [List.map_cons, hopener, List.count_cons] at hsame
    grind
  | none =>
    obtain ⟨inner, closer, rest, m, rfl, hinner, hend | ⟨rfl, hcloser⟩⟩ := exists_stop hdepth
    · exact absurd hend (h.inFile closer (by simp))
    · exact ⟨opener :: (inner ++ [closer]), ⟨rest, by simp⟩, opener, inner, closer, rfl, hopener, hinner, hcloser⟩

/-- A group at the beginning of the tokens is taken. -/
theorem skipGroup_isGroup (h : IsGroup b g) (hg : g <+: us) : skipGroup b us = .ok ((), us.drop g.length) := by
  obtain ⟨rest, rfl⟩ := hg
  rw [skipGroup_append h, List.drop_left]

/-- Passing over a group takes what is behind its opening bracket. -/
theorem skipGroup_opening (hopener : opener.kind = .opening b) :
    skipGroup b (opener :: us) = (behindGroup b opener.position 0 us).map fun rest => ((), rest) := by
  cases us with
  | nil =>
    -- the one token there is stays, and is not closed
    have hexpect : expect (.opening b) [opener] = .ok (opener, [opener]) := by
      simp [expect, bind_apply, peek, headOf, hopener, advance, TokenReader.behind]
    rw [skipGroup_apply hexpect]
    simp [behindGroup, hopener]
  | cons u us => exact skipGroup_apply (expect_apply hopener (by simp))

/-- **A group is taken or not closed.** -/
theorem skipGroup_cases (us : List Token) (hopener : opener.kind = .opening b) :
    (∃ g rest, opener :: us = g ++ rest ∧ IsGroup b g ∧ skipGroup b (opener :: us) = .ok ((), rest)) ∨
      skipGroup b (opener :: us) = .error ⟨.unclosed b, opener.position⟩ := by
  rw [skipGroup_opening hopener]
  cases hdepth : depth? b 0 (us.map Token.kind) with
  | some m =>
    have hpass : behindGroup b opener.position 0 (us ++ []) = behindGroup b opener.position m [] :=
      behindGroup_append hdepth
    rw [List.append_nil] at hpass
    exact .inr (by rw [hpass]; rfl)
  | none =>
    obtain ⟨inner, closer, rest, m, rfl, hinner, hend | ⟨rfl, hcloser⟩⟩ := exists_stop hdepth
    · exact .inr (by rw [behindGroup_append hinner]; simp [behindGroup, hend, Except.map])
    · refine .inl ⟨opener :: (inner ++ [closer]), rest,
        by simp, ⟨opener, inner, closer, rfl, hopener, hinner, hcloser⟩, ?_⟩
      rw [behindGroup_append hinner]
      simp [behindGroup, hcloser, Except.map]

/-- **A group is not closed** just if no brackets of its kind balance. -/
theorem skipGroup_eq_error_iff (hopener : opener.kind = .opening b) :
    skipGroup b (opener :: us) = .error ⟨.unclosed b, opener.position⟩ ↔
    ¬ ∃ p, p <+: opener :: us ∧ Balances b p := by
  constructor
  · rintro herror ⟨p, hp, hbalances⟩
    obtain ⟨g, hg, hgroup⟩ := exists_isGroup_of_balances hopener hp hbalances
    rw [skipGroup_isGroup hgroup (hg.trans hp)] at herror
    cases herror
  · intro hno
    obtain ⟨g, rest, hus, hg, -⟩ | herror := skipGroup_cases us hopener
    · exact absurd ⟨g, hus ▸ List.prefix_append g rest, hg.balances⟩ hno
    · exact herror

end Taken

/-! ### Where look and reader agree -/

/-- Brackets of one kind with nested tokens between them. -/
def IsNestedGroup (b : Bracket) (g : List Token) : Prop :=
  ∃ opener inner closer, g = opener :: (inner ++ [closer]) ∧ opener.kind = .opening b ∧
    Nested (inner.map Token.kind) ∧
    closer.kind = .closing b

section Agree

variable {name t : Token} {g us rest : List Token}

/-- A nested group is a group. -/
theorem IsNestedGroup.isGroup (h : IsNestedGroup b g) : IsGroup b g := by
  obtain ⟨opener, inner, closer, rfl, hopener, hinner, hcloser⟩ := h
  exact ⟨opener, inner, closer, rfl, hopener, hinner.depth?_eq b, hcloser⟩

/-- Brackets around nested signs make up a nested group. -/
theorem IsNestedGroup.of_signs {signs : Signs} (h : Nested (kinds signs))
    (hg : g.map Token.sign = signs.inside b) : IsNestedGroup b g := by
  obtain ⟨front, back, rfl, hfront, hback⟩ := List.map_eq_append_iff.1 hg
  obtain ⟨opener, inner, rfl, hopener, hinner⟩ := List.map_eq_cons_iff.1 hfront
  obtain ⟨closer, rfl, hcloser⟩ := List.map_eq_singleton_iff.1 hback
  exact ⟨opener, inner, closer, rfl, congrArg Prod.fst hopener, map_kind_of_sign hinner ▸ h,
    congrArg Prod.fst hcloser⟩

/-- **The look** finds the bracket that closes a nested group. -/
theorem closingOffset?_nested (h : IsNestedGroup b g) (hg : g <+: us) :
    closingOffset? 0 us = some (g.length - 1) := by
  obtain ⟨opener, inner, closer, rfl, hopener, hinner, hcloser⟩ := h
  obtain ⟨rest, rfl⟩ := hg
  have hstop : closingOffset? 1 (closer :: rest) = some 0 := by
    rw [closingOffset?, hcloser]
    rfl
  have hlook : closingOffset? 1 (inner ++ closer :: rest) = some inner.length := by
    rw [closingOffset?_passes hinner.level?_eq, hstop, Option.map_some, Nat.zero_add]
  rw [List.cons_append, List.append_assoc, List.singleton_append, closingOffset?_opening hopener, hlook]
  simp

/-- Where the look finds a bracket, the reader stops behind the same one just if this closes a group of its
kind. -/
theorem skipGroup_closing_iff {opener : Token} (hopener : opener.kind = .opening b)
    (h : closingOffset? 0 (opener :: us) = some i) :
    skipGroup b (opener :: us) = .ok ((), (opener :: us).drop (i + 1)) ↔
      IsGroup b ((opener :: us).take (i + 1)) := by
  have hlt : i < (opener :: us).length := by
    rw [closingOffset?_opening hopener] at h
    obtain ⟨j, hj, rfl⟩ := Option.map_eq_some_iff.1 h
    obtain ⟨c, hc⟩ := exists_closing hj
    obtain ⟨t, ht, -⟩ := Option.map_eq_some_iff.1 hc
    have hj := (List.getElem?_eq_some_iff.1 ht).1
    simpa using hj
  constructor
  · intro htaken
    obtain ⟨g, rest, hus, hg, hgroup⟩ | herror := skipGroup_cases us hopener
    · obtain ⟨-, hrest⟩ := Prod.mk.inj (Except.ok.inj (hgroup.symm.trans htaken))
      have hlen : g.length = i + 1 := by
        have htotal := congrArg List.length hus
        have hleft := congrArg List.length hrest
        rw [List.length_append] at htotal
        rw [List.length_drop] at hleft
        omega
      rwa [hus, ← hlen, List.take_left]
    · rw [herror] at htaken
      cases htaken
  · intro hg
    have htaken := skipGroup_isGroup hg (List.take_prefix _ _)
    rwa [List.length_take, Nat.min_eq_left hlt] at htaken

namespace TypeExpr

/-- The type in front of which a group of brackets stands: a slice if the group is empty, an array otherwise. -/
def bracketed (g : List Token) (element : TypeExpr) : TypeExpr :=
  if g.length = 2 then slice element else array element

/-- What `field` reads behind the type. -/
def tagged (names : List String) (type : TypeExpr) : TokenReader (FieldDecl TypeExpr) := do
  if ← at? .string then
    let tag ← advance
    return ⟨names, type, some tag.value⟩
  else
    return ⟨names, type, none⟩

/-- The look decides by what stands behind the group. -/
theorem isEmbeddedField_group (hname : name.kind = .identifier) (h : IsNestedGroup .square g) :
    isEmbeddedField (name :: (g ++ rest)) = .ok (endsEmbedded (kindAt rest 0), name :: (g ++ rest)) := by
  have hlook : closingOffset? 0 (g ++ rest) = some (g.length - 1) :=
    closingOffset?_nested h (List.prefix_append g _)
  have hsquare : kindAt (g ++ rest) 0 = .opening .square := kindAt_group h.isGroup
  have hlast : kindAt (g ++ rest) (g.length - 1 + 1) = kindAt rest 0 := by
    obtain ⟨opener, inner, closer, rfl, -⟩ := h
    have hbehind := kindAt_append_right (opener :: (inner ++ [closer])) rest 0
    rw [Nat.zero_add] at hbehind
    exact hbehind
  have hends : endsBehindGroup (g ++ rest) = endsEmbedded (kindAt rest 0) := by
    rw [endsBehindGroup, hlook]
    simp only [hlast]
  have hfollower : kindAt (name :: (g ++ rest)) 1 = .opening .square := hsquare
  have hfirst : kindAt (name :: (g ++ rest)) 0 = .identifier := hname
  rw [isEmbeddedField_apply, looksEmbedded, hfirst, hfollower, if_pos rfl, if_neg (by decide), if_pos rfl,
    List.drop_one, List.tail_cons,
    hends]

/-- A name with a group behind it is a generic type. -/
theorem named_group (hname : name.kind = .identifier) (h : IsGroup .square g) :
    named (name :: (g ++ rest)) = .ok (generic (.name name.value), rest) := by
  have htaken : skipGroup .square (g ++ rest) = .ok ((), rest) := skipGroup_append h
  obtain ⟨opener, inner, closer, rfl, hopener, -⟩ := h
  rw [named_eq_bind, bind_apply, expect_apply hname (by simp)]
  simp only [List.cons_append] at htaken ⊢
  rw [namedBehind_square hopener, bind_apply, htaken]
  rfl

/-- There is one name in front of a group. -/
theorem nameList_group (hname : name.kind = .identifier) (h : IsGroup .square g) :
    nameList (name :: (g ++ rest)) = .ok ([name.value], g ++ rest) := by
  obtain ⟨opener, inner, closer, rfl, hopener, -⟩ := h
  rw [nameList_eq, bind_apply, expect_apply hname (by simp)]
  simp only [List.cons_append]
  rw [bind_apply, repeatWhile_nameRound_square hopener]
  rfl

/-- A group in front of a type makes it a slice or an array. -/
theorem ofDepth_group {d : Nat} (h : IsGroup .square g) :
    ofDepth (d + 1) (g ++ t :: rest) = (ofDepth d >>= fun element => pure (bracketed g element)) (t :: rest) := by
  have htaken : skipGroup .square (g ++ t :: rest) = .ok ((), t :: rest) := skipGroup_append h
  obtain ⟨opener, inner, closer, rfl, hopener, hinner, hcloser⟩ := h
  simp only [List.cons_append] at htaken ⊢
  rw [ofDepth_square hopener]
  cases inner with
  | nil =>
    have hclose : kindAt (opener :: ([] ++ [closer] ++ t :: rest)) 1 = .closing .square := hcloser
    rw [if_pos hclose]
    rfl
  | cons u inner =>
    have hclose : kindAt (opener :: (u :: inner ++ [closer] ++ t :: rest)) 1 ≠ .closing .square := by
      intro (hu : u.kind = .closing .square)
      simp [depth?, hu] at hinner
    rw [if_neg hclose, bind_apply, htaken]
    simp [bracketed]

/-- **The line of a field** with a nested group behind the first name goes on behind this group, whether the
look takes the field for an embedded one or not. -/
theorem field_group {d : Nat} (hname : name.kind = .identifier) (h : IsNestedGroup .square g) :
    field (ofDepth (d + 1)) (name :: (g ++ t :: rest)) =
      (if endsEmbedded t.kind then tagged [] (generic (.name name.value))
      else ofDepth d >>= fun element => tagged [name.value] (bracketed g element)) (t :: rest) := by
  have hstar : kindAt (name :: (g ++ t :: rest)) 0 ≠ .mark .star := by
    rw [show kindAt (name :: (g ++ t :: rest)) 0 = name.kind from rfl, hname]
    decide
  unfold field
  rw [bind_apply, accept_of_ne hstar]
  simp only [Bool.false_eq_true, if_false]
  rw [bind_apply, isEmbeddedField_group hname h, show kindAt (t :: rest) 0 = t.kind from rfl]
  cases endsEmbedded t.kind with
  | true =>
    simp only [if_true]
    rw [bind_apply, named_group hname h.isGroup]
    rfl
  | false =>
    simp only [Bool.false_eq_true, if_false]
    rw [bind_apply, nameList_group hname h.isGroup]
    simp only
    rw [bind_apply, ofDepth_group h.isGroup, bind_apply, bind_apply]
    cases ofDepth d (t :: rest) <;> rfl

end TypeExpr

end Agree

/-- **Look and reader agree.** Behind nested tokens, the look finds the bracket that closes the group and the
reader stops behind it. The reader finds its group not closed, at the place where it is opened, just if no
tokens balance brackets of its kind. Behind a name, look and reader mean the same bracket just if the tokens
up to it are a group of square brackets; if they are nested, the line of the field goes on behind them in any
case. -/
theorem matchers_agree :
    (∀ (ts : List Token) (i : Nat) (b : Bracket) (g : List Token), g <+: ts.drop i → IsNestedGroup b g →
      closingOffset? 0 (ts.drop i) = some (g.length - 1) ∧
        skipGroup b (ts.drop i) = .ok ((), ts.drop (i + g.length))) ∧
    (∀ (b : Bracket) (opener : Token) (us : List Token), opener.kind = .opening b →
      (skipGroup b (opener :: us) = .error ⟨.unclosed b, opener.position⟩ ↔ ¬ ∃ p, p <+: opener :: us ∧
        Balances b p)) ∧
    (∀ (opener : Token) (us : List Token) (i : Nat), opener.kind = .opening .square →
      closingOffset? 0 (opener :: us) = some i →
      (skipGroup .square (opener :: us) = .ok ((), (opener :: us).drop (i + 1)) ↔
        IsGroup .square ((opener :: us).take (i + 1)))) ∧
    ∀ (name : Token) (g : List Token) (t : Token) (rest : List Token), name.kind = .identifier →
      IsNestedGroup .square g →
      isEmbeddedField (name :: (g ++ t :: rest)) = .ok (endsEmbedded t.kind, name :: (g ++ t :: rest)) ∧
      ∀ d, field (ofDepth (d + 1)) (name :: (g ++ t :: rest)) =
        (if endsEmbedded t.kind then tagged [] (generic (.name name.value))
        else ofDepth d >>= fun element => tagged [name.value] (bracketed g element)) (t :: rest) := by
  refine ⟨fun ts i b g hg h => ⟨closingOffset?_nested h hg, ?_⟩, fun b opener us => skipGroup_eq_error_iff,
    fun opener us i => skipGroup_closing_iff, fun name g t rest hname h =>
      ⟨isEmbeddedField_group hname h, fun d => field_group hname h⟩⟩
  rw [skipGroup_isGroup h.isGroup hg, List.drop_drop]

/-- Tokens of the given kinds. -/
def tokensOf (ks : List Token.Kind) : List Token := ks.map fun k => ⟨k, k.label, .start⟩

/-- A group with groups of all kinds in it. -/
def deepGroup : List Token :=
  tokensOf [.opening .square, .identifier, .opening .paren, .opening .brace, .closing .brace, .opening .square,
    .integer, .closing .square,
    .closing .paren, .closing .square]

/-- The name of a field. -/
def fieldName : Token := ⟨.identifier, "F", .start⟩

/-- A type and the end of the line. -/
def intLine : List Token := ⟨.identifier, "int", .start⟩ :: tokensOf [.mark .semicolon]

/-- Look and reader at a group with groups of all kinds in it, which is the length of an array. -/
theorem matchers_agree_deepGroup :
    closingOffset? 0 ((fieldName :: (deepGroup ++ intLine)).drop 1) = some 9 ∧
      skipGroup .square ((fieldName :: (deepGroup ++ intLine)).drop 1) = .ok ((), intLine) ∧
      (∃ p, p <+: deepGroup ∧ Balances .square p) ∧ IsGroup .square ((deepGroup ++ intLine).take 10) ∧
      isEmbeddedField (fieldName :: (deepGroup ++ intLine)) = .ok (false, fieldName :: (deepGroup ++ intLine)) ∧
      field (ofDepth 2) (fieldName :: (deepGroup ++ intLine)) =
        .ok (⟨["F"], .array (.name "int"), none⟩, tokensOf [.mark .semicolon]) := by
  obtain ⟨hagree, hunclosed, hsame, hline⟩ := matchers_agree
  have hgroup : IsNestedGroup .square deepGroup := ⟨_, deepGroup.tail.dropLast, _, rfl, rfl, by decide, rfl⟩
  obtain ⟨hlook, htaken⟩ :=
    hagree (fieldName :: (deepGroup ++ intLine)) 1 .square deepGroup (List.prefix_append _ _) hgroup
  obtain ⟨hembedded, hfield⟩ := hline fieldName deepGroup _ (tokensOf [.mark .semicolon]) rfl hgroup
  refine ⟨hlook, htaken, ?_, (hsame _ _ 9 rfl hlook).1 htaken, hembedded, hfield 1⟩
  by_contra hno
  cases (hunclosed .square _ _ rfl).2 hno

/-- **Elsewhere they may not**: of a line whose brackets are not nested, the look sees another bracket than
the reader. -/
theorem exists_brackets_differ : ¬ ∀ (text : String) (all ts rest : List Token) (i : Nat), Token.scan text =
    .ok all → ts <:+ all →
    kindAt ts 0 = .identifier → kindAt ts 1 = .opening .square → closingOffset? 0 (ts.drop 1) = some i →
      skipGroup .square (ts.drop 1) = .ok ((), rest) → rest = ts.drop (i + 2) := by
  intro hall
  have hscan : Token.scan "package p\n\ntype S struct \x7b\n\tF [(]int\n\x7d\n" =
      .ok ([⟨.keyword .package, "package", ⟨1, 1⟩⟩, ⟨.identifier, "p", ⟨1, 9⟩⟩, .impliedSemicolon ⟨1, 10⟩,
        ⟨.keyword .type, "type", ⟨3, 1⟩⟩, ⟨.identifier, "S", ⟨3, 6⟩⟩, ⟨.keyword .struct, "struct", ⟨3, 8⟩⟩,
        ⟨.opening .brace, "\x7b", ⟨3, 15⟩⟩] ++ [⟨.identifier, "F", ⟨4, 2⟩⟩, ⟨.opening .square, "[", ⟨4, 4⟩⟩,
        ⟨.opening .paren, "(", ⟨4, 5⟩⟩, ⟨.closing .square, "]", ⟨4, 6⟩⟩, ⟨.identifier, "int", ⟨4, 7⟩⟩,
          .impliedSemicolon ⟨4, 10⟩,
        ⟨.closing .brace, "\x7d", ⟨5, 1⟩⟩, .impliedSemicolon ⟨5, 2⟩, .finish ⟨6, 1⟩]) := by decide +kernel
  have hsame := hall _ _ _ _ 5 hscan (List.suffix_append _ _) rfl rfl rfl rfl
  cases hsame

end GoFixtures.Go
