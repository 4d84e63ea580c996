import GoFixtures.Proofs.Go.Advances

/-!
# Interface bodies

In front of a closing parenthesis or square bracket the round of an interface body takes nothing, in front of
every other token of the body it takes some. So the body is read to its end unless it comes to such a bracket
that nothing in it opens.

* `TypeExpr.closer?_behindMember`: no round changes the bracket that the body comes to.
* `TypeExpr.endless_iff_blocked`: which bodies are never read to their end.
* `TypeExpr.advances_interfaceType`: where an interface stalls.
-/

namespace GoFixtures.Go

open TokenReader Token

namespace TypeExpr

variable {t : Token} {ts us : List Token} {n : Nat}

/-- The tokens between the braces of an interface. -/
def inBody (k : Token.Kind) : Bool := k ≠ .closing .brace && k ≠ .endOfFile

/-- What a round of an interface body leaves. -/
def behindMember (ts : List Token) : List Token :=
  (untilStop endsMember 0 ts).dropWhile (·.kind = .mark .semicolon)

theorem member_apply (ts : List Token) : ∃ name, member ts = .ok (name, behindMember ts) := ⟨_, rfl⟩

/-- Whatever is passed over outside brackets, the group goes on to the same bracket. -/
theorem closer?_untilStop {stops : Token.Kind → Bool} {depth : Nat} :
    closer? 0 (untilStop stops depth ts) = closer? depth ts := by
  fun_induction untilStop stops depth ts with
  | case1 => simp [closer?]
  | case2 depth t ts hend => simp [closer?, hend]
  | case3 depth t ts hend hstop =>
    simp only [Bool.and_eq_true, decide_eq_true_eq] at hstop
    rw [hstop.1]
  | case4 t ts hend b depth hopen _ ih => simp [ih, closer?, hopen]
  | case5 => rfl
  | case6 t ts hend b depth hclose _ ih => simp [ih, closer?, hclose]
  | case7 t ts hend depth hopen hzero hsucc _ ih =>
    rw [ih]
    cases hk : t.kind <;> simp_all [closer?]

theorem closer?_dropWhile : closer? 0 (ts.dropWhile (·.kind = .mark .semicolon)) = closer? 0 ts := by
  induction ts with
  | nil => rfl
  | cons t ts ih =>
    by_cases h : t.kind = .mark .semicolon
    · rw [List.dropWhile_cons_of_pos (by simp [h]), ih]
      simp [closer?, h]
    · rw [List.dropWhile_cons_of_neg (by simp [h])]

/-- **One round of an interface body** goes on to the same bracket. -/
theorem closer?_behindMember : closer? 0 (behindMember ts) = closer? 0 ts := by
  rw [behindMember, closer?_dropWhile, closer?_untilStop]

theorem ended_behindMember (h : Ended ts) : Ended (behindMember ts) ∧ behindMember ts <:+ ts := by
  exact ⟨Advances.ended_dropWhile (Advances.ended_untilStop h), (List.dropWhile_suffix _).trans untilStop_suffix⟩

/-- In front of a closing bracket nothing is taken. -/
theorem behindMember_closing {b : Bracket} (h : t.kind = .closing b) : behindMember (t :: us) = t :: us := by
  have huntil : untilStop endsMember 0 (t :: us) = t :: us := by
    cases b <;> simp [untilStop, h]
  rw [behindMember, huntil, List.dropWhile_cons_of_neg (by simp [h])]

/-- In front of any other token in the body one is taken. -/
theorem behindMember_length_lt (hend : t.kind ≠ .endOfFile) (hclose : ∀ b, t.kind ≠ .closing b) :
    (behindMember (t :: us)).length < (t :: us).length := by
  rw [List.length_cons, Nat.lt_succ_iff]
  by_cases hstop : t.kind = .mark .semicolon
  · have huntil : untilStop endsMember 0 (t :: us) = t :: us := by simp [untilStop, hstop, endsMember]
    rw [behindMember, huntil, List.dropWhile_cons_of_pos (by simp [hstop])]
    exact (List.dropWhile_suffix _).length_le
  · obtain ⟨depth, huntil⟩ : ∃ depth, untilStop endsMember 0 (t :: us) = untilStop endsMember depth us := by
      cases hk : t.kind <;> simp_all [untilStop, endsMember] <;> exact ⟨_, rfl⟩
    rw [behindMember, huntil]
    exact ((List.dropWhile_suffix _).trans untilStop_suffix).length_le

/-- A blocking bracket. -/
theorem inBody_of_blocks (h : Blocks t us) : inBody (kindAt us 0) := by
  obtain ⟨hcloser, hbrace⟩ := h
  match us with
  | [] => cases hcloser
  | u :: us =>
    have hend : u.kind ≠ .endOfFile := by
      intro hk
      simp [closer?, hk] at hcloser
    have hbody : u.kind ≠ .closing .brace := by
      intro hk
      simp only [closer?, hk, Option.some.injEq] at hcloser
      exact hbrace (hcloser ▸ hk)
    simp [inBody, kindAt, hend, hbody]

/-- **A blocked body is never read to its end**, however many rounds there are. -/
theorem repeatFor_blocked (h : Blocks t us) (n : Nat) :
    ∃ p, repeatFor inBody member n us = .error ⟨.stalled, p⟩ := by
  induction n generalizing us with
  | zero =>
    refine ⟨(headOf us).position, ?_⟩
    simp [repeatFor, bind_apply, peekKind, inBody_of_blocks h, stall]
  | succ n ih =>
    obtain ⟨name, hmember⟩ := member_apply us
    have hblocks : Blocks t (behindMember us) := ⟨closer?_behindMember.trans h.1, h.2⟩
    obtain ⟨p, hp⟩ := ih hblocks
    refine ⟨p, ?_⟩
    simp [repeatFor, bind_apply, peekKind, inBody_of_blocks h, hmember, hp]

/-- The bracket itself is never taken. -/
theorem repeatFor_closing {b : Bracket} (h : t.kind = .closing b) (hb : b ≠ .brace) (n : Nat) :
    repeatFor inBody member n (t :: us) = .error ⟨.stalled, t.position⟩ := by
  have hin : inBody t.kind := by simp [inBody, h, hb]
  induction n with
  | zero => simp [repeatFor, bind_apply, peekKind, kindAt, hin, stall, headOf]
  | succ n ih =>
    obtain ⟨name, hmember⟩ := member_apply (t :: us)
    rw [behindMember_closing h] at hmember
    simp [repeatFor, bind_apply, peekKind, kindAt, hin, hmember, ih]

/-- With as many rounds as tokens the loop has come to the bracket. -/
theorem repeatFor_blocked_position (hus : Ended us) (h : Blocks t us) (hn : us.length ≤ n) :
    repeatFor inBody member n us = .error ⟨.stalled, t.position⟩ := by
  induction n generalizing us with
  | zero =>
    have hpos := List.length_pos_of_ne_nil hus.ne_nil
    omega
  | succ n ih =>
    have hin := inBody_of_blocks h
    match us with
    | [] => exact absurd rfl hus.ne_nil
    | u :: us =>
      have hend : u.kind ≠ .endOfFile ∧ u.kind ≠ .closing .brace := by
        simpa [inBody, kindAt, and_comm] using hin
      by_cases hclose : ∃ b, u.kind = .closing b
      · obtain ⟨b, hb⟩ := hclose
        obtain rfl : u = t := by simpa [closer?, hb] using h.1
        exact repeatFor_closing hb (fun hbrace => h.2 (hbrace ▸ hb)) _
      · have hlt : (behindMember (u :: us)).length < (u :: us).length :=
          behindMember_length_lt hend.1 (not_exists.1 hclose)
        have hblocks : Blocks t (behindMember (u :: us)) := ⟨closer?_behindMember.trans h.1, h.2⟩
        have hmore := ih (ended_behindMember hus).1 hblocks (by omega)
        obtain ⟨name, hmember⟩ := member_apply (u :: us)
        simp [repeatFor, bind_apply, peekKind, hin, hmember, hmore]

/-- **A body that no bracket blocks** is read to its end. -/
theorem repeatFor_unblocked (hus : Ended us) (h : ∀ t, ¬ Blocks t us) (hn : us.length ≤ n) :
    ∃ names rest, repeatFor inBody member n us = .ok (names, rest) ∧ Ended rest ∧ rest <:+ us := by
  induction n generalizing us with
  | zero =>
    have hpos := List.length_pos_of_ne_nil hus.ne_nil
    omega
  | succ n ih =>
    match us with
    | [] => exact absurd rfl hus.ne_nil
    | u :: us =>
      by_cases hin : inBody u.kind
      · have hend : u.kind ≠ .endOfFile ∧ u.kind ≠ .closing .brace := by
          simpa [inBody, and_comm] using hin
        have hclose : ∀ b, u.kind ≠ .closing b := by
          intro b hb
          exact h u ⟨by simp [closer?, hb], hend.2⟩
        have hlt : (behindMember (u :: us)).length < (u :: us).length := behindMember_length_lt hend.1 hclose
        obtain ⟨hended, hsuffix⟩ := ended_behindMember hus
        have hblocks : ∀ t, ¬ Blocks t (behindMember (u :: us)) :=
          fun t ht => h t ⟨closer?_behindMember.symm.trans ht.1, ht.2⟩
        obtain ⟨names, rest, hr, hrest, hrest'⟩ := ih hended hblocks (by omega)
        obtain ⟨name, hmember⟩ := member_apply (u :: us)
        refine ⟨name :: names, rest, ?_, hrest, hrest'.trans hsuffix⟩
        simp [repeatFor, bind_apply, pure_apply, peekKind, kindAt, hin, hmember, hr]
      · refine ⟨[], u :: us, ?_, hus, List.suffix_rfl⟩
        simp [repeatFor, bind_apply, pure_apply, peekKind, kindAt, hin]

/-- **Which interface bodies are never read to their end.** -/
theorem endless_iff_blocked (hus : Ended us) :
    (∀ n, ∃ p, repeatFor inBody member n us = .error ⟨.stalled, p⟩) ↔ ∃ t, Blocks t us := by
  constructor
  · intro hendless
    by_contra hblocks
    obtain ⟨names, rest, hok, -⟩ := repeatFor_unblocked hus (not_exists.1 hblocks) le_rfl
    obtain ⟨p, hp⟩ := hendless us.length
    cases hok.symm.trans hp
  · rintro ⟨t, ht⟩ n
    exact repeatFor_blocked ht n

/-- What is read behind the opening brace of an interface. -/
def interfaceBody : TokenReader TypeExpr := do
  skipSemicolons
  let methods ← repeatWhile inBody member
  let _ ← expect (.closing .brace)
  return interface (methods.filterMap id)

theorem interfaceType_eq : interfaceType = (do
    let _ ← expect (.keyword .interface)
    let _ ← expect (.opening .brace)
    interfaceBody) := rfl

/-- The body stalls if a bracket blocks it, and at this bracket. -/
theorem interfaceBody_blocked (hus : Ended us) (h : Blocks t us) :
    interfaceBody us = .error ⟨.stalled, t.position⟩ := by
  have hblocks : Blocks t (us.dropWhile (·.kind = .mark .semicolon)) := ⟨closer?_dropWhile.trans h.1, h.2⟩
  have hstall := repeatFor_blocked_position (Advances.ended_dropWhile hus) hblocks le_rfl
  rw [interfaceBody, bind_apply, skipSemicolons]
  simp only
  rw [bind_apply, repeatWhile, hstall]

theorem advances_interfaceBody (h : ∀ t, ¬ Blocks t us) : Advances 0 interfaceBody us := by
  refine Advances.bind (n := 0) (m := 0) Advances.skipSemicolons fun _ vs hvs _ => ?_
  obtain ⟨-, rfl⟩ := Prod.mk.inj (Except.ok.inj hvs)
  have hblocks : ∀ t, ¬ Blocks t (us.dropWhile (·.kind = .mark .semicolon)) :=
    fun t ht => h t ⟨closer?_dropWhile.symm.trans ht.1, ht.2⟩
  have hloop : Advances 0 (repeatWhile inBody member) (us.dropWhile (·.kind = .mark .semicolon)) := by
    intro hus
    obtain ⟨names, rest, hr, hrest, hsuffix⟩ := repeatFor_unblocked hus hblocks le_rfl
    refine ⟨fun as rest' hr' => ?_, fun p hp => (nomatch hr.symm.trans hp)⟩
    obtain ⟨-, rfl⟩ := Prod.mk.inj (Except.ok.inj (hr.symm.trans hr'))
    exact ⟨hrest, hsuffix, hsuffix.length_le⟩
  refine hloop.before fun _ _ _ => ?_
  exact ((Advances.expect (by decide)).mono (Nat.zero_le 1)).before fun _ _ _ => .pure

/-- The token that is taken and what it leaves. -/
theorem expect_ok {k : Token.Kind} (hts : Ended ts) (hk : k ≠ .endOfFile) (h : expect k ts = .ok (t, us)) :
    ts = t :: us ∧ t.kind = k := by
  rw [expect, bind_apply, peek] at h
  by_cases hhead : (headOf ts).kind = k
  · simp only [hhead, if_true] at h
    obtain ⟨rfl, rfl⟩ := Prod.mk.inj (Except.ok.inj h)
    obtain ⟨u, ts, rfl⟩ := List.exists_cons_of_ne_nil hts.ne_nil
    cases ts with
    | nil =>
      obtain ⟨v, hv, hend⟩ := hts
      obtain rfl : u = v := Option.some.inj hv
      exact absurd (hhead.symm.trans hend) hk
    | cons v us => exact ⟨rfl, hhead⟩
  · simp only [hhead, if_false] at h
    cases h

theorem expect_cons {k : Token.Kind} {u : Token} (h : t.kind = k) :
    expect k (t :: u :: us) = .ok (t, u :: us) := by
  simp [expect, bind_apply, peek, headOf, h, advance, behind]

theorem interfaceType_cons {word brace : Token} (hword : word.kind = .keyword .interface)
    (hbrace : brace.kind = .opening .brace)
    (hus : Ended us) : interfaceType (word :: brace :: us) = interfaceBody us := by
  obtain ⟨u, us, rfl⟩ := List.exists_cons_of_ne_nil hus.ne_nil
  rw [interfaceType_eq, bind_apply, expect_cons hword]
  simp only
  rw [bind_apply, expect_cons hbrace]

/-- **An interface** stalls only if a bracket blocks its body. -/
theorem advances_interfaceType : Advances 1 interfaceType ts := by
  intro hts
  by_cases h : ∃ word brace us t, ts = word :: brace :: us ∧ word.kind = .keyword .interface ∧
    brace.kind = .opening .brace ∧
      Blocks t us
  · obtain ⟨word, brace, us, t, rfl, hword, hbrace, ht⟩ := h
    have hus : Ended us := (hts.tail (by rw [hword]; decide)).tail (by rw [hbrace]; decide)
    rw [interfaceType_cons hword hbrace hus, interfaceBody_blocked hus ht]
    refine ⟨fun a rest hr => (nomatch hr), fun p hp => ?_⟩
    have hp : t.position = p := congrArg ParseError.position (Except.error.inj hp)
    exact ⟨word, brace, us, t, List.suffix_rfl, hword, hbrace, ht, hp⟩
  · rw [interfaceType_eq]
    refine Advances.bind (n := 1) (m := 0) (Advances.expect (by decide)) (fun word us hword _ hus => ?_) hts
    obtain ⟨rfl, hk⟩ := expect_ok hts (by decide) hword
    refine Advances.mono (n := 1 + 0) (Advances.bind (Advances.expect (by decide)) fun brace vs hbrace _ => ?_)
      (Nat.zero_le _) hus
    obtain ⟨rfl, hk'⟩ := expect_ok hus (by decide) hbrace
    exact advances_interfaceBody fun t ht => h ⟨word, brace, vs, t, rfl, hk, hk', ht⟩

end TypeExpr

end GoFixtures.Go
