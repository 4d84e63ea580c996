import GoFixtures.Proofs.Go.Following

/-!
# How far types and declarations look

Types and declarations are read alike whatever follows them, or a struct body in them is misled. Where a look
is misled, the line of the field cannot be read: a field that declares a name goes on with a type behind the
brackets, and an embedded field ends there.

* `TypeExpr.exists_of_line`: what stands behind the brackets of a line that is read.
* `TypeExpr.alike_ofDepth`: types.
* `SourceFile.alike_typeSpec`, `SourceFile.alike_constSpec`, `SourceFile.alike_funcDecl`: what declarations
  are made of.
-/

namespace GoFixtures.Go

open TokenReader

variable {q q' ts : List Token}

namespace TypeExpr

/-! ### Names and signatures -/

/-- What `named` reads behind the first name. -/
def namedBehind (first : Token) : TokenReader TypeExpr := do
  let base ←
    if ← accept (.mark .dot) then
      let second ← expect .identifier
      pure (qualified first.value second.value)
    else
      pure (name first.value)
  if ← at? (.opening .square) then
    skipGroup .square
    return generic base
  else
    return base

theorem named_eq_bind : named = expect .identifier >>= namedBehind := rfl

section Alike

variable (hq : q ≠ []) (hle : q.length ≤ q'.length)

include hq hle

/-- What follows the first part of a name: a point, arguments, or nothing. -/
theorem alike_namedBehind {first : Token} : Alike q q' (namedBehind first) (namedBehind first) ts := by
  have hbase (base : TypeExpr) (us : List Token) : Alike q q' (do
      if ← at? (.opening .square) then
        skipGroup .square
        return generic base
      else
        return base) (do
      if ← at? (.opening .square) then
        skipGroup .square
        return generic base
      else
        return base) us :=
    .at? (.ite (fun _ => (Alike.skipGroup hq hle).bind fun _ _ _ => .pure) fun _ => .pure)
  refine (Alike.accept hq hle).bind fun dot us _ => .ite (fun _ => ?_) fun _ => hbase _ _
  exact (Alike.expect hq hle).bind fun _ _ _ => hbase _ _

/-- A named type is read alike. -/
theorem alike_named : Alike q q' named named ts := by
  rw [named_eq_bind]
  exact (Alike.expect hq hle).bind fun _ _ _ => alike_namedBehind hq hle

variable {type type' : TokenReader TypeExpr}

/-- A signature is passed over alike if its types are read alike. -/
theorem alike_skipSignature (h : ∀ us, us <:+ ts → Alike q q' type type' us) :
    Alike q q' (skipSignature type) (skipSignature type') ts := by
  have hgroup {us : List Token} : Alike q q' (skipGroup .paren) (skipGroup .paren) us := Alike.skipGroup hq hle
  refine hgroup.bind fun _ us hus => .peekKind (.ite (fun _ => ?_) fun _ => .ite (fun _ => ?_) fun _ => .pure)
  · exact hgroup.bind fun _ _ _ => .pure
  · exact (h us (hgroup.suffix hus)).bind fun _ _ _ => .pure

end Alike

/-! ### Lines of struct bodies -/

/-- A tag, if there is one, and the end of the line. -/
def lineEnd (names : List String) (type : TypeExpr) : TokenReader (FieldDecl TypeExpr) := do
  let field ← (do
    if ← at? .string then
      let tag ← advance
      return ⟨names, type, some tag.value⟩
    else
      return ⟨names, type, none⟩ : TokenReader (FieldDecl TypeExpr))
  if !(← at? (.closing .brace)) then
    let _ ← expect (.mark .semicolon)
  skipSemicolons
  return field

/-- The line of a field behind its first name. -/
def line (type : TokenReader TypeExpr) (isEmbedded : Bool) (first : Token) : TokenReader (FieldDecl TypeExpr) :=
  if isEmbedded then do
    let t ← namedBehind first
    lineEnd [] t
  else do
    let more ← repeatWhile (· = .mark .comma) nameRound
    let t ← type
    lineEnd (first.value :: more) t

/-- A round of a structure, written out up to the first look ahead. -/
theorem fieldRound_eq (type : TokenReader TypeExpr) : entryRound .brace (field type) = (do
    let star ← accept (.mark .star)
    let isEmbedded ← isEmbeddedField
    if star then do
      let t ← named
      lineEnd [] (pointer t)
    else do
      let first ← expect .identifier
      line type isEmbedded first) := by
  unfold entryRound field
  rw [bind_assoc]
  refine congrArg (accept (.mark .star) >>= ·) (funext fun star => ?_)
  rw [bind_assoc]
  refine congrArg (isEmbeddedField >>= ·) (funext fun isEmbedded => ?_)
  cases star with
  | true =>
    simp only [if_true]
    rw [bind_assoc]
    rfl
  | false =>
    cases isEmbedded with
    | true =>
      simp only [Bool.false_eq_true, if_false, if_true]
      rw [named_eq_bind, bind_assoc, bind_assoc]
      rfl
    | false =>
      simp only [Bool.false_eq_true, if_false]
      rw [nameList_eq, bind_assoc, bind_assoc]
      refine congrArg (expect .identifier >>= ·) (funext fun first => ?_)
      rw [bind_assoc]
      refine congrArg (repeatWhile (· = .mark .comma) nameRound >>= ·) (funext fun more => ?_)
      show (type >>= _) >>= _ = _
      rw [bind_assoc]
      rfl

/-- Whether the field that begins with the tokens is taken for an embedded one. -/
def looksEmbedded (ts : List Token) : Bool :=
  if kindAt ts 0 = .identifier then
    if kindAt ts 1 = .mark .dot || endsEmbedded (kindAt ts 1) then true
    else if kindAt ts 1 = .opening .square then endsBehindGroup (ts.drop 1)
    else false
  else false

/-- A look for an embedded field takes nothing. -/
theorem isEmbeddedField_apply (ts : List Token) : isEmbeddedField ts = .ok (looksEmbedded ts, ts) := by
  unfold isEmbeddedField looksEmbedded endsBehindGroup
  cases closingOffset? 0 (ts.drop 1) with
  | none => rfl
  | some i =>
    have hkind : kindAt (ts.drop 1) (i + 1) = kindAt ts (i + 2) := by
      rw [kindAt, kindAt, List.getElem?_drop, show 1 + (i + 1) = i + 2 by omega]
    simp only [hkind]

/-! ### Behind the brackets of a line -/

section Brackets

variable {bracket first : Token} {us rest : List Token} {d : Nat} {t : TypeExpr} {f : FieldDecl TypeExpr}

/-- A token that starts a type does not end an embedded field. -/
theorem endsEmbedded_of_isStart {k : Token.Kind} (h : isStart k) : endsEmbedded k = false := by
  unfold isStart at h
  split at h <;> first | rfl | cases h

/-- What no type begins with. -/
theorem ofDepth_error (hstart : ¬ (isStart (kindAt ts 0) ∨ kindAt ts 0 = .opening .paren)) :
    ofDepth (d + 1) ts = .error ⟨.expectedType (headOf ts), (headOf ts).position⟩ := by
  rw [← Advances.headOf_kind] at hstart
  rw [ofDepth, bind_apply]
  simp only [peek]
  refine congrFun (?_ : _ = TokenReader.fail (.expectedType (headOf ts)) (headOf ts).position) ts
  split
  case h_11 => rfl
  all_goals
    rename_i hk
    rw [hk] at hstart
    exact absurd (by decide) hstart

/-- A type begins with one of the tokens that start a type, or with a parenthesis. -/
theorem isStart_of_ofDepth (h : ofDepth d ts = .ok (t, rest)) :
    isStart (kindAt ts 0) ∨ kindAt ts 0 = .opening .paren := by
  cases d with
  | zero => cases h
  | succ d =>
    by_contra hstart
    rw [ofDepth_error hstart] at h
    cases h

/-- A type in front of a bracket is a slice or an array. -/
theorem ofDepth_square (hb : bracket.kind = .opening .square) : ofDepth (d + 1) (bracket :: us) =
    (if kindAt (bracket :: us) 1 = .closing .square then do
      let _ ← advance
      let _ ← advance
      return slice (← ofDepth d)
    else do
      skipGroup .square
      return array (← ofDepth d) : TokenReader TypeExpr) (bracket :: us) := by
  rw [ofDepth, bind_apply]
  simp only [peek, headOf, hb]
  rfl

/-- Behind the brackets of a slice or an array, another type is read. -/
theorem exists_of_ofDepth_square (hb : bracket.kind = .opening .square)
    (h : ofDepth d (bracket :: us) = .ok (t, rest)) :
    ∃ d' vs t', d' < d ∧ behindGroup .square bracket.position 0 us = .ok vs ∧ ofDepth d' vs = .ok (t', rest) := by
  cases d with
  | zero => cases h
  | succ d =>
    rw [ofDepth_square hb] at h
    by_cases hclose : kindAt (bracket :: us) 1 = .closing .square
    · rw [if_pos hclose] at h
      obtain ⟨_, vs, hopener, h⟩ := exists_of_bind_ok h
      obtain ⟨_, ws, hcloser, h⟩ := exists_of_bind_ok h
      obtain ⟨t', rest', ht, h⟩ := exists_of_bind_ok h
      obtain ⟨-, rfl⟩ := Prod.mk.inj (Except.ok.inj h)
      obtain ⟨-, hvs⟩ := Prod.mk.inj (Except.ok.inj hopener)
      obtain ⟨-, hws⟩ := Prod.mk.inj (Except.ok.inj hcloser)
      cases us with
      | nil => cases hclose
      | cons c us =>
        have hc : c.kind = .closing .square := hclose
        have hgroup : behindGroup .square bracket.position 0 (c :: us) = .ok us := by
          simp [behindGroup, hc]
        have hus : ws = us := by
          cases us with
          | nil =>
            -- no type begins with the bracket that would be left
            have hleft : ws = [c] := by rw [← hws, ← hvs]; rfl
            have hstart := isStart_of_ofDepth ht
            rw [hleft, show kindAt [c] 0 = c.kind from rfl, hc] at hstart
            exact absurd hstart (by decide)
          | cons u us => rw [← hws, ← hvs]; rfl
        exact ⟨d, us, t', by omega, hgroup, hus ▸ ht⟩
    · rw [if_neg hclose] at h
      obtain ⟨_, vs, hgroup, h⟩ := exists_of_bind_ok h
      obtain ⟨t', rest', ht, h⟩ := exists_of_bind_ok h
      obtain ⟨-, rfl⟩ := Prod.mk.inj (Except.ok.inj h)
      exact ⟨d, vs, t', by omega, of_skipGroup_ok hgroup, ht⟩

/-- Behind a name, brackets hold type arguments. -/
theorem namedBehind_square (hb : bracket.kind = .opening .square) :
    namedBehind first (bracket :: us) = (skipGroup .square >>= fun _ => pure (generic (name first.value)))
      (bracket :: us) := by
  simp [namedBehind, accept, at?, bind_apply, pure_apply, kindAt, hb]

/-- What is known once type arguments have been passed over. -/
theorem behindGroup_of_namedBehind (hb : bracket.kind = .opening .square)
    (h : namedBehind first (bracket :: us) = .ok (t, rest)) :
    behindGroup .square bracket.position 0 us = .ok rest := by
  rw [namedBehind_square hb] at h
  obtain ⟨_, vs, hgroup, h⟩ := exists_of_bind_ok h
  obtain ⟨-, rfl⟩ := Prod.mk.inj (Except.ok.inj h)
  exact of_skipGroup_ok hgroup

/-- A tag or the end of the line. -/
theorem endsEmbedded_of_lineEnd {names : List String} (h : lineEnd names t ts = .ok (f, rest)) :
    endsEmbedded (kindAt ts 0) := by
  by_cases hstring : kindAt ts 0 = .string
  · rw [hstring]
    rfl
  by_cases hbrace : kindAt ts 0 = .closing .brace
  · rw [hbrace]
    rfl
  have hend : lineEnd names t ts = (expect (.mark .semicolon) >>= fun _ => skipSemicolons >>= fun _ =>
      pure ⟨names, t, none⟩) ts := by
    simp [lineEnd, at?, bind_apply, pure_apply, hstring, hbrace]
  rw [hend] at h
  obtain ⟨_, vs, hsemicolon, -⟩ := exists_of_bind_ok h
  rw [(of_expect_ok hsemicolon).1]
  rfl

/-- There is one name in front of a bracket. -/
theorem repeatWhile_nameRound_square (hb : bracket.kind = .opening .square) :
    repeatWhile (· = .mark .comma) nameRound (bracket :: us) = .ok ([], bracket :: us) := by
  have hcomma : kindAt (bracket :: us) 0 ≠ .mark .comma := by
    rw [show kindAt (bracket :: us) 0 = bracket.kind from rfl, hb]
    decide
  simp [repeatWhile, repeatFor, bind_apply, peekKind, hcomma, pure_apply]

end Brackets

section Alike

variable (hq : q ≠ []) (hle : q.length ≤ q'.length)

include hq hle

/-- The end of the line of a field is read alike. -/
theorem alike_lineEnd {names : List String} {t : TypeExpr} :
    Alike q q' (lineEnd names t) (lineEnd names t) ts := by
  refine .bind (.at? (.ite (fun _ => (Alike.advance hq hle).bind fun _ _ _ => .pure) fun _ => .pure))
    fun f us _ => .at? ?_
  split
  · exact (Alike.expect hq hle).bind fun _ _ _ => Alike.skipSemicolons.bind fun _ _ _ => .pure
  · exact Alike.skipSemicolons.bind fun _ _ _ => .pure

/-- **What stands behind the brackets of a line**: the end of the line or a tag just if the field has no name. -/
theorem exists_of_line {bracket first : Token} {us rest : List Token} {d : Nat} {f : FieldDecl TypeExpr}
    {isEmbedded : Bool}
    (hb : bracket.kind = .opening .square)
    (h : line (ofDepth d) isEmbedded first (bracket :: us) = .ok (f, rest)) :
    ∃ vs, behindGroup .square bracket.position 0 us = .ok vs ∧ isEmbedded = endsEmbedded (kindAt vs 0) ∧
      ((∀ m < d, ∀ us t rest, ofDepth m us = .ok (t, rest) → rest <:+ us) → rest <:+ vs) := by
  cases isEmbedded with
  | true =>
    obtain ⟨t, vs, ht, h⟩ := exists_of_bind_ok h
    exact ⟨vs, behindGroup_of_namedBehind hb ht, (endsEmbedded_of_lineEnd h).symm, fun _ =>
      (alike_lineEnd hq hle).suffix h⟩
  | false =>
    obtain ⟨more, ws, hmore, h⟩ := exists_of_bind_ok h
    rw [repeatWhile_nameRound_square hb] at hmore
    obtain ⟨rfl, rfl⟩ := Prod.mk.inj (Except.ok.inj hmore)
    obtain ⟨t, xs, ht, h⟩ := exists_of_bind_ok h
    obtain ⟨d', vs, t', hd', hgroup, ht'⟩ := exists_of_ofDepth_square hb ht
    have hno : endsEmbedded (kindAt vs 0) = false := by
      rcases isStart_of_ofDepth ht' with hstart | hparen
      · exact endsEmbedded_of_isStart hstart
      · rw [hparen]
        rfl
    exact ⟨vs, hgroup, hno.symm, fun hs => ((alike_lineEnd hq hle).suffix h).trans (hs d' hd' vs t' xs ht')⟩

/-- Two lines with the same tokens up to `q` both declare a name, or neither does. -/
theorem isEmbedded_eq_of_lines {bracket first first' : Token} {more p' rest' : List Token} {d d' : Nat}
    {f f' : FieldDecl TypeExpr}
    {isEmbedded isEmbedded' : Bool} (hb : bracket.kind = .opening .square)
    (hs : ∀ m < d, ∀ us t rest, ofDepth m us = .ok (t, rest) → rest <:+ us) (hne : p' ≠ [])
    (h : line (ofDepth d) isEmbedded first (bracket :: (more ++ q)) = .ok (f, p' ++ q))
    (h' : line (ofDepth d') isEmbedded' first' (bracket :: (more ++ q')) = .ok (f', rest')) :
    isEmbedded = isEmbedded' := by
  obtain ⟨vs, hgroup, hembedded, hrest⟩ := exists_of_line hq hle hb h
  obtain ⟨vs', hgroup', hembedded', -⟩ := exists_of_line hq hle hb h'
  obtain ⟨p'', rfl, hne'', -, -⟩ := exists_front (behindGroup_suffix hgroup) (hrest hs) hne
  obtain rfl : p'' ++ q' = vs' := Except.ok.inj ((Alike.behindGroup_append hne'' hgroup).symm.trans hgroup')
  rw [hembedded, hembedded', Alike.kindAt_zero hne'' List.suffix_rfl]

/-- The line of a field is read alike if its type is. -/
theorem alike_line {type type' : TokenReader TypeExpr} {isEmbedded : Bool} {first : Token}
    (h : ∀ us, us <:+ ts → Alike q q' type type' us) :
    Alike q q' (line type isEmbedded first) (line type' isEmbedded first) ts := by
  have hround (us : List Token) : Alike q q' nameRound nameRound us :=
    (Alike.advance hq hle).bind fun _ _ _ => (Alike.expect hq hle).bind fun _ _ _ => .pure
  refine .ite (fun _ => ?_) fun _ => ?_
  · exact (alike_namedBehind hq hle).bind fun _ _ _ => alike_lineEnd hq hle
  · have hmore :
        Alike q q' (repeatWhile (· = .mark .comma) nameRound) (repeatWhile (· = .mark .comma) nameRound) ts :=
      .repeatWhile hle fun us _ => hround us
    exact hmore.bind fun _ us hus => (h us (hmore.suffix hus)).bind fun _ _ _ => alike_lineEnd hq hle

/-- **A line of a struct body.** Where the look behind its name is misled, the line is not read. -/
theorem alike_fieldRound {d d' : Nat} (hs : ∀ m < d, ∀ us t rest, ofDepth m us = .ok (t, rest) → rest <:+ us)
    (h : ∀ us, us <:+ ts → Alike q q' (ofDepth d) (ofDepth d') us) :
    Alike q q' (entryRound .brace (field (ofDepth d))) (entryRound .brace (field (ofDepth d'))) ts := by
  rw [fieldRound_eq, fieldRound_eq]
  have haccept : Alike q q' (accept (.mark .star)) (accept (.mark .star)) ts := .accept hq hle
  refine haccept.bind fun star us hus => ?_
  cases star with
  | true =>
    -- the look does not matter
    have hlook {r : TokenReader (FieldDecl TypeExpr)} : (isEmbeddedField >>= fun _ => r) = r := by
      funext vs
      rw [bind_apply, isEmbeddedField_apply]
    simp only [if_true, hlook]
    exact (alike_named hq hle).bind fun _ _ _ => alike_lineEnd hq hle
  | false =>
    simp only [Bool.false_eq_true, if_false]
    have hline (isEmbedded : Bool) (vs : List Token) (hvs : vs <:+ us) (first : Token) :
        Alike q q' (line (ofDepth d) isEmbedded first) (line (ofDepth d') isEmbedded first) vs :=
      alike_line hq hle fun ws hws => h ws (hws.trans (hvs.trans (haccept.suffix hus)))
    have hexpect : Alike q q' (expect .identifier) (expect .identifier) us := .expect hq hle
    refine .lookFar isEmbeddedField_apply (fun p p' f hp hne hsuffix hf => ?_)
      (hexpect.bind fun first vs hvs => hline _ vs (hexpect.suffix hvs) first)
    obtain ⟨first, vs, hfirst, hf⟩ := exists_of_bind_ok hf
    obtain ⟨hname, -, rfl⟩ := of_expect_ok hfirst
    subst hp
    match p with
    | [] => exact absurd (List.suffix_nil.1 hsuffix) hne
    | [x] =>
      -- the name is taken, so nothing is left in front of `q`
      have hleft := (hline _ _ behind_suffix first).suffix hf
      rw [show behind ([x] ++ q) = q from (Alike.behind_append hq hle (t := x) (p := [])).1] at hleft
      exact absurd hleft (not_append_suffix hne)
    | x :: bracket :: more =>
      by_cases hsame : looksEmbedded (x :: bracket :: more ++ q') = looksEmbedded (x :: bracket :: more ++ q)
      · exact .inl hsame
      have hx : x.kind = .identifier := hname
      have hb : bracket.kind = .opening .square := by
        by_contra hb
        exact hsame (by simp [looksEmbedded, kindAt, hb])
      have hlook (r : List Token) : looksEmbedded (x :: bracket :: more ++ r) =
          endsBehindGroup (bracket :: more ++ r) := by
        simp [looksEmbedded, kindAt, hx, hb, endsEmbedded]
      refine .inr ⟨⟨x, bracket, more, List.suffix_rfl, hx, hb, by rwa [hlook, hlook] at hsame⟩, ?_⟩
      cases hother : (expect .identifier >>= line (ofDepth d') (looksEmbedded (x :: bracket :: more ++ q')))
          (x :: bracket :: more ++ q') with
      | error e => exact ⟨e, rfl⟩
      | ok found =>
        obtain ⟨first', vs', hfirst', hf'⟩ := exists_of_bind_ok hother
        obtain ⟨-, -, rfl⟩ := of_expect_ok hfirst'
        exact absurd (isEmbedded_eq_of_lines hq hle hb hs hne hf hf').symm hsame

/-! ### Types -/

/-- A structure is read alike one level above types that are. -/
theorem alike_structType {d d' : Nat} (hs : ∀ m < d, ∀ us t rest, ofDepth m us = .ok (t, rest) → rest <:+ us)
    (h : ∀ us, us <:+ ts → Alike q q' (ofDepth d) (ofDepth d') us) :
    Alike q q' (structType (ofDepth d)) (structType (ofDepth d')) ts := by
  have hexpect {k : Token.Kind} {us : List Token} : Alike q q' (expect k) (expect k) us := .expect hq hle
  have hsemicolons {us : List Token} : Alike q q' skipSemicolons skipSemicolons us := .skipSemicolons
  refine hexpect.bind fun _ us hus => hexpect.bind fun _ vs hvs => hsemicolons.bind fun _ ws hws => ?_
  have hws' : ws <:+ ts := (hsemicolons.suffix hws).trans ((hexpect.suffix hvs).trans (hexpect.suffix hus))
  have hfields : Alike q q' (entries .brace (field (ofDepth d))) (entries .brace (field (ofDepth d'))) ws := by
    rw [entries_eq, entries_eq]
    exact .repeatWhile hle fun xs hxs => alike_fieldRound hq hle hs fun ys hys =>
      h ys (hys.trans (hxs.trans hws'))
  exact hfields.bind fun _ _ _ => hexpect.bind fun _ _ _ => .pure

omit hq hle in
/-- A line of an interface body. What comes behind its first token matters only if that is a name, and names
are taken. -/
theorem alike_member : Alike q q' member member ts := by
  have hmember : member = (do
      let t ← peek
      let isMethod ← fun us => .ok (t.kind = .identifier && kindAt us 1 = .opening .paren, us)
      skipUntil endsMember
      skipSemicolons
      return if isMethod then some t.value else none) := rfl
  have hskip (isMethod : Bool) (t : Token) : Alike q q' (do
      skipUntil endsMember
      skipSemicolons
      return if isMethod then some t.value else none) (do
      skipUntil endsMember
      skipSemicolons
      return if isMethod then some t.value else none) ts :=
    Alike.skipUntil.bind fun _ _ _ => Alike.skipSemicolons.bind fun _ _ _ => .pure
  rw [hmember]
  refine .peek
    (.look (g := fun us => (headOf ts).kind = .identifier && kindAt us 1 = .opening .paren) (fun _ => rfl)
    (fun p p' name hp hne hsuffix h => ?_) (hskip _ _))
  subst hp
  match p with
  | [] => exact absurd (List.suffix_nil.1 hsuffix) hne
  | [x] =>
    by_cases hx : x.kind = .identifier
    · obtain ⟨_, us, hus, h⟩ := exists_of_bind_ok h
      have hstop : untilStop endsMember 0 ([x] ++ q) = untilStop endsMember 0 q := by
        simp [untilStop, hx, endsMember]
      obtain ⟨-, rfl⟩ := Prod.mk.inj (Except.ok.inj hus)
      obtain ⟨_, vs, hvs, h⟩ := exists_of_bind_ok h
      obtain ⟨-, rfl⟩ := Prod.mk.inj (Except.ok.inj hvs)
      obtain ⟨-, hrest⟩ := Prod.mk.inj (Except.ok.inj h)
      rw [hstop] at hrest
      exact absurd (hrest ▸ (List.dropWhile_suffix _).trans untilStop_suffix) (not_append_suffix hne)
    · have hhead : decide ((headOf ([x] ++ q)).kind = .identifier) = false := decide_eq_false hx
      rw [hhead, Bool.false_and, Bool.false_and]
  | x :: y :: more => rfl

/-- An interface has no look ahead in it. -/
theorem alike_interfaceType : Alike q q' interfaceType interfaceType ts := by
  have hexpect {k : Token.Kind} {us : List Token} : Alike q q' (expect k) (expect k) us := .expect hq hle
  refine hexpect.bind fun _ us _ => hexpect.bind fun _ vs _ => Alike.skipSemicolons.bind fun _ ws _ => ?_
  have hmembers : Alike q q' (repeatWhile (fun k => k ≠ .closing .brace && k ≠ .endOfFile) member)
      (repeatWhile (fun k => k ≠ .closing .brace && k ≠ .endOfFile) member) ws :=
    .repeatWhile hle fun xs _ => alike_member
  exact hmembers.bind fun _ _ _ => hexpect.bind fun _ _ _ => .pure

/-- Slices and arrays, in front of a bracket. -/
theorem alike_square {d d' : Nat} (h : ∀ us, us <:+ ts → Alike q q' (ofDepth d) (ofDepth d') us) :
    Alike q q' (do
      if (← peekKind 1) = .closing .square then
        let _ ← advance
        let _ ← advance
        return slice (← ofDepth d)
      else
        skipGroup .square
        return array (← ofDepth d)) (do
      if (← peekKind 1) = .closing .square then
        let _ ← advance
        let _ ← advance
        return slice (← ofDepth d')
      else
        skipGroup .square
        return array (← ofDepth d')) ts := by
  have hadvance {us : List Token} : Alike q q' advance advance us := .advance hq hle
  have hgroup : Alike q q' (skipGroup .square) (skipGroup .square) ts := .skipGroup hq hle
  have hslice (us : List Token) (hus : us <:+ ts) : Alike q q' (do let _ ← advance; return slice (← ofDepth d))
      (do let _ ← advance; return slice (← ofDepth d')) us :=
    hadvance.bind fun _ vs hvs => (h vs ((hadvance.suffix hvs).trans hus)).bind fun _ _ _ => .pure
  have harray (us : List Token) (hus : us <:+ ts) :
      Alike q q' (do return array (← ofDepth d)) (do return array (← ofDepth d')) us :=
    (h us hus).bind fun _ _ _ => .pure
  refine .look (g := (kindAt · 1)) (fun _ => rfl) (fun p p' t hp hne hsuffix ht => ?_)
    (.ite (fun _ => ?_) fun _ => ?_)
  · subst hp
    match p with
    | [] => exact absurd (List.suffix_nil.1 hsuffix) hne
    | [x] =>
      -- the bracket is taken, so nothing is left in front of `q`
      refine absurd (?_ : p' ++ q <:+ q) (not_append_suffix hne)
      by_cases hclose : kindAt ([x] ++ q) 1 = .closing .square
      · rw [if_pos hclose] at ht
        obtain ⟨_, us, hus, ht⟩ := exists_of_bind_ok ht
        obtain ⟨-, rfl⟩ := Prod.mk.inj (Except.ok.inj hus)
        have hleft := (hslice _ behind_suffix).suffix ht
        rwa [show behind ([x] ++ q) = q from (Alike.behind_append hq hle (t := x) (p := [])).1] at hleft
      · rw [if_neg hclose] at ht
        obtain ⟨_, us, hus, ht⟩ := exists_of_bind_ok ht
        exact ((harray us (hgroup.suffix hus)).suffix ht).trans (behindGroup_suffix (of_skipGroup_ok hus))
    | x :: y :: more => rfl
  · exact hadvance.bind fun _ us hus => hslice us (hadvance.suffix hus)
  · exact hgroup.bind fun _ us hus => harray us (hgroup.suffix hus)

/-- **A type**, with as much depth at least. -/
theorem alike_ofDepth {d d' : Nat} (hd : d ≤ d') : Alike q q' (ofDepth d) (ofDepth d') ts := by
  induction d using Nat.strong_induction_on generalizing d' ts with
  | _ d ih =>
    cases d with
    | zero => exact .stall
    | succ d =>
      obtain ⟨d', rfl⟩ : ∃ m, d' = m + 1 := ⟨d' - 1, by omega⟩
      have hnext {us : List Token} : Alike q q' (ofDepth d) (ofDepth d') us := ih d (by omega) (by omega)
      have hexpect {k : Token.Kind} {us : List Token} : Alike q q' (expect k) (expect k) us := .expect hq hle
      have hadvance {us : List Token} : Alike q q' advance advance us := .advance hq hle
      have hsuffix (m : Nat) (hm : m < d) (us : List Token) (t : TypeExpr) (rest : List Token)
          (h : ofDepth m us = .ok (t, rest)) : rest <:+ us :=
        (ih m (by omega) le_rfl).suffix h
      refine .peek ?_
      split
      · exact alike_named hq hle
      · exact hadvance.bind fun _ _ _ => hnext.bind fun _ _ _ => .pure
      · exact alike_square hq hle fun _ _ => hnext
      · refine hadvance.bind fun _ _ _ => hexpect.bind fun _ _ _ => hnext.bind fun key _ _ => ?_
        exact hexpect.bind fun _ _ _ => hnext.bind fun _ _ _ => .pure
      · exact hadvance.bind fun _ _ _ => (Alike.accept hq hle).bind fun _ _ _ => hnext.bind fun _ _ _ => .pure
      · exact hadvance.bind fun _ _ _ => hexpect.bind fun _ _ _ => hnext.bind fun _ _ _ => .pure
      · exact hadvance.bind fun _ _ _ => (alike_skipSignature hq hle fun _ _ => hnext).bind fun _ _ _ => .pure
      · exact alike_structType hq hle hsuffix fun _ _ => hnext
      · exact alike_interfaceType hq hle
      · exact hadvance.bind fun _ _ _ => hnext.bind fun _ _ _ => hexpect.bind fun _ _ _ => .pure
      · exact .fail

/-- A type is read alike, however deep it is nested. -/
theorem alike_reader : Alike q q' reader reader ts := by
  have hdepth {d : Nat} (hd : ts.length ≤ d) : Alike q q' (ofDepth ts.length) (ofDepth d) ts :=
    alike_ofDepth hq hle hd
  refine ⟨(hdepth le_rfl).suffix, (hdepth le_rfl).same, fun {p p' t} hp hne h => ?_⟩
  have hlen : ts.length ≤ (p ++ q').length := by
    rw [hp, List.length_append, List.length_append]
    omega
  exact (hdepth hlen).agrees hp hne h

end Alike

end TypeExpr

namespace SourceFile

variable (hq : q ≠ []) (hle : q.length ≤ q'.length)

include hq hle

/-! ### Declarations -/

/-- An import is read alike. -/
theorem alike_importSpec : Alike q q' importSpec importSpec ts := by
  have hexpect {k : Token.Kind} {us : List Token} : Alike q q' (expect k) (expect k) us := .expect hq hle
  refine .peekKind (.ite (fun _ => ?_) fun _ => ?_)
  · exact (Alike.advance hq hle).bind fun _ _ _ => hexpect.bind fun _ _ _ => .pure
  · exact hexpect.bind fun _ _ _ => .pure

/-- The type of a declaration and what stands before it, behind the name and type parameters. -/
def specBehind (name : Token) (isGeneric : Bool) : TokenReader TypeSpec := do
  let isAlias ← accept (.mark .assign)
  let type ← TypeExpr.reader
  return ⟨name.value, type, name.position.line, isGeneric, isAlias⟩

/-- What `typeSpec` reads behind the name. -/
def specBody (name : Token) (isGeneric : Bool) : TokenReader TypeSpec := do
  if isGeneric then skipGroup .square
  specBehind name isGeneric

omit hq hle in
/-- A type declaration, up to the look for type parameters. -/
theorem typeSpec_eq : typeSpec = (do
    let name ← expect .identifier
    let isGeneric ← atTypeParameters
    specBody name isGeneric) := rfl

/-- What follows the name of a declared type is read alike. -/
theorem alike_specBehind {name : Token} {isGeneric : Bool} :
    Alike q q' (specBehind name isGeneric) (specBehind name isGeneric) ts :=
  (Alike.accept hq hle).bind fun _ _ _ => (TypeExpr.alike_reader hq hle).bind fun _ _ _ => .pure

/-- Brackets behind the name of a declaration are taken, whatever they hold. -/
theorem exists_of_specBody {name bracket : Token} {isGeneric : Bool} {us rest : List Token} {spec : TypeSpec}
    (hb : bracket.kind = .opening .square) (h : specBody name isGeneric (bracket :: us) = .ok (spec, rest)) :
    ∃ vs, behindGroup .square bracket.position 0 us = .ok vs ∧ rest <:+ vs := by
  cases isGeneric with
  | true =>
    obtain ⟨_, vs, hgroup, h⟩ := exists_of_bind_ok h
    exact ⟨vs, of_skipGroup_ok hgroup, (alike_specBehind hq hle).suffix h⟩
  | false =>
    have haccept : accept (.mark .assign) (bracket :: us) = .ok (false, bracket :: us) := by
      simp [accept, at?, bind_apply, pure_apply, kindAt, hb]
    obtain ⟨_, vs, hvs, h⟩ := exists_of_bind_ok h
    obtain ⟨-, rfl⟩ := Prod.mk.inj (Except.ok.inj (haccept.symm.trans hvs))
    obtain ⟨t, ws, ht, h⟩ := exists_of_bind_ok h
    obtain ⟨-, rfl⟩ := Prod.mk.inj (Except.ok.inj h)
    obtain ⟨d, vs, t', -, hgroup, ht'⟩ := TypeExpr.exists_of_ofDepth_square hb ht
    exact ⟨vs, hgroup, (TypeExpr.alike_ofDepth hq hle le_rfl).suffix ht'⟩

/-- A type declaration. Whether its brackets hold type parameters is seen inside them. -/
theorem alike_typeSpec : Alike q q' typeSpec typeSpec ts := by
  rw [typeSpec_eq]
  refine (Alike.expect hq hle).bind fun name us _ => ?_
  refine .look (g := fun us => kindAt us 0 = .opening .square && kindAt us 1 = .identifier &&
    followsTypeParameter (kindAt us 2))
    (fun _ => rfl) (fun p p' spec hp hne hsuffix h => ?_) ?_
  · subst hp
    match p with
    | [] => exact absurd (List.suffix_nil.1 hsuffix) hne
    | x :: more =>
      by_cases hx : x.kind = .opening .square
      · obtain ⟨vs, hgroup, hrest⟩ := exists_of_specBody hq hle hx h
        match more with
        | [] => exact absurd (hrest.trans (behindGroup_suffix hgroup)) (not_append_suffix hne)
        | [y] =>
          by_cases hy : y.kind = .identifier
          · have hname : behindGroup .square x.position 0 (y :: q) = behindGroup .square x.position 0 q := by
              rw [behindGroup]
              simp [hy]
            have hgroup : behindGroup .square x.position 0 q = .ok vs := hname ▸ hgroup
            exact absurd (hrest.trans (behindGroup_suffix hgroup)) (not_append_suffix hne)
          · simp [kindAt, hy]
        | y :: z :: more => rfl
      · simp [kindAt, hx]
  · have hgroup : Alike q q' (skipGroup .square) (skipGroup .square) us := .skipGroup hq hle
    exact .ite (fun _ => hgroup.bind fun _ _ _ => alike_specBehind hq hle) fun _ => alike_specBehind hq hle

/-- A constant declaration is read alike. -/
theorem alike_constSpec : Alike q q' constSpec constSpec ts := by
  refine .peek ((Alike.nameList hq hle).bind fun names us _ => ?_)
  have hvalues (type : Option TypeExpr) (vs : List Token) : Alike q q' (do
      let hasValues ← accept (.mark .assign)
      if hasValues then skipUntil endsConstValues
      return (⟨names, type, hasValues, (headOf ts).position.line⟩ : ConstSpec)) (do
      let hasValues ← accept (.mark .assign)
      if hasValues then skipUntil endsConstValues
      return (⟨names, type, hasValues, (headOf ts).position.line⟩ : ConstSpec)) vs :=
    (Alike.accept hq hle).bind fun _ _ _ => .ite (fun _ => Alike.skipUntil.bind fun _ _ _ => .pure) fun _ => .pure
  refine .peekKind (.ite (fun _ => hvalues _ _) fun _ => ?_)
  exact (TypeExpr.alike_reader hq hle).bind fun _ _ _ => hvalues _ _

/-- Variables are passed over alike. -/
theorem alike_varDecl : Alike q q' varDecl varDecl ts :=
  (Alike.expect hq hle).bind fun _ _ _ => .at? (.ite (fun _ => .skipGroup hq hle) fun _ => .skipUntil)

/-- A function is passed over alike. -/
theorem alike_funcDecl : Alike q q' funcDecl funcDecl ts := by
  have hgroup {b : Bracket} {us : List Token} : Alike q q' (skipGroup b) (skipGroup b) us := .skipGroup hq hle
  have hsignature (us : List Token) : Alike q q' (do
      TypeExpr.skipSignature TypeExpr.reader
      if ← at? (.opening .brace) then skipGroup .brace) (do
      TypeExpr.skipSignature TypeExpr.reader
      if ← at? (.opening .brace) then skipGroup .brace) us :=
    (TypeExpr.alike_skipSignature hq hle fun _ _ => TypeExpr.alike_reader hq hle).bind fun _ _ _ =>
      .at? (.ite (fun _ => hgroup) fun _ => .pure)
  have hname (us : List Token) : Alike q q' (do
      let _ ← expect .identifier
      if ← at? (.opening .square) then skipGroup .square
      TypeExpr.skipSignature TypeExpr.reader
      if ← at? (.opening .brace) then skipGroup .brace) (do
      let _ ← expect .identifier
      if ← at? (.opening .square) then skipGroup .square
      TypeExpr.skipSignature TypeExpr.reader
      if ← at? (.opening .brace) then skipGroup .brace) us :=
    (Alike.expect hq hle).bind fun _ _ _ =>
      .at? (.ite (fun _ => hgroup.bind fun _ _ _ => hsignature _) fun _ => hsignature _)
  exact (Alike.expect hq hle).bind fun _ _ _ =>
    .at? (.ite (fun _ => hgroup.bind fun _ _ _ => hname _) fun _ => hname _)

end SourceFile

end GoFixtures.Go
