import GoFixtures.Proofs.Go.Lookahead

/-!
# Rows of declarations

A file is a package clause and two rows, the imports and the other declarations, each declaration with a
semicolon behind it. A loop reads a row one declaration after the other and goes on with what stands behind
the row.

* `Terminated`: a row, in front of what follows it, with what its declarations are read as.
* `Terminated.repeatFor`: the loop reads the row.
* `Terminated.carry`: the row in front of something else.
* `SourceFile.ofTokens_rows`: a file, row by row.
-/

namespace GoFixtures.Go

open TokenReader TypeExpr

variable {α : Type} {item : TokenReader α} {goesOn : Token.Kind → Bool} {q q' ts : List Token} {a : α}
    {as bs : List α} {n : Nat}

/-- The tokens behind semicolons. -/
def pastSemicolons (ts : List Token) : List Token := ts.dropWhile (·.kind = .mark .semicolon)

/-- A semicolon is passed over. -/
theorem pastSemicolons_cons {t : Token} (h : t.kind = .mark .semicolon) :
    pastSemicolons (t :: ts) = pastSemicolons ts := by
  simp [pastSemicolons, h]

/-- There is nothing to be passed over in front of anything else. -/
theorem pastSemicolons_eq_self (h : kindAt ts 0 ≠ .mark .semicolon) : pastSemicolons ts = ts := by
  cases ts with
  | nil => rfl
  | cons t ts =>
    have ht : t.kind ≠ .mark .semicolon := h
    simp [pastSemicolons, ht]

theorem pastSemicolons_cons_of_ne {t : Token} (h : t.kind ≠ .mark .semicolon) :
    pastSemicolons (t :: ts) = t :: ts :=
  pastSemicolons_eq_self h

/-- The first token that is no semicolon. -/
theorem kindAt_pastSemicolons_ne {k : Token.Kind} (h : kindAt (pastSemicolons (ts ++ q)) 0 ≠ k)
    (h' : kindAt (pastSemicolons q') 0 ≠ k) :
    kindAt (pastSemicolons (ts ++ q')) 0 ≠ k := by
  induction ts with
  | nil => exact h'
  | cons t ts ih =>
    by_cases ht : t.kind = .mark .semicolon
    · rw [List.cons_append, pastSemicolons_cons ht] at h ⊢
      exact ih h
    · rw [List.cons_append, pastSemicolons_cons_of_ne ht] at h ⊢
      exact h

/-- More tokens, of which the first is no semicolon. -/
theorem length_pastSemicolons_lt {d : List Token} (hd : d ≠ []) (hfirst : kindAt (d ++ q) 0 ≠ .mark .semicolon) :
    (pastSemicolons (ts ++ q)).length < (pastSemicolons (ts ++ (d ++ q))).length := by
  have hpos := List.length_pos_of_ne_nil hd
  induction ts with
  | nil =>
    have hlen := (List.dropWhile_suffix (l := q) fun t : Token => t.kind = .mark .semicolon).length_le
    rw [List.nil_append, List.nil_append, pastSemicolons_eq_self hfirst, pastSemicolons, List.length_append]
    omega
  | cons t ts ih =>
    by_cases ht : t.kind = .mark .semicolon
    · rwa [List.cons_append, List.cons_append, pastSemicolons_cons ht, pastSemicolons_cons ht]
    · rw [List.cons_append, List.cons_append, pastSemicolons_cons_of_ne ht, pastSemicolons_cons_of_ne ht]
      simp only [List.length_cons, List.length_append]
      omega

/-- Reads an item and what ends it. -/
def ended (item : TokenReader α) : TokenReader α := do
  let a ← item
  expectTerminator
  skipSemicolons
  return a

/-- The tokens are a row of items in front of `q`, each with a semicolon behind it; more semicolons may stand
between them. The items are read as `as`. -/
inductive Terminated (item : TokenReader α) (q : List Token) : List Token → List α → Prop
  | nil : Terminated item q [] []
  | semicolon {t : Token} {ts : List Token} {as : List α} (ht : t.kind = .mark .semicolon)
      (h : Terminated item q ts as) :
      Terminated item q (t :: ts) as
  | item {p : List Token} {t : Token} {ts : List Token} {a : α} {as : List α} (ht : t.kind = .mark .semicolon)
      (ha : item (p ++ t :: (ts ++ q)) = .ok (a, t :: (ts ++ q))) (h : Terminated item q ts as) :
      Terminated item q (p ++ t :: ts) (a :: as)

/-- The item begins with a token that the loop goes on with, and that is no semicolon. -/
def Opens (goesOn : Token.Kind → Bool) (item : TokenReader α) : Prop :=
  ∀ ts a rest, item ts = .ok (a, rest) → goesOn (kindAt ts 0) ∧ kindAt ts 0 ≠ .mark .semicolon

/-- A declaration that has been read takes the semicolons behind it. -/
theorem ended_ok {t : Token} {us : List Token} (ht : t.kind = .mark .semicolon) (hne : us ≠ [])
    (h : item ts = .ok (a, t :: us)) :
    ended item ts = .ok (a, pastSemicolons us) := by
  obtain ⟨u, us, rfl⟩ := List.exists_cons_of_ne_nil hne
  rw [ended, bind_apply, h]
  simp [expectTerminator, bind_apply, at?, kindAt, ht, expect, peek, headOf, advance, behind, pure_apply,
    skipSemicolons, pastSemicolons]

/-- One round of the loop. -/
theorem repeatFor_item {p us : List Token} {t : Token} (hopens : Opens goesOn item)
    (ht : t.kind = .mark .semicolon) (hne : us ≠ [])
    (ha : item (p ++ t :: us) = .ok (a, t :: us)) : repeatFor goesOn (ended item) (n + 1)
      (pastSemicolons (p ++ t :: us)) =
      (repeatFor goesOn (ended item) n (pastSemicolons us)).map fun found => (a :: found.1, found.2) := by
  obtain ⟨hgo, hsemi⟩ := hopens _ _ _ ha
  rw [pastSemicolons_eq_self hsemi, TokenReader.repeatFor, bind_apply]
  simp only [peekKind, hgo, if_true]
  rw [bind_apply, ended_ok ht hne ha]
  simp only
  rw [bind_apply]
  cases repeatFor goesOn (ended item) n (pastSemicolons us) <;> rfl

/-- The loop does not end well. -/
def Breaks (goesOn : Token.Kind → Bool) (item : TokenReader α) (ts : List Token) : Prop :=
  ∀ n, ∃ e, repeatFor goesOn (ended item) n (pastSemicolons ts) = .error e

/-- A loop without rounds fails if it is to go on. -/
theorem repeatFor_zero (h : goesOn (kindAt ts 0)) : ∃ e, repeatFor goesOn (ended item) 0 ts = .error e := by
  rw [repeatFor, bind_apply]
  simp only [peekKind, h, if_true]
  exact ⟨_, rfl⟩

/-- A declaration that cannot be read breaks the row. -/
theorem breaks_of_error {e : ParseError} (hgo : goesOn (kindAt ts 0)) (hsemi : kindAt ts 0 ≠ .mark .semicolon)
    (h : item ts = .error e) :
    Breaks goesOn item ts := by
  intro n
  rw [pastSemicolons_eq_self hsemi]
  cases n with
  | zero => exact repeatFor_zero hgo
  | succ n =>
    rw [repeatFor, bind_apply]
    simp only [peekKind, hgo, if_true]
    rw [bind_apply, ended, bind_apply, h]
    exact ⟨e, rfl⟩

/-- A row breaks behind a declaration if it breaks there. -/
theorem breaks_of_item {p us : List Token} {t : Token} (hopens : Opens goesOn item)
    (ht : t.kind = .mark .semicolon) (hne : us ≠ [])
    (ha : item (p ++ t :: us) = .ok (a, t :: us)) (h : Breaks goesOn item us) :
    Breaks goesOn item (p ++ t :: us) := by
  intro n
  cases n with
  | zero =>
    obtain ⟨hgo, hsemi⟩ := hopens _ _ _ ha
    rw [pastSemicolons_eq_self hsemi]
    exact repeatFor_zero hgo
  | succ n =>
    obtain ⟨e, he⟩ := h n
    rw [repeatFor_item hopens ht hne ha, he]
    exact ⟨e, rfl⟩

namespace Terminated

/-- A row in front of another one. -/
theorem append {us : List Token} (h : Terminated item (us ++ q) ts as) (h' : Terminated item q us bs) :
    Terminated item q (ts ++ us) (as ++ bs) := by
  induction h with
  | nil => exact h'
  | semicolon ht _ ih => exact .semicolon ht ih
  | @item p t ts a as ht ha _ ih =>
    rw [List.append_assoc, List.cons_append]
    exact .item ht (by rwa [List.append_assoc]) ih

/-- **The loop reads the row** and goes on behind it. -/
theorem repeatFor (hopens : Opens goesOn item) (hq : q ≠ []) (h : Terminated item q ts as) :
    repeatFor goesOn (ended item) (as.length + n) (pastSemicolons (ts ++ q)) =
      (repeatFor goesOn (ended item) n (pastSemicolons q)).map fun found => (as ++ found.1, found.2) := by
  induction h with
  | nil =>
    rw [List.length_nil, Nat.zero_add, List.nil_append]
    cases TokenReader.repeatFor goesOn (ended item) n (pastSemicolons q) <;> rfl
  | semicolon ht _ ih => rw [List.cons_append, pastSemicolons_cons ht, ih]
  | @item p t ts a as ht ha _ ih =>
    have hround := repeatFor_item (n := as.length + n) hopens ht (List.append_ne_nil_of_right_ne_nil ts hq) ha
    rw [List.append_assoc, List.cons_append, List.length_cons, Nat.add_right_comm, hround, ih]
    cases TokenReader.repeatFor goesOn (ended item) n (pastSemicolons q) <;> rfl

/-- Where the loop breaks behind the row, it breaks. -/
theorem breaks (hopens : Opens goesOn item) (hq : q ≠ []) (h : Terminated item q ts as)
    (hbreaks : Breaks goesOn item q) :
    Breaks goesOn item (ts ++ q) := by
  induction h with
  | nil => exact hbreaks
  | @semicolon t ts as ht _ ih =>
    intro n
    rw [List.cons_append, pastSemicolons_cons ht]
    exact ih n
  | @item p t ts a as ht ha _ ih =>
    rw [List.append_assoc, List.cons_append]
    exact breaks_of_item hopens ht (List.append_ne_nil_of_right_ne_nil ts hq) ha ih

/-- A row ends with a semicolon. -/
theorem getLast? (h : Terminated item q ts as) {t : Token} (ht : ts.getLast? = some t) :
    t.kind = .mark .semicolon := by
  induction h with
  | nil => cases ht
  | @semicolon u ts as hu _ ih =>
    cases ts with
    | nil => exact Option.some.inj ht ▸ hu
    | cons v ts =>
      rw [List.getLast?_cons_cons] at ht
      exact ih ht
  | @item p u ts a as hu _ _ ih =>
    rw [List.getLast?_append_of_ne_nil p (List.cons_ne_nil u ts)] at ht
    cases ts with
    | nil => exact Option.some.inj ht ▸ hu
    | cons v ts =>
      rw [List.getLast?_cons_cons] at ht
      exact ih ht

/-- There are tokens enough for the rounds. -/
theorem length_le (hopens : Opens goesOn item) (h : Terminated item q ts as) :
    as.length ≤ (pastSemicolons (ts ++ q)).length := by
  induction h with
  | nil => exact Nat.zero_le _
  | semicolon ht _ ih => rwa [List.cons_append, pastSemicolons_cons ht]
  | @item p t ts a as ht ha _ ih =>
    have hlen := (List.dropWhile_suffix (l := ts ++ q) fun t : Token => t.kind = .mark .semicolon).length_le
    rw [List.append_assoc, List.cons_append, pastSemicolons_eq_self (hopens _ _ _ ha).2]
    rw [pastSemicolons] at ih
    simp only [List.length_append, List.length_cons] at hlen ih ⊢
    omega

/-- **A row in front of something else** is read alike, or one of its items is misled and the loop ends in an
error. -/
theorem carry (hopens : Opens goesOn item) (hq' : q' ≠ []) (halike : ∀ us, Alike q q' item item us)
    (h : Terminated item q ts as) :
    Terminated item q' ts as ∨ Misled q q' ts ∧ Breaks goesOn item (ts ++ q') := by
  induction h with
  | nil => exact .inl .nil
  | @semicolon t ts as ht _ ih =>
    rcases ih with ih | ⟨hmisled, hbreaks⟩
    · exact .inl (.semicolon ht ih)
    · refine .inr ⟨hmisled.of_suffix (List.suffix_cons t ts), fun n => ?_⟩
      rw [List.cons_append, pastSemicolons_cons ht]
      exact hbreaks n
  | @item p t ts a as ht ha _ ih =>
    have hsplit (r : List Token) : p ++ t :: (ts ++ r) = p ++ t :: ts ++ r := by
      rw [List.append_assoc, List.cons_append]
    obtain ⟨hgo, hsemi⟩ := hopens _ _ _ ha
    have hfirst : kindAt (p ++ t :: (ts ++ q')) 0 = kindAt (p ++ t :: (ts ++ q)) 0 := by
      rw [hsplit, hsplit]
      exact Alike.kindAt_zero (List.cons_ne_nil t ts) (List.suffix_append p _)
    rcases (halike _).agrees (hsplit q) (List.cons_ne_nil t ts) ha with ha' | ⟨hmisled, e, he⟩
    · have ha' : item (p ++ t :: (ts ++ q')) = .ok (a, t :: (ts ++ q')) := by
        rw [hsplit]
        exact ha'
      rcases ih with ih | ⟨hmisled, hbreaks⟩
      · exact .inl (.item ht ha' ih)
      · refine .inr ⟨hmisled.of_suffix ((List.suffix_cons t ts).trans (List.suffix_append p _)), ?_⟩
        rw [← hsplit]
        exact breaks_of_item hopens ht (List.append_ne_nil_of_right_ne_nil ts hq') ha' hbreaks
    · refine .inr ⟨hmisled, breaks_of_error ?_ ?_ he⟩
      · rwa [← hsplit, hfirst]
      · rwa [← hsplit, hfirst]

end Terminated

namespace SourceFile

/-- Reads a declaration up to what ends it. -/
def content : TokenReader Addition := do
  let t ← peek
  match t.kind with
  | .keyword .type => do
    let _ ← advance
    return .types (← group typeSpec)
  | .keyword .const => do
    let _ ← advance
    return .consts (← group constSpec)
  | .keyword .var => do
    varDecl
    return .nothing
  | .keyword .func => do
    funcDecl
    return .nothing
  | .keyword .«import» => fail .lateImport t.position
  | _ => fail (.unexpected t) t.position

/-- A declaration is what it says with a semicolon behind it. -/
theorem declaration_eq : declaration = ended content := by
  unfold declaration ended content
  rw [TokenReader.bind_assoc]
  refine congrArg (peek >>= ·) (funext fun t => ?_)
  cases t.kind with
  | keyword w =>
    cases w with
    | type | const =>
      simp only
      rw [TokenReader.bind_assoc]
      refine congrArg (advance >>= ·) (funext fun _ => ?_)
      rw [TokenReader.bind_assoc]
    | var | func =>
      simp only
      rw [TokenReader.bind_assoc]
    | _ => rfl
  | _ => rfl

/-- Reads an import declaration up to what ends it. -/
def importContent : TokenReader Unit := do
  let _ ← expect (.keyword .«import»)
  let _ ← group importSpec
  return ()

theorem importDecl_eq : importDecl = ended importContent := by
  unfold importDecl ended importContent
  rw [TokenReader.bind_assoc]
  refine congrArg (expect (.keyword .«import») >>= ·) (funext fun _ => ?_)
  rw [TokenReader.bind_assoc]
  rfl

section Alike

variable (hq : q ≠ []) (hle : q.length ≤ q'.length)

include hq hle

theorem alike_content : Alike q q' content content ts := by
  have hadvance : Alike q q' advance advance ts := .advance hq hle
  refine .peek ?_
  split
  · exact hadvance.bind fun _ _ _ => (Alike.group hq hle fun _ _ => alike_typeSpec hq hle).bind fun _ _ _ => .pure
  · exact hadvance.bind fun _ _ _ => (Alike.group hq hle fun _ _ => alike_constSpec hq hle).bind
      fun _ _ _ => .pure
  · exact (alike_varDecl hq hle).bind fun _ _ _ => .pure
  · exact (alike_funcDecl hq hle).bind fun _ _ _ => .pure
  · exact .fail
  · exact .fail

theorem alike_importContent : Alike q q' importContent importContent ts :=
  (Alike.expect hq hle).bind fun _ _ _ =>
    (Alike.group hq hle fun _ _ => alike_importSpec hq hle).bind fun _ _ _ => .pure

end Alike

/-! ### Files -/

/-- The keyword that a declaration begins with. -/
theorem keyword_of_content {rest : List Token} {addition : Addition} (h : content ts = .ok (addition, rest)) :
    ∃ w ∈ [Keyword.type, .const, .var, .func], kindAt ts 0 = .keyword w := by
  obtain ⟨t, us, ht, h⟩ := exists_of_bind_ok h
  obtain ⟨rfl, rfl⟩ := Prod.mk.inj (Except.ok.inj ht)
  rw [← Advances.headOf_kind]
  cases hk : (headOf ts).kind with
  | keyword w =>
    cases w with
    | type | const | var | func => exact ⟨_, by simp, rfl⟩
    | _ =>
      simp only [hk] at h
      cases h
  | _ =>
    simp only [hk] at h
    cases h

/-- What a declaration says takes a token at least. -/
theorem opens_content : Opens (· ≠ .endOfFile) content := by
  intro ts addition rest h
  obtain ⟨w, -, hw⟩ := keyword_of_content h
  rw [hw]
  exact ⟨rfl, by simp⟩

theorem opens_importContent : Opens (· = .keyword .«import») importContent := by
  intro ts u rest h
  obtain ⟨word, us, hword, -⟩ := exists_of_bind_ok h
  rw [(of_expect_ok hword).1]
  exact ⟨rfl, by simp⟩

/-- A row of declarations does not begin with an import, unless one follows it. -/
theorem kindAt_row_ne_import {as : List Addition} (h : Terminated content q ts as)
    (hq : kindAt (pastSemicolons q) 0 ≠ .keyword .«import») :
    kindAt (pastSemicolons (ts ++ q)) 0 ≠ .keyword .«import» := by
  induction h with
  | nil => exact hq
  | semicolon ht _ ih => rwa [List.cons_append, pastSemicolons_cons ht]
  | @item p t ts a as ht ha _ _ =>
    obtain ⟨w, hw, hk⟩ := keyword_of_content ha
    rw [List.append_assoc, List.cons_append, pastSemicolons_eq_self (opens_content _ _ _ ha).2, hk]
    rintro hw'
    obtain rfl := Token.Kind.keyword.inj hw'
    exact absurd hw (by decide)

/-- The file that the additions make up. -/
def ofAdditions (package : String) (as : List Addition) : SourceFile :=
  ⟨package, as.flatMap Addition.typeSpecs, as.flatMap Addition.constGroups⟩

variable {word name semicolon : Token} {us : List Token}

/-- Behind the package clause there are two loops. -/
theorem ofTokens_clause (hword : word.kind = .keyword .package) (hname : name.kind = .identifier)
    (hsemi : semicolon.kind = .mark .semicolon) (hus : us ≠ []) : ofTokens (word :: name :: semicolon :: us) =
      ((do
        let _ ← repeatWhile (· = .keyword .«import») importDecl
        let additions ← repeatWhile (· ≠ .endOfFile) declaration
        return ofAdditions name.value additions : TokenReader SourceFile) (pastSemicolons us)).map Prod.fst := by
  have hfirst : skipSemicolons (word :: name :: semicolon :: us) = .ok ((), word :: name :: semicolon :: us) := by
    simp [skipSemicolons, hword]
  have hend : expectTerminator (semicolon :: us) = .ok ((), us) := by
    have hkind : kindAt (semicolon :: us) 0 ≠ .endOfFile := by simp [kindAt, hsemi]
    rw [expectTerminator, bind_apply]
    simp only [at?, decide_eq_false hkind, Bool.false_eq_true, if_false]
    rw [bind_apply, expect_apply hsemi hus]
    rfl
  refine congrArg (Except.map Prod.fst) ?_
  rw [reader, bind_apply, hfirst]
  simp only
  rw [bind_apply, expect_apply hword (List.cons_ne_nil _ _)]
  simp only
  rw [bind_apply, expect_apply hname (List.cons_ne_nil _ _)]
  simp only
  rw [bind_apply, hend]
  rfl

section Clause

variable (hword : word.kind = .keyword .package) (hname : name.kind = .identifier)
    (hsemi : semicolon.kind = .mark .semicolon)
  (hus : us ≠ [])

include hword hname hsemi hus

/-- The imports are read and left out. -/
theorem ofTokens_imports {imports : List Token} {is : List Unit}
    (himports : Terminated importContent us imports is)
    (hnext : kindAt (pastSemicolons us) 0 ≠ .keyword .«import») : ofTokens
      (word :: name :: semicolon :: (imports ++ us)) =
      (repeatWhile (· ≠ .endOfFile) declaration (pastSemicolons us)).map fun found =>
        ofAdditions name.value found.1 := by
  have hstop (n : Nat) : repeatFor (· = .keyword .«import») (ended importContent) n (pastSemicolons us) =
      .ok ([], pastSemicolons us) := by
    cases n <;> simp [repeatFor, bind_apply, peekKind, hnext, pure_apply]
  have hloop : repeatWhile (· = .keyword .«import») importDecl (pastSemicolons (imports ++ us)) =
      .ok (is, pastSemicolons us) := by
    obtain ⟨n, hn⟩ := Nat.exists_eq_add_of_le (himports.length_le opens_importContent)
    rw [repeatWhile, importDecl_eq, hn, himports.repeatFor opens_importContent hus, hstop]
    simp [Except.map]
  rw [ofTokens_clause hword hname hsemi (List.append_ne_nil_of_right_ne_nil imports hus), bind_apply, hloop]
  simp only
  rw [bind_apply]
  cases repeatWhile (· ≠ .endOfFile) declaration (pastSemicolons us) <;> rfl

/-- A file cannot be read if its imports break. -/
theorem ofTokens_of_breaks_imports (h : Breaks (· = .keyword .«import») importContent us) :
    ∃ e, ofTokens (word :: name :: semicolon :: us) = .error e := by
  obtain ⟨e, he⟩ := h (pastSemicolons us).length
  rw [ofTokens_clause hword hname hsemi hus, bind_apply, repeatWhile, importDecl_eq, he]
  exact ⟨e, rfl⟩

/-- A file cannot be read if its declarations break behind the imports. -/
theorem ofTokens_of_breaks {imports : List Token} {is : List Unit}
    (himports : Terminated importContent us imports is)
    (hnext : kindAt (pastSemicolons us) 0 ≠ .keyword .«import») (h : Breaks (· ≠ .endOfFile) content us) :
    ∃ e, ofTokens (word :: name :: semicolon :: (imports ++ us)) = .error e := by
  obtain ⟨e, he⟩ := h (pastSemicolons us).length
  rw [ofTokens_imports hword hname hsemi hus himports hnext, repeatWhile, declaration_eq, he]
  exact ⟨e, rfl⟩

end Clause

/-- **A file, row by row**: the additions of the row of declarations come first, then those of what follows
the row. -/
theorem ofTokens_rows (hword : word.kind = .keyword .package) (hname : name.kind = .identifier)
    (hsemi : semicolon.kind = .mark .semicolon)
    {imports decls : List Token} {is : List Unit} {as : List Addition} (hq : q ≠ [])
    (himports : Terminated importContent (decls ++ q) imports is) (hdecls : Terminated content q decls as)
    (hnext : kindAt (pastSemicolons q) 0 ≠ .keyword .«import») :
    ofTokens (word :: name :: semicolon :: (imports ++ (decls ++ q))) =
      (repeatFor (· ≠ .endOfFile) declaration ((pastSemicolons (decls ++ q)).length - as.length)
        (pastSemicolons q)).map
        fun found => ofAdditions name.value (as ++ found.1) := by
  obtain ⟨n, hn⟩ := Nat.exists_eq_add_of_le (hdecls.length_le opens_content)
  rw [ofTokens_imports hword hname hsemi (List.append_ne_nil_of_right_ne_nil decls hq) himports
    (kindAt_row_ne_import hdecls hnext),
    repeatWhile, declaration_eq, hn, hdecls.repeatFor opens_content hq, Nat.add_sub_cancel_left]
  cases repeatFor (· ≠ .endOfFile) (ended content) n (pastSemicolons q) <;> rfl

end SourceFile

end GoFixtures.Go
