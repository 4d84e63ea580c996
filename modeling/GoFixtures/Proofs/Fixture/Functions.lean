import GoFixtures.Fixture.FixtureFile
import GoFixtures.Proofs.Fixture.Values
import GoFixtures.Proofs.Go.Functions

/-!
# Fixture functions are well written

Of a fixture function the parser reads the outline: its name, its parameters, its result, and a body with as
many braces opened as closed.

* `FixtureFunction.skims_bodyText`: the body, in both styles.
* `FixtureFunction.scans_signature`: what stands before it.
* `FixtureFunction.scans_render`: the tokens of the function are those of an outline.
-/

namespace GoFixtures

open Go Go.Layout Go.TokenReader Go.SourceFile

variable {o : Options} {s : List Char} {n : Nat} {type text w : String} {e : Bool}

/-- A body that is made of texts that can stand for values. -/
inductive FixtureBody.Written (o : Options) : FixtureBody → Prop
  | expression {text : String} (h : IsLiteral text) : Written o (expression text)
  | fields {values : List (String × Value)} (h : ∀ nv ∈ values, IsName nv.1 ∧ Value.Written o nv.2) :
      Written o (fields values)

namespace FixtureFunction

/-! ### Bodies -/

theorem skims_fieldLines (ho : o.Named) {values : List (String × Value)}
    (h : ∀ nv ∈ values, IsName nv.1 ∧ Value.Written o nv.2) :
    Skims ((fieldLines o values).toList ++ s) n s n := by
  unfold fieldLines
  induction values with
  | nil => exact .refl s n
  | cons nv values ih =>
    rw [List.forall_mem_cons] at h
    -- a line is two tabs, a field and a line end
    have hend : ",\n".toList = ",".toList ++ "\n".toList := by decide
    have hfield := @Value.skims_field ("\n".toList ++ ((fieldLines o values).toList ++ s)) n _ _ h.1.1
      (Value.isLiteral_render ho h.1.2)
    rw [List.map_cons, String.join_cons]
    simp only [String.toList_append, List.append_assoc, hend] at hfield ⊢
    refine (Skims.fixed [.tab, .tab] (by decide) rfl fun _ => rfl).trans (hfield.trans ?_)
    exact (Skims.fixed [.lineEnd] (by decide) rfl fun e => by cases e <;> rfl).trans (ih h.2)

/-- The loop that lets the modifiers change the value, and the return behind it. -/
def applyModifiers (pointer : List Item) : List Item :=
  [.tab, .word "for", .space, .word "_", .op ",", .space, .word "mod", .space, .op ":=", .space,
    .word "range", .space,
    .word "mods", .space, .op "\x7b", .lineEnd, .tab, .tab, .word "mod", .op "("] ++ pointer
    ++ [.op ")", .lineEnd, .tab, .op "\x7d", .lineEnd, .tab, .word "return", .space] ++ pointer ++ [.lineEnd]

theorem skims_expression (h : IsLiteral text) :
    Skims ((bodyText o type (.expression text)).toList ++ s) n s n := by
  rw [bodyText]
  split
  · simp only [String.toList_append, List.append_assoc]
    refine (Skims.fixed [.tab, .word "value", .space, .op ":=", .space] (by decide) rfl fun _ => rfl).trans ?_
    refine (h _ n ⟨'\n', by decide, rfl⟩).trans ?_
    exact Skims.fixed (.lineEnd :: applyModifiers [.op "&", .word "value"]) (by decide) rfl fun e =>
      by cases e <;> rfl
  · simp only [String.toList_append, List.append_assoc]
    refine (Skims.fixed [.tab, .word "return", .space] (by decide) rfl fun _ => rfl).trans ?_
    refine (h _ n ⟨'\n', by decide, rfl⟩).trans ?_
    exact Skims.fixed [.lineEnd] (by decide) rfl fun e => by cases e <;> rfl

/-- The literal of a record, with its fields on lines of their own. -/
theorem skims_recordLiteral (ho : o.Named) (ht : IsName type) {values : List (String × Value)}
    (h : ∀ nv ∈ values, IsName nv.1 ∧ Value.Written o nv.2) :
    Skims ((o.qualify type).toList ++
      ("\x7b\n".toList ++ ((fieldLines o values).toList ++ ("\t\x7d\n".toList ++ s)))) n s n := by
  refine (Skims.qualified ho ht (by rfl)).trans ?_
  refine (Skims.fixed [.op "\x7b", .lineEnd] (by decide) rfl fun _ => rfl).trans ?_
  refine (skims_fieldLines ho h).trans ?_
  exact Skims.fixed [.tab, .op "\x7d", .lineEnd] (by decide) rfl fun _ => rfl

theorem skims_fields (ho : o.Named) (ht : IsName type) {values : List (String × Value)}
    (h : ∀ nv ∈ values, IsName nv.1 ∧ Value.Written o nv.2) :
    Skims ((bodyText o type (.fields values)).toList ++ s) n s n := by
  rw [bodyText]
  split
  · simp only [String.toList_append, List.append_assoc]
    refine (Skims.fixed [.tab, .word "value", .space, .op ":=", .space, .op "&"] (by decide)
      (wellSpaced_qualify ho ht (by decide)) fun _ => rfl).trans ?_
    refine (skims_recordLiteral ho ht h).trans ?_
    exact Skims.fixed (applyModifiers [.word "value"]) (by decide) rfl fun e => by cases e <;> rfl
  · simp only [String.toList_append, List.append_assoc]
    refine (Skims.fixed [.tab, .word "return", .space] (by decide)
      (wellSpaced_qualify ho ht (by decide)) fun _ => rfl).trans ?_
    exact skims_recordLiteral ho ht h

theorem skims_bodyText (ho : o.Named) (ht : IsName type) {body : FixtureBody} (h : body.Written o) :
    Skims ((bodyText o type body).toList ++ s) n s n := by
  cases h with
  | expression h => exact skims_expression h
  | fields h => exact skims_fields ho ht h

/-! ### Signatures -/

/-- The signs of the parameters: functions that change the value, if the style has them. -/
def paramSigns (o : Options) (type : String) : Signs :=
  match o.style with
  | .mutable =>
    [(.identifier, "mods"), (.mark .ellipsis, "..."), (.keyword .func, "func"), (.opening .paren, "("),
      (.mark .star, "*")] ++ (qualifiedSigns o type ++ [(.closing .paren, ")")])
  | .plain => []

/-- The signs of the result. -/
def resultSigns (o : Options) (type : String) : Signs :=
  match o.style with
  | .mutable => (.mark .star, "*") :: qualifiedSigns o type
  | .plain => qualifiedSigns o type

theorem balanced_paramSigns : (paramSigns o type).Balanced .paren := by
  unfold paramSigns qualifiedSigns
  split
  · split <;> rfl
  · rfl

theorem takes_qualified {d : Nat} :
    Takes (TypeExpr.ofDepth (d + 1)) (qualifiedSigns o type) (· = .opening .brace) (fun _ => True) := by
  have hends : ∀ k, k = Token.Kind.opening .brace → TypeExpr.EndsName k := by
    rintro _ rfl
    exact ⟨by decide, by decide⟩
  unfold qualifiedSigns
  split
  · exact TypeExpr.takes_ofDepth_identifier (TypeExpr.takes_name.mono hends fun _ _ => trivial)
  · exact TypeExpr.takes_ofDepth_identifier (TypeExpr.takes_qualified.mono hends fun _ _ => trivial)

theorem takes_resultSigns {d : Nat} (hd : (resultSigns o type).length ≤ d) :
    Takes (TypeExpr.ofDepth d) (resultSigns o type) (· = .opening .brace) (fun _ => True) := by
  have hpos : 0 < (qualifiedSigns o type).length := by
    unfold qualifiedSigns
    split <;> simp
  unfold resultSigns at hd ⊢
  split at hd
  · rw [List.length_cons] at hd
    obtain ⟨d, rfl⟩ : ∃ k, d = k + 2 := ⟨d - 2, by omega⟩
    exact TypeExpr.takes_ofDepth_star takes_qualified
  · obtain ⟨d, rfl⟩ : ∃ k, d = k + 1 := ⟨d - 1, by omega⟩
    exact takes_qualified

theorem outline {body : Signs} (h : body.Balanced .brace) :
    Outline [] (paramSigns o type) (resultSigns o type) body where
  balancedTypeParams := .inl rfl
  balancedParams := balanced_paramSigns
  isType := ⟨_, TypeExpr.takes_reader fun _ hd => takes_resultSigns hd⟩
  startsType := by
    intro k hk
    unfold resultSigns qualifiedSigns at hk
    split at hk
    · exact hk ▸ rfl
    · split at hk <;> exact hk ▸ rfl
  balancedBody := h

/-- The signs of the parameters and of the result, up to the brace that opens the body. -/
def headSigns (o : Options) (type : String) : Signs :=
  (paramSigns o type).inside .paren ++ (resultSigns o type ++ [(.opening .brace, "\x7b")])

theorem headSigns_mutable (h : o.style = .mutable) : headSigns o type =
    [(.opening .paren, "("), (.identifier, "mods"), (.mark .ellipsis, "..."), (.keyword .func, "func"),
      (.opening .paren, "("),
      (.mark .star, "*")] ++ (qualifiedSigns o type ++
        ([(.closing .paren, ")"), (.closing .paren, ")"), (.mark .star, "*")] ++
          (qualifiedSigns o type ++ [(.opening .brace, "\x7b")]))) := by
  simp [headSigns, paramSigns, resultSigns, h, Signs.inside, Bracket.opening, Bracket.closing]

theorem headSigns_plain (h : o.style = .plain) : headSigns o type =
    [(.opening .paren, "("), (.closing .paren, ")")] ++
      (qualifiedSigns o type ++ [(.opening .brace, "\x7b")]) := by
  simp [headSigns, paramSigns, resultSigns, h, Signs.inside, Bracket.opening, Bracket.closing]

theorem scans_signature (ho : o.Named) (ht : IsName type) : Scans ((signature o type).toList ++ s) e
    ([(.keyword .func, "func")] ++ ([(.identifier, o.fixtureName type)] ++ headSigns o type)) s false := by
  have hname := ho.isName_fixtureName ht
  unfold signature
  split
  · rename_i hstyle
    simp only [String.toList_append, List.append_assoc, headSigns_mutable hstyle]
    refine (scans_fixed [.word "func", .space] (by decide) (wellSpaced_name hname (by decide))).trans ?_
    refine (scans_name hname (by rfl)).trans ?_
    refine (scans_fixed [.op "(", .word "mods", .space, .op "...", .word "func", .op "(", .op "*"] (by decide)
      (wellSpaced_qualify ho ht (by decide))).trans ?_
    refine (scans_qualified ho ht (by rfl)).trans ?_
    refine (scans_fixed [.op ")", .op ")", .space, .op "*"] (by decide)
      (wellSpaced_qualify ho ht (by decide))).trans ?_
    refine (scans_qualified ho ht (by rfl)).trans ?_
    exact scans_fixed [.space, .op "\x7b", .lineEnd] (by decide) rfl
  · rename_i hstyle
    simp only [String.toList_append, List.append_assoc, headSigns_plain hstyle]
    refine (scans_fixed [.word "func", .space] (by decide) (wellSpaced_name hname (by decide))).trans ?_
    refine (scans_name hname (by rfl)).trans ?_
    refine (scans_fixed [.op "(", .op ")", .space] (by decide) (wellSpaced_qualify ho ht (by decide))).trans ?_
    refine (scans_qualified ho ht (by rfl)).trans ?_
    exact scans_fixed [.space, .op "\x7b", .lineEnd] (by decide) rfl

/-! ### Functions -/

/-- Signs of the declaration of a function on lines of its own. -/
def IsFunction (signs : Signs) : Prop :=
  ∃ name typeParams params result body, Outline typeParams params result body ∧
  signs = functionSigns name typeParams params result body ++ [Token.lineSign]

/-- **A fixture function** as it is written. -/
theorem scans_render (ho : o.Named) {f : FixtureFunction} (ht : IsName f.type) (h : f.body.Written o) :
    ∃ signs, IsFunction signs ∧ Scans ((f.render o).toList ++ s) false signs s false := by
  obtain ⟨body, e, hbody, hscan⟩ := skims_bodyText (s := "\x7d\n\n".toList ++ s) (n := 0) ho ht h false
  -- the closing brace ends a line, and the line end stands for a semicolon
  have hend : Scans ("\x7d\n\n".toList ++ s) e [(.closing .brace, "\x7d"), Token.lineSign] s false :=
    scans_fixed [.op "\x7d", .lineEnd, .lineEnd] (by decide) rfl
  refine ⟨_, ⟨o.fixtureName f.type, [], paramSigns o f.type, resultSigns o f.type, body, outline hbody, rfl⟩, ?_⟩
  have hfunction := (scans_signature (e := false) ho ht).trans (hscan.trans hend)
  rw [render]
  simpa [functionSigns, headSigns, Signs.inside, Bracket.opening, Bracket.closing] using hfunction

end FixtureFunction

end GoFixtures
