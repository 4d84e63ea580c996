import GoFixtures.Proofs.Go.Types

/-!
# Declarations are read back

A file that is written down is read as what it is, up to the lines of its declarations: types with their
parameters and aliases, in whatever groups they are written, and constants.

* `SourceFile.takes_typeSpec`, `SourceFile.takes_constSpec`: one type, and one line of constants.
* `SourceFile.takes_typeDecl`, `SourceFile.takes_consts`: the declarations.
* `SourceFile.parse_render_withoutLines`: the file.
-/

namespace GoFixtures.Go

open Layout TokenReader TypeExpr

/-! ### Lines -/

/-- The type declaration without its line. -/
def TypeSpec.withoutLine (s : TypeSpec) : TypeSpec := { s with line := 0 }

/-- The constants without their line. -/
def ConstSpec.withoutLine (c : ConstSpec) : ConstSpec := { c with line := 0 }

namespace SourceFile

/-- What is added, without lines. -/
def Addition.withoutLines : Addition → Addition
  | types specs => types (specs.map TypeSpec.withoutLine)
  | consts specs => consts (specs.map ConstSpec.withoutLine)
  | nothing => nothing

/-- The file without lines. -/
def withoutLines (f : SourceFile) : SourceFile :=
  ⟨f.package, f.types.map TypeSpec.withoutLine, f.constGroups.map (·.map ConstSpec.withoutLine)⟩

/-! ### Types and constants -/

variable {F : Token.Kind → Prop}

/-- What a type begins with that no type parameters can be taken for: no name stands behind a square bracket. -/
def OpensType (signs : Signs) : Prop := ∃ k v rest, signs = (k, v) :: rest ∧ StartsType k ∧
  (k = .opening .square → ∃ k' v' more, rest = (k', v') :: more ∧ k' ≠ .identifier)

theorem OpensType.other {k : Token.Kind} {v : String} {rest : Signs} (hk : StartsType k)
    (hs : k ≠ .opening .square) :
    OpensType ((k, v) :: rest) :=
  ⟨k, v, rest, rfl, hk, fun h => absurd h hs⟩

theorem OpensType.square {k : Token.Kind} {v v' : String} {rest : Signs} (hk : k ≠ .identifier) :
    OpensType ((.opening .square, v) :: (k, v') :: rest) :=
  ⟨_, _, _, rfl, ⟨rfl, by decide⟩, fun _ => ⟨k, v', rest, rfl, hk⟩⟩

/-- The signs of a type begin like a type. -/
theorem opensType_signs {t : TypeExpr} (h : t.Renderable) : OpensType t.signs := by
  obtain ⟨k, v, rest, hsigns, hk⟩ := h.written.exists_signs
  by_cases hs : k = .opening .square
  · subst hs
    -- a bracket or the length follows
    obtain ⟨e, -, rfl | rfl⟩ := eq_slice_or_array h hsigns
    · exact .square (by decide)
    · exact .square (by decide)
  · rw [hsigns]
    exact .other hk hs

/-- The signs of a type declaration, with those of its type. -/
def specSigns (s : TypeSpec) (type : Signs) : Signs :=
  (.identifier, s.name) ::
    ((if s.isGeneric then Signs.inside .square [(.identifier, "T"), (.identifier, "any")] else [])
    ++ ((if s.isAlias then [(.mark .assign, "=")] else []) ++ type))

/-- A square bracket begins type parameters only if a name stands behind it and another one behind that. -/
theorem atTypeParameters_apply {isGeneric isAlias : Bool} {signs : Signs} (h : OpensType signs)
    {ts rest : List Token}
    (hts : ts.map Token.sign = (if isGeneric then
    Signs.inside .square [(.identifier, "T"), (.identifier, "any")] else [])
      ++ ((if isAlias then [(.mark .assign, "=")] else []) ++ signs)) :
    atTypeParameters (ts ++ rest) = .ok (isGeneric, ts ++ rest) := by
  cases isGeneric with
  | true =>
    have h0 : kindAt (ts ++ rest) 0 = .opening .square := kindAt_append hts rfl
    have h1 : kindAt (ts ++ rest) 1 = .identifier := kindAt_append hts rfl
    have h2 : kindAt (ts ++ rest) 2 = .identifier := kindAt_append hts rfl
    simp [atTypeParameters, h0, h1, h2, followsTypeParameter]
  | false =>
    cases isAlias with
    | true =>
      have h0 : kindAt (ts ++ rest) 0 = .mark .assign := kindAt_append hts rfl
      simp [atTypeParameters, h0]
    | false =>
      obtain ⟨k, v, after, rfl, -, hsquare⟩ := h
      have h0 : kindAt (ts ++ rest) 0 = k := kindAt_append hts rfl
      by_cases hk : k = .opening .square
      · obtain ⟨k', v', more, rfl, hk'⟩ := hsquare hk
        have h1 : kindAt (ts ++ rest) 1 = k' := kindAt_append hts rfl
        simp [atTypeParameters, h1, hk']
      · simp [atTypeParameters, h0, hk]

/-- A type wherever tokens are enough for it. -/
theorem takes_type {t : TypeExpr} {signs : Signs} (h : Written t signs) :
    Takes TypeExpr.reader signs EndsType (· = t) :=
  TypeExpr.takes_reader fun _ hd => takes_written h hd

/-- **A type** on a line of its own. -/
theorem takes_typeSpec {s : TypeSpec} {signs : Signs} (ht : Written s.type signs) (hs : OpensType signs) :
    Takes typeSpec (specSigns s signs) (· = .mark .semicolon) (fun a => a.withoutLine = s.withoutLine) := by
  have hreader := (takes_type ht).mono (F := (· = .mark .semicolon)) (fun _ hk => .inl hk) fun _ ha => ha
  -- what stands behind the name and the type parameters
  have htail (name : Token) (hname : name.value = s.name) : Takes (do
      let isAlias ← accept (.mark .assign)
      let type ← TypeExpr.reader
      return (⟨name.value, type, name.position.line, s.isGeneric, isAlias⟩ : TypeSpec))
      ((if s.isAlias then [(.mark .assign, "=")] else []) ++ signs) (· = .mark .semicolon)
      (fun a => a.withoutLine = s.withoutLine) := by
    obtain ⟨_, type, line, isGeneric, isAlias⟩ := s
    cases isAlias with
    | true =>
      refine Takes.andThen Takes.accept_true (fun b hb => ?_)
      refine hreader.map fun t ht => ?_
      rw [hb, ht, hname]
      rfl
    | false =>
      refine Takes.look Takes.accept_false (fun b hb => ?_) fun k hk => ?_
      · refine hreader.map fun t ht => ?_
        rw [hb, ht, hname]
        rfl
      · rintro rfl
        exact absurd (ht.begins hk).1 (by decide)
  show Takes _ ([(.identifier, s.name)] ++ _) _ _
  refine Takes.andThen Takes.expect (fun name hname => ?_)
  have hname : name.value = s.name := congrArg Prod.snd hname
  refine Takes.ahead (a := s.isGeneric) (fun ts t rest hts _ => atTypeParameters_apply hs hts) ?_
  split
  · exact Takes.andThen (takes_skipGroup rfl) (fun _ _ => htail name hname)
  · exact htail name hname

/-- The values of constants, here a single one. -/
theorem takes_values {c : ConstSpec} {names : List String} {type : Option TypeExpr} {l : Nat}
    (hn : names = c.names)
    (ht : type = c.type) : Takes (do
      let hasValues ← accept (.mark .assign)
      if hasValues then skipUntil endsConstValues
      return (⟨names, type, hasValues, l⟩ : ConstSpec))
      (if c.hasValues then [(.mark .assign, "="), (.integer, "0")] else []) (· = .mark .semicolon)
      (fun a => a.withoutLine = c.withoutLine) := by
  subst hn ht
  obtain ⟨names, type, hasValues, line⟩ := c
  cases hasValues with
  | true =>
    have hzero : Takes (skipUntil endsConstValues) [(.integer, "0")] (· = .mark .semicolon) (fun _ => True) := by
      intro ts t rest hts ht
      obtain ⟨x, rfl, hx⟩ := List.map_eq_singleton_iff.1 hts
      have hx : x.kind = .integer := congrArg Prod.fst hx
      exact ⟨(), trivial, by simp [skipUntil, untilStop, hx, ht, endsConstValues]⟩
    show Takes _ ([(.mark .assign, "=")] ++ [(.integer, "0")]) _ _
    refine Takes.andThen Takes.accept_true (fun b hb => ?_)
    simp only [hb, if_true]
    exact hzero.map fun _ _ => rfl
  | false =>
    refine Takes.look Takes.accept_false (fun b hb => ?_) fun k hk => ?_
    · rw [hb]
      exact Takes.pure rfl
    · exact hk ▸ by decide

/-- **Constants** on a line of their own. -/
theorem takes_constSpec {c : ConstSpec} (hne : c.names ≠ []) (ht : ∀ t ∈ c.type, t.Renderable) :
    Takes constSpec c.signs (· = .mark .semicolon) (fun a => a.withoutLine = c.withoutLine) := by
  have hvalues :
    ∀ k, Begins (if c.hasValues then [(.mark .assign, "="), (.integer, "0")] else []) (· = .mark .semicolon) k →
      k = .mark .assign ∨ k = .mark .semicolon := by
    intro k hk
    cases hv : c.hasValues with
    | true => exact .inl (by simpa [hv, Begins] using hk)
    | false => exact .inr (by simpa [hv, Begins] using hk)
  refine Takes.look (Takes.peek (F := fun _ => True)) (fun first _ => ?_) fun _ _ => trivial
  cases htype : c.type with
  | none =>
    have hsigns : c.signs = nameSigns c.names ++
        (if c.hasValues then [(.mark .assign, "="), (.integer, "0")] else []) := by
      simp [ConstSpec.signs, htype]
    have hcomma : ∀ k, k = Token.Kind.mark .assign ∨ k = .mark .semicolon → k ≠ .mark .comma := by
      rintro k (rfl | rfl) <;> decide
    rw [hsigns]
    refine Takes.bind (takes_nameList hne) (fun names hnames => ?_) fun k hk => hcomma k (hvalues k hk)
    refine Takes.look (Takes.peekKind (F := fun k => k = .mark .assign ∨ k = .mark .semicolon))
      (fun k hk => ?_) hvalues
    have hends : endsConstNames k = true := by
      rcases hk with rfl | rfl <;> rfl
    simp only [hends, if_true]
    exact takes_values hnames htype.symm
  | some t =>
    have hr := ht t htype
    have hsigns : c.signs = nameSigns c.names ++
        (t.signs ++ if c.hasValues then [(.mark .assign, "="), (.integer, "0")] else []) := by
      simp [ConstSpec.signs, htype]
    have hstarts {G : Token.Kind → Prop} (more : Signs) : ∀ k, Begins (t.signs ++ more) G k → StartsType k := by
      intro k hk
      rw [begins_append] at hk
      exact hr.written.begins hk
    rw [hsigns]
    refine Takes.bind (takes_nameList hne) (fun names hnames => ?_) fun k hk => ?_
    · refine Takes.look (Takes.peekKind (F := StartsType)) (fun k hk => ?_) (hstarts _)
      have hends : endsConstNames k = false := by
        unfold endsConstNames
        split
        · exact absurd hk.1 (by decide)
        · exact absurd hk.1 (by decide)
        · exact absurd hk.1 (by decide)
        · exact absurd hk.1 (by decide)
        · rfl
      simp only [hends, Bool.false_eq_true, if_false]
      refine Takes.bind (takes_type hr.written) (fun a ha => ?_) fun k hk => ?_
      · exact takes_values hnames (by rw [ha, htype])
      · rcases hvalues k hk with rfl | rfl
        · exact .inr (.inr (.inr rfl))
        · exact .inl rfl
    · rintro rfl
      exact absurd (hstarts _ _ hk).1 (by decide)

/-! ### Declarations -/

/-- The signs of a type declaration begin with its name. -/
theorem exists_typeSigns (s : TypeSpec) : ∃ k v rest, s.signs = (k, v) :: rest ∧
    k ≠ .closing .paren ∧ k ≠ .endOfFile ∧ k ≠ .mark .semicolon :=
  ⟨.identifier, s.name, _, rfl, by decide⟩

/-- The signs of a constant declaration begin with its first name. -/
theorem exists_constSigns {c : ConstSpec} (hne : c.names ≠ []) : ∃ k v rest, c.signs = (k, v) :: rest ∧
    k ≠ .closing .paren ∧ k ≠ .endOfFile ∧ k ≠ .mark .semicolon := by
  obtain ⟨n, names, hnames⟩ := List.exists_cons_of_ne_nil hne
  exact ⟨.identifier, n, _, by rw [ConstSpec.signs, hnames]; rfl, by decide⟩

/-- Lists that agree element by element under a map have the same image. -/
theorem map_eq_map_of_forall₂ {α β : Type} {g : α → β} {as bs : List α}
    (h : List.Forall₂ (fun a b => g b = g a) as bs) :
    bs.map g = as.map g := by
  induction h with
  | nil => rfl
  | cons h _ ih => rw [List.map_cons, List.map_cons, h, ih]

/-- What ends a declaration. -/
theorem takes_end {a b : Addition} (h : a = b) :
    Takes (do expectTerminator; skipSemicolons; return a) [Token.lineSign]
    (· ≠ .mark .semicolon) (· = b) := by
  show Takes _ ([Token.lineSign] ++ []) _ _
  refine Takes.bind (G := (· ≠ .mark .semicolon)) Takes.expectTerminator (fun _ _ => ?_) fun _ hk => hk
  exact Takes.skipSemicolons.map fun _ _ => h

/-- What a declaration of types adds. -/
theorem takes_types {signs : Signs} {specs : List TypeSpec}
    (h : Takes (group typeSpec) signs (· = .mark .semicolon)
    fun as => as.map TypeSpec.withoutLine = specs.map TypeSpec.withoutLine) :
    Takes declaration ((.keyword .type, "type") :: (signs ++ [Token.lineSign])) (· ≠ .mark .semicolon)
      (fun a => a.withoutLines = (Addition.types specs).withoutLines) := by
  refine Takes.look (Takes.peek (F := (· = .keyword .type))) (fun t ht => ?_) fun k hk => hk
  simp only [ht]
  show Takes _ ([(.keyword .type, "type")] ++ (signs ++ [Token.lineSign])) _ _
  refine Takes.andThen Takes.advance (fun _ _ => ?_)
  refine Takes.bind h (fun as has => ?_) fun _ hk => hk
  exact (takes_end rfl).imp fun a ha => by rw [ha]; exact congrArg Addition.types has

/-- One type by itself. -/
theorem takes_singleType {s : TypeSpec} {signs : Signs} (ht : Written s.type signs) (hs : OpensType signs) :
    Takes declaration ((.keyword .type, "type") :: (specSigns s signs ++ [Token.lineSign])) (· ≠ .mark .semicolon)
      (fun a => a.withoutLines = (Addition.types [s]).withoutLines) := by
  have hspec := takes_typeSpec ht hs
  refine takes_types ((takes_single hspec ?_).imp ?_)
  · rintro k rfl
    decide
  · rintro _ ⟨a, rfl, ha⟩
    simpa using ha

/-- **Types**, one by itself or any number in parentheses. -/
theorem takes_typeDecl {d : TypeDecl} (h : ∀ s ∈ d.specs, s.type.Renderable) :
    Takes declaration (d.signs ++ [Token.lineSign]) (· ≠ .mark .semicolon)
      (fun a => a.withoutLines = (Addition.types d.specs).withoutLines) := by
  cases d with
  | single s =>
    have hs := h s List.mem_cons_self
    exact takes_singleType hs.written (opensType_signs hs)
  | block specs =>
    refine takes_types ((takes_block (fun s hs => ?_) fun s _ => exists_typeSigns s).imp fun _ has =>
      map_eq_map_of_forall₂ has)
    exact takes_typeSpec (h s hs).written (opensType_signs (h s hs))

/-- **A group of constants.** -/
theorem takes_consts {g : List ConstSpec} (h : ∀ c ∈ g, c.names ≠ [] ∧ ∀ t ∈ c.type, t.Renderable) :
    Takes declaration (constsSigns g ++ [Token.lineSign]) (· ≠ .mark .semicolon)
      (fun a => a.withoutLines = (Addition.consts g).withoutLines) := by
  have hgroup : Takes (group constSpec) (blockSigns ConstSpec.signs g) (· = .mark .semicolon)
      (fun specs => specs.map ConstSpec.withoutLine = g.map ConstSpec.withoutLine) :=
    (takes_block (fun c hc => takes_constSpec (h c hc).1 (h c hc).2) fun c hc =>
      exists_constSigns (h c hc).1).mono
      (fun _ hk => hk) fun _ has => map_eq_map_of_forall₂ has
  refine Takes.look (Takes.peek (F := (· = .keyword .const))) (fun t ht => ?_) fun _ hk => hk
  simp only [ht]
  show Takes _ ([(.keyword .const, "const")] ++ (blockSigns ConstSpec.signs g ++ [Token.lineSign])) _ _
  refine Takes.andThen Takes.advance (fun _ _ => ?_)
  refine Takes.bind hgroup (fun specs hspecs => ?_) fun _ hk => hk
  exact (takes_end rfl).imp fun a ha => by rw [ha]; exact congrArg Addition.consts hspecs

/-! ### Files -/

/-- A declaration of types or a group of constants. -/
abbrev Decl := TypeDecl ⊕ List ConstSpec

/-- The signs of a declaration on a line of its own. -/
def Decl.signs : Decl → Signs
  | .inl d => d.signs ++ [Token.lineSign]
  | .inr g => constsSigns g ++ [Token.lineSign]

/-- What a declaration adds. -/
def Decl.addition : Decl → Addition
  | .inl d => .types d.specs
  | .inr g => .consts g

/-- The types that an addition adds, without their lines. -/
theorem Addition.typeSpecs_withoutLines (a : Addition) :
    a.withoutLines.typeSpecs = a.typeSpecs.map TypeSpec.withoutLine := by
  cases a <;> rfl

theorem Addition.constGroups_withoutLines (a : Addition) :
    a.withoutLines.constGroups = a.constGroups.map (·.map ConstSpec.withoutLine) := by
  cases a <;> rfl

/-- What is added is the same without lines if the additions are. -/
theorem flatMap_eq_of_forall₂ {τ : Type} {g : Addition → List τ} {items : List Decl} {as : List Addition}
    (h : List.Forall₂ (fun i a => a.withoutLines = i.addition.withoutLines) items as) :
    as.flatMap (fun a => g a.withoutLines) = items.flatMap fun i => g i.addition.withoutLines := by
  induction h with
  | nil => rfl
  | cons h _ ih => rw [List.flatMap_cons, List.flatMap_cons, h, ih]

/-- The declarations of a file, types before constants. -/
def allDecls (decls : List TypeDecl) (f : SourceFile) : List Decl := decls.map .inl ++ f.constGroups.map .inr

variable {f : SourceFile} {decls : List TypeDecl}

/-- The signs of all declarations, one after the other. -/
theorem declSigns_eq : declSigns decls f.constGroups = (allDecls decls f).flatMap Decl.signs := by
  rw [allDecls, List.flatMap_append, List.flatMap_map, List.flatMap_map]
  rfl

/-- Each declaration is read as what it is. -/
theorem takes_decl (hf : f.Renderable) (hd : decls.flatMap TypeDecl.specs = f.types) : ∀ i ∈ allDecls decls f,
    Takes declaration (Decl.signs i) (· ≠ .mark .semicolon) (fun a =>
      a.withoutLines = i.addition.withoutLines) := by
  intro i hi
  rcases List.mem_append.1 hi with hi | hi
  · obtain ⟨d, hdecl, rfl⟩ := List.mem_map.1 hi
    refine takes_typeDecl fun s hs => (hf.types s ?_).2
    rw [← hd]
    exact List.mem_flatMap.2 ⟨d, hdecl, hs⟩
  · obtain ⟨g, hg, rfl⟩ := List.mem_map.1 hi
    exact takes_consts fun c hc => ⟨(hf.consts g hg c hc).1, (hf.consts g hg c hc).2.2⟩

/-- The signs of a declaration begin with its keyword. -/
theorem exists_declSigns (i : Decl) : ∃ k v rest, Decl.signs i = (k, v) :: rest ∧ StartsDeclaration k := by
  match i with
  | .inl (.single s) => exact ⟨_, _, _, rfl, by simp [StartsDeclaration]⟩
  | .inl (.block specs) => exact ⟨_, _, _, rfl, by simp [StartsDeclaration]⟩
  | .inr g => exact ⟨_, _, _, rfl, by simp [StartsDeclaration]⟩

/-- What all declarations add makes up the file. -/
theorem withoutLines_eq (hd : decls.flatMap TypeDecl.specs = f.types) {as : List Addition}
    (h : List.Forall₂ (fun i a => a.withoutLines = i.addition.withoutLines) (allDecls decls f) as) :
    withoutLines ⟨f.package, as.flatMap Addition.typeSpecs, as.flatMap Addition.constGroups⟩ =
      f.withoutLines := by
  have htypes : (as.flatMap Addition.typeSpecs).map TypeSpec.withoutLine = f.types.map TypeSpec.withoutLine := by
    calc (as.flatMap Addition.typeSpecs).map TypeSpec.withoutLine
        = as.flatMap fun a => a.withoutLines.typeSpecs := by
          simp only [List.map_flatMap, Addition.typeSpecs_withoutLines]
      _ = (allDecls decls f).flatMap fun i => i.addition.withoutLines.typeSpecs := flatMap_eq_of_forall₂ h
      _ = f.types.map TypeSpec.withoutLine := by
          have hnone : (f.constGroups.flatMap fun _ => ([] : List TypeSpec)) = [] :=
            List.flatMap_eq_nil_iff.2 fun _ _ => rfl
          rw [allDecls, List.flatMap_append, List.flatMap_map, List.flatMap_map, ← hd, List.map_flatMap]
          show decls.flatMap (fun d => d.specs.map TypeSpec.withoutLine) ++
            (f.constGroups.flatMap fun _ => []) = _
          rw [hnone, List.append_nil]
  have hconsts : (as.flatMap Addition.constGroups).map (·.map ConstSpec.withoutLine) =
      f.constGroups.map (·.map ConstSpec.withoutLine) := by
    calc (as.flatMap Addition.constGroups).map (·.map ConstSpec.withoutLine)
        = as.flatMap fun a => a.withoutLines.constGroups := by
          simp only [List.map_flatMap, Addition.constGroups_withoutLines]
      _ = (allDecls decls f).flatMap fun i => i.addition.withoutLines.constGroups := flatMap_eq_of_forall₂ h
      _ = f.constGroups.map (·.map ConstSpec.withoutLine) := by
          have hnone : (decls.flatMap fun _ => ([] : List (List ConstSpec))) = [] :=
            List.flatMap_eq_nil_iff.2 fun _ _ => rfl
          rw [allDecls, List.flatMap_append, List.flatMap_map, List.flatMap_map, List.map_eq_flatMap]
          show (decls.flatMap fun _ => []) ++ f.constGroups.flatMap (fun g => [g.map ConstSpec.withoutLine]) = _
          rw [hnone, List.nil_append]
  rw [withoutLines, withoutLines, htypes, hconsts]

/-- **What is written down is read back**, in whatever groups the types are written. -/
theorem parse_render_withoutLines (hf : f.Renderable) (hd : decls.flatMap TypeDecl.specs = f.types) :
    ∃ g, SourceFile.parse (f.render decls) = .ok g ∧ g.withoutLines = f.withoutLines := by
  obtain ⟨ts, hts, hsigns⟩ := (scans_render hf hd).finish .start
  rw [if_neg Bool.false_ne_true, List.append_nil, declSigns_eq] at hsigns
  have hsigns : ts.map Token.sign = fileSigns f.package [] ((allDecls decls f).flatMap Decl.signs) ++
    [(.endOfFile, "")] := hsigns
  obtain ⟨as, has, hfile⟩ := ofTokens_of_signs (takes_decl hf hd) (fun i _ => exists_declSigns i) hsigns
  refine ⟨_, ?_, withoutLines_eq hd has⟩
  rw [SourceFile.parse, Token.scan, hts]
  simp only [hfile]

/-! ### A file with all kinds of declarations -/

/-- A struct with an array field beside an embedded generic type, and a struct in it. -/
def penType : TypeExpr :=
  .struct [⟨["Rows"], .array (.name "Row"), none⟩,
    ⟨[], .pointer (.generic (.qualified "zoo" "Base")), some "json:\"base\""⟩,
    ⟨["Open", "Shut"], .func, some "cb"⟩, ⟨["Keeper"], .struct [⟨["Name"], .name "string", none⟩], some "k"⟩]

/-- A struct, a generic alias, an interface and constants. -/
def penFile : SourceFile where
  package := "pens"
  types := [⟨"Pen", penType, 3, false, false⟩,
    ⟨"Index", .map (.name "string") (.slice (.chan (.name "T"))), 9, true, true⟩,
    ⟨"Opener", .interface ["Open", "Close"], 10, false, false⟩]
  constGroups := [[⟨["Small", "Large"], some (.name "Size"), true, 15⟩, ⟨["Huge"], none, false, 16⟩]]

/-- The first two types in one group, the third by itself. -/
def penDecls : List TypeDecl :=
  [.block (penFile.types.take 2), .block [], .single ⟨"Opener", .interface ["Open", "Close"], 10, false, false⟩]

/-- The file as it is written. -/
example : penFile.render penDecls =
    "package pens\ntype (\nPen struct \x7b\nRows [0]Row\n*zoo.Base[int] \x60json:\"base\"\x60\nOpen, Shut func() \x60cb\x60\n"
      ++ "Keeper struct \x7b\nName string\n\x7d \x60k\x60\n\x7d\nIndex[T any] = map[string][]chan T\n)\ntype (\n)\n"
      ++ "type Opener interface \x7b\nOpen()\nClose()\n\x7d\nconst (\nSmall, Large Size = 0\nHuge\n)\n" := by
  decide +kernel

/-- The names in the file. -/
def penNames : List String :=
  ["pens", "Pen", "Rows", "Row", "zoo", "Base", "Open", "Shut", "Keeper", "Name", "string", "Index", "T",
  "Opener", "Close", "Small", "Large", "Huge", "Size"]

theorem isIdentifier_penNames {names : List String} (h : names ⊆ penNames) :
    ∀ n ∈ names, Token.IsIdentifier n := by
  have hnames : ∀ n ∈ penNames, IsName n := by decide
  exact fun n hn => Token.isIdentifier_iff.2 (hnames n (h hn))

theorem renderable_penType : penType.Renderable := by
  have hname {n : String} (h : [n] ⊆ penNames) : Token.IsIdentifier n :=
    isIdentifier_penNames h n List.mem_cons_self
  have hinner : FieldOK ⟨["Name"], .name "string", none⟩ := ⟨isIdentifier_penNames (by decide), by simp, by simp⟩
  refine .struct ?_ ?_
  · simp only [List.forall_mem_cons, List.not_mem_nil, false_imp_iff, implies_true, and_true]
    refine ⟨⟨isIdentifier_penNames (by decide), by simp, by simp⟩, ⟨by simp, fun _ => ?_, by decide⟩,
      ⟨isIdentifier_penNames (by decide), by simp, by decide⟩,
        ⟨isIdentifier_penNames (by decide), by simp, by decide⟩⟩
    exact .pointer (.generic (.qualified (hname (by decide)) (hname (by decide))))
  · simp only [List.forall_mem_cons, List.not_mem_nil, false_imp_iff, implies_true, and_true]
    refine ⟨.array (.name (hname (by decide))),
      .pointer (.generic (.qualified (hname (by decide)) (hname (by decide)))), .func, ?_⟩
    refine .struct ?_ ?_
    · exact fun f hf => List.mem_singleton.1 hf ▸ hinner
    · exact fun f hf => List.mem_singleton.1 hf ▸ .name (hname (by decide))

theorem renderable_penFile : penFile.Renderable := by
  have hname {n : String} (h : [n] ⊆ penNames) : Token.IsIdentifier n :=
    isIdentifier_penNames h n List.mem_cons_self
  refine ⟨hname (by decide), ?_, ?_⟩
  · simp only [penFile, List.forall_mem_cons, List.not_mem_nil, false_imp_iff, implies_true, and_true]
    refine ⟨⟨hname (by decide), renderable_penType⟩, ⟨hname (by decide), ?_⟩, ⟨hname (by decide), ?_⟩⟩
    · exact .map (.name (hname (by decide))) (.slice (.chan (.name (hname (by decide)))))
    · exact .interface (isIdentifier_penNames (by decide))
  · simp only [penFile, List.forall_mem_cons, List.not_mem_nil, false_imp_iff, implies_true, and_true]
    refine ⟨⟨by simp, ⟨hname (by decide), hname (by decide)⟩, ?_⟩, ⟨by simp, hname (by decide), by simp⟩⟩
    rintro _ ⟨⟩
    exact .name (hname (by decide))

/-- A file with every kind of type and declaration is read back as it is. -/
theorem parse_render_withoutLines_penFile : penFile.Renderable ∧ penDecls.flatMap TypeDecl.specs = penFile.types ∧
    ∃ g, SourceFile.parse (penFile.render penDecls) = .ok g ∧ g.withoutLines = penFile.withoutLines :=
  ⟨renderable_penFile, rfl, parse_render_withoutLines renderable_penFile rfl⟩

end SourceFile

end GoFixtures.Go
