import GoFixtures.Go.SourceFile
import GoFixtures.Proofs.Go.Reading

/-!
# Functions and files

A file adds up what its declarations add. One with imports and functions alone is read as a file without
declarations. Of a function only its outline matters: the brackets have to be balanced, and the result has to
be a type.

* `SourceFile.takes_funcDecl`, `SourceFile.takes_importDecl`: functions and imports.
* `SourceFile.takes_reader`: files.
* `SourceFile.ofTokens_functions`: files of functions.
-/

namespace GoFixtures.Go

open TokenReader

namespace TypeExpr

variable {signs : Signs} {F : Token.Kind → Prop} {Q : TypeExpr → Prop} {n p : String} {v : String}

/-- What a name does not go on with. -/
def EndsName (k : Token.Kind) : Prop := k ≠ .mark .dot ∧ k ≠ .opening .square

/-- Reads a name, qualified or not. -/
def typeName : TokenReader TypeExpr := do
  let first ← expect .identifier
  if ← accept (.mark .dot) then
    let second ← expect .identifier
    return qualified first.value second.value
  else
    return name first.value

theorem named_eq : named = (do
    let base ← typeName
    if ← at? (.opening .square) then
      skipGroup .square
      return generic base
    else
      return base) := by
  rw [typeName, bind_assoc]
  refine congrArg (expect .identifier >>= ·) (funext fun first => ?_)
  rw [bind_assoc]
  refine congrArg (accept (.mark .dot) >>= ·) (funext fun dot => ?_)
  cases dot with
  | false => rfl
  | true =>
    simp only [if_true]
    rw [bind_assoc]

theorem takes_typeName_name : Takes typeName [(.identifier, n)] (· ≠ .mark .dot) (· = .name n) := by
  show Takes typeName ([(.identifier, n)] ++ []) _ _
  refine Takes.bind (G := (· ≠ .mark .dot)) Takes.expect (fun t ht => ?_) fun _ hk => hk
  refine Takes.look Takes.accept_false (fun b hb => ?_) fun _ hk => hk
  rw [hb]
  exact Takes.pure (congrArg TypeExpr.name (congrArg Prod.snd ht))

theorem takes_typeName_qualified :
    Takes typeName [(.identifier, p), (.mark .dot, v), (.identifier, n)] F (· = .qualified p n) := by
  show Takes typeName ([(.identifier, p)] ++ ([(.mark .dot, v)] ++ [(.identifier, n)])) _ _
  refine Takes.andThen Takes.expect (fun t ht => ?_)
  refine Takes.andThen Takes.accept_true (fun b hb => ?_)
  simp only [hb, if_true]
  refine Takes.expect.map fun u hu => ?_
  have hp : t.value = p := congrArg Prod.snd ht
  have hn : u.value = n := congrArg Prod.snd hu
  rw [hp, hn]

/-- A name without type arguments. -/
theorem takes_named {t : TypeExpr} (h : Takes typeName signs (· ≠ .mark .dot) (· = t)) :
    Takes named signs EndsName (· = t) := by
  rw [named_eq, ← List.append_nil signs]
  refine Takes.bind (G := EndsName) (h.mono (fun _ hk => hk.1) fun _ ha => ha) (fun a ha => ?_) fun _ hk => hk
  refine Takes.look Takes.at?_false (fun b hb => ?_) fun _ hk => hk.2
  rw [hb]
  exact Takes.pure ha

/-- A name with type arguments. -/
theorem takes_generic {t : TypeExpr} {arguments : Signs} (h : Takes typeName signs (· ≠ .mark .dot) (· = t))
    (ha : arguments.Balanced .square) : Takes named (signs ++ arguments.inside .square) F (· = .generic t) := by
  rw [named_eq]
  refine Takes.bind (G := (· = .opening .square)) (h.mono (by simp +contextual) fun _ ha => ha)
    (fun base hbase => ?_) fun _ hk => hk
  refine Takes.look Takes.at?_true (fun b hb => ?_) fun _ hk => hk
  rw [hb, if_pos rfl]
  exact (takes_skipGroup ha).map fun _ _ => congrArg generic hbase

theorem takes_name : Takes named [(.identifier, n)] EndsName (· = .name n) :=
  takes_named takes_typeName_name

theorem takes_qualified :
    Takes named [(.identifier, p), (.mark .dot, v), (.identifier, n)] EndsName (· = .qualified p n) :=
  takes_named takes_typeName_qualified

theorem takes_ofDepth_identifier {rest : Signs} {d : Nat} (h : Takes named ((.identifier, n) :: rest) F Q) :
    Takes (ofDepth (d + 1)) ((.identifier, n) :: rest) F Q := by
  refine Takes.look (Takes.peek (F := (· = .identifier))) (fun t ht => ?_) fun _ hk => hk
  simp only [ht]
  exact h

theorem takes_ofDepth_star {d : Nat} (h : Takes (ofDepth d) signs F (fun t => Q (.pointer t))) :
    Takes (ofDepth (d + 1)) ((.mark .star, v) :: signs) F Q := by
  refine Takes.look (Takes.peek (F := (· = .mark .star))) (fun t ht => ?_) fun _ hk => hk
  simp only [ht]
  show Takes _ ([(.mark .star, v)] ++ signs) _ _
  exact Takes.andThen Takes.advance (fun _ _ => h.map fun _ hq => hq)

/-- The depth that the tokens allow is enough for a type, if their number is. -/
theorem takes_reader (h : ∀ d, signs.length ≤ d → Takes (ofDepth d) signs F Q) : Takes reader signs F Q := by
  intro ts t rest hts ht
  have hlen : signs.length ≤ (ts ++ t :: rest).length := by
    rw [← hts, List.length_map, List.length_append]
    omega
  exact h _ hlen ts t rest hts ht

/-- A signature with parameters and one result. -/
theorem takes_skipSignature {params result : Signs} {type : TokenReader TypeExpr} (hp : params.Balanced .paren)
    (hr : Takes type result F Q) (hs : ∀ k, Begins result F k → isStart k) :
    Takes (skipSignature type) (params.inside .paren ++ result) F (fun _ => True) := by
  refine Takes.andThen (takes_skipGroup hp) (fun _ _ => ?_)
  refine Takes.look (Takes.peekKind (F := (isStart ·))) (fun k hk => ?_) fun k hk => hs k hk
  have hparen : k ≠ .opening .paren := by
    rintro rfl
    exact absurd hk (by decide)
  simp only [hparen, if_false, hk, if_true]
  exact hr.map fun _ _ => trivial

end TypeExpr

namespace SourceFile

variable {F : Token.Kind → Prop} {name v : String} {typeParams params result body : Signs}

/-- The outline of a function: type parameters or none, parameters, one result, and a body. -/
structure Outline (typeParams params result body : Signs) : Prop where
  balancedTypeParams : typeParams = [] ∨ ∃ inner : Signs, inner.Balanced .square ∧
    typeParams = inner.inside .square
  balancedParams : params.Balanced .paren
  isType : ∃ Q, TokenReader.Takes TypeExpr.reader result (· = .opening .brace) Q
  startsType : ∀ k, Begins result (· = .opening .brace) k → TypeExpr.isStart k
  balancedBody : body.Balanced .brace

/-- The signs of a function. -/
def functionSigns (name : String) (typeParams params result body : Signs) : Signs :=
  (.keyword .func, "func") :: (.identifier, name) ::
    (typeParams ++ (params.inside .paren ++ (result ++ body.inside .brace)))

theorem takes_funcDecl (h : Outline typeParams params result body) :
    Takes funcDecl (functionSigns name typeParams params result body) F (fun _ => True) := by
  obtain ⟨Q, hresult⟩ := h.isType
  -- the signature and the body
  have htail : Takes (do TypeExpr.skipSignature TypeExpr.reader; if ← at? (.opening .brace) then
    TokenReader.skipGroup .brace)
      (params.inside .paren ++ (result ++ body.inside .brace)) F (fun _ => True) := by
    rw [← List.append_assoc]
    refine Takes.bind (TypeExpr.takes_skipSignature h.balancedParams hresult h.startsType) (fun _ _ =>
      ?_) fun _ hk => hk
    refine Takes.look Takes.at?_true (fun b hb => ?_) fun _ hk => hk
    rw [hb, if_pos rfl]
    exact takes_skipGroup h.balancedBody
  show Takes _ ([(.keyword .func, "func")] ++ ([(.identifier, name)] ++ _)) _ _
  refine Takes.bind (G := (· = .identifier)) Takes.expect (fun _ _ => ?_) fun _ hk => hk
  refine Takes.look (Takes.mono Takes.at?_false (F := (· = .identifier)) (by simp +contextual) fun _ h => h)
    (fun b hb => ?_) fun _ hk => hk
  simp only [hb, Bool.false_eq_true, if_false]
  refine Takes.andThen Takes.expect (fun _ _ => ?_)
  rcases h.balancedTypeParams with rfl | ⟨inner, hinner, rfl⟩
  · refine Takes.look (Takes.mono Takes.at?_false (F := (· = .opening .paren)) (by simp +contextual) fun _ h => h)
      (fun b hb => ?_) fun _ hk => hk
    simp only [hb, Bool.false_eq_true, if_false]
    exact htail
  · refine Takes.look Takes.at?_true (fun b hb => ?_) fun _ hk => hk
    simp only [hb, if_true]
    exact Takes.andThen (takes_skipGroup hinner) (fun _ _ => htail)

theorem takes_function (h : Outline typeParams params result body) :
    Takes declaration (functionSigns name typeParams params result body ++ [(.mark .semicolon, v)])
      (· ≠ .mark .semicolon)
      (· = .nothing) := by
  refine Takes.look (Takes.peek (F := (· = .keyword .func))) (fun t ht => ?_) fun _ hk => hk
  simp only [ht]
  refine Takes.andThen (takes_funcDecl h) (fun _ _ => ?_)
  show Takes (expectTerminator >>= fun _ => skipSemicolons >>= fun _ => pure Addition.nothing)
    ([(.mark .semicolon, v)] ++ []) _ _
  refine Takes.bind (G := (· ≠ .mark .semicolon)) Takes.expectTerminator (fun _ _ => ?_) fun _ hk => hk
  exact Takes.skipSemicolons.map fun _ _ => rfl

/-- The signs of an import: a name, if there is one, and a path. -/
def importSigns : Option String × String → Signs
  | (some name, path) => [(.identifier, name), (.string, path)]
  | (none, path) => [(.string, path)]

theorem takes_importSpec (i : Option String × String) : Takes importSpec (importSigns i) F (fun _ => True) := by
  match i with
  | (some name, path) =>
    refine Takes.look (Takes.peekKind (F := (· = .identifier))) (fun k hk => ?_) fun _ hk => hk
    simp only [hk]
    show Takes _ ([(.identifier, name)] ++ [(.string, path)]) _ _
    refine Takes.andThen Takes.advance (fun _ _ => ?_)
    exact Takes.expect.map fun _ _ => trivial
  | (none, path) =>
    refine Takes.look (Takes.peekKind (F := (· = .string))) (fun k hk => ?_) fun _ hk => hk
    simp only [hk]
    exact Takes.expect.map fun _ _ => trivial

/-- The signs of an import declaration: a group with one import on each line. -/
def importDeclSigns (imports : List (Option String × String)) : Signs :=
  (.keyword .«import», "import") ::
    Signs.inside .paren (imports.flatMap fun i => importSigns i ++ [Token.lineSign])

theorem takes_importDecl (imports : List (Option String × String)) :
    Takes importDecl (importDeclSigns imports ++ [(.mark .semicolon, v)]) (· ≠ .mark .semicolon)
      (fun _ => True) := by
  -- an import begins with its name or with its path
  have hhead : ∀ i ∈ imports, ∃ k v rest, importSigns i = (k, v) :: rest ∧
      k ≠ .closing .paren ∧ k ≠ .endOfFile ∧ k ≠ .mark .semicolon := by
    intro i _
    match i with
    | (some name, path) => exact ⟨_, _, _, rfl, by decide⟩
    | (none, path) => exact ⟨_, _, _, rfl, by decide⟩
  have hgroup :
    Takes (group importSpec) (Signs.inside .paren (imports.flatMap fun i => importSigns i ++ [Token.lineSign]))
      (fun _ => True) (fun _ => True) :=
    (takes_block (fun i _ => takes_importSpec (F := (· = .mark .semicolon)) i) hhead).imp fun _ _ => trivial
  rw [importDeclSigns, List.cons_append, ← List.singleton_append]
  refine Takes.andThen Takes.expect (fun _ _ => ?_)
  refine Takes.bind hgroup (fun _ _ => ?_) fun _ _ => trivial
  show Takes _ ([(.mark .semicolon, v)] ++ []) _ _
  exact Takes.bind (G := (· ≠ .mark .semicolon)) Takes.expectTerminator (fun _ _ =>
    Takes.skipSemicolons) fun _ hk => hk

section File

variable {ι : Type} {package : String} {imports : List (List (Option String × String))} {decls : List ι}
    {signs : ι → Signs}
  {Q : ι → Addition → Prop}

/-- The signs of a file: a package clause, import declarations, and other declarations. -/
def fileSigns (package : String) (imports : List (List (Option String × String))) (decls : Signs) : Signs :=
  [(.keyword .package, "package"), (.identifier, package), Token.lineSign]
    ++ ((imports.flatMap fun i => importDeclSigns i ++ [Token.lineSign]) ++ decls)

/-- What a declaration begins with. -/
def StartsDeclaration (k : Token.Kind) : Prop := k ∈ [.keyword .func, .keyword .type, .keyword .const]

/-- **A file** adds up what its declarations add. -/
theorem takes_reader (hd : ∀ i ∈ decls, Takes declaration (signs i) (· ≠ .mark .semicolon) (Q i))
    (hs : ∀ i ∈ decls, ∃ k v rest, signs i = (k, v) :: rest ∧ StartsDeclaration k) :
    Takes reader (fileSigns package imports (decls.flatMap signs)) (· = .endOfFile)
      (fun f => ∃ as, List.Forall₂ Q decls as ∧
        f = ⟨package, as.flatMap Addition.typeSpecs, as.flatMap Addition.constGroups⟩) := by
  have hstarts : ∀ k, StartsDeclaration k → k ≠ .keyword .«import» ∧ k ≠ .mark .semicolon ∧ k ≠ .endOfFile := by
    intro k hk
    simp only [StartsDeclaration, List.mem_cons, List.not_mem_nil, or_false] at hk
    rcases hk with rfl | rfl | rfl <;> decide
  -- the two loops of the reader: imports first, then declarations
  have hdecls : Takes (repeatWhile (· ≠ .endOfFile) declaration) (decls.flatMap signs) (· = .endOfFile)
      (List.Forall₂ Q decls) := by
    refine Takes.repeatWhile hd (fun i hi => ?_) fun k hk => by simp [hk]
    obtain ⟨k, v, rest, hrest, hk⟩ := hs i hi
    exact ⟨k, v, rest, hrest, by simp [hstarts k hk], (hstarts k hk).2.1⟩
  have himports : Takes (repeatWhile (· = .keyword .«import») importDecl)
      (imports.flatMap fun i => importDeclSigns i ++ [Token.lineSign]) (fun k =>
        StartsDeclaration k ∨ k = .endOfFile)
      (fun _ => True) := by
    refine Takes.mono
      (Takes.repeatWhile (G := (· ≠ .mark .semicolon)) (fun i _ => takes_importDecl i) (fun i _ => ?_) ?_)
      (fun _ hk => hk) fun _ _ => trivial
    · exact ⟨_, _, _, rfl, by decide⟩
    · rintro k (hk | rfl)
      · exact ⟨by simp [hstarts k hk], (hstarts k hk).2.1⟩
      · decide
  -- what comes behind each of them
  have hnext : ∀ k, Begins (decls.flatMap signs) (· = .endOfFile) k → StartsDeclaration k ∨ k = .endOfFile := by
    refine begins_flatMap (fun i hi => ?_) fun k hk => .inr hk
    obtain ⟨k, v, rest, hrest, hk⟩ := hs i hi
    exact ⟨k, v, rest, hrest, .inl hk⟩
  have hnext' : ∀ k, Begins ((imports.flatMap fun i => importDeclSigns i ++ [Token.lineSign]) ++
      decls.flatMap signs) (· = .endOfFile) k → k ≠ .mark .semicolon := by
    intro k
    rw [begins_append]
    refine begins_flatMap (G := (· ≠ .mark .semicolon)) (fun i _ => ⟨_, _, _, rfl, by decide⟩) (fun k hk => ?_) k
    rcases hnext k hk with hk | rfl
    · exact (hstarts k hk).2.1
    · decide
  refine Takes.look (G := (· ≠ .mark .semicolon)) Takes.skipSemicolons (fun _ _ => ?_) fun k hk => hk ▸ by decide
  show Takes _ ([(.keyword .package, "package")] ++
    ([(.identifier, package)] ++ ([Token.lineSign] ++ (_ ++ _)))) _ _
  refine Takes.andThen Takes.expect (fun _ _ => ?_)
  refine Takes.andThen Takes.expect (fun t ht => ?_)
  refine Takes.bind Takes.expectTerminator (fun _ _ => ?_) hnext'
  refine Takes.look Takes.skipSemicolons (fun _ _ => ?_) hnext'
  refine Takes.bind himports (fun _ _ => ?_) hnext
  refine hdecls.map fun as has => ⟨as, has, ?_⟩
  rw [show t.value = package from congrArg Prod.snd ht]

/-- The tokens of a file. -/
theorem ofTokens_of_signs (hd : ∀ i ∈ decls, Takes declaration (signs i) (· ≠ .mark .semicolon) (Q i))
    (hs : ∀ i ∈ decls, ∃ k v rest, signs i = (k, v) :: rest ∧ StartsDeclaration k) {ts : List Token}
    (ht : ts.map Token.sign = fileSigns package imports (decls.flatMap signs) ++ [(.endOfFile, "")]) :
    ∃ as, List.Forall₂ Q decls as ∧
      ofTokens ts = .ok ⟨package, as.flatMap Addition.typeSpecs, as.flatMap Addition.constGroups⟩ := by
  obtain ⟨us, ws, rfl, hus, hws⟩ := List.map_eq_append_iff.1 ht
  obtain ⟨t, rfl, hend⟩ := List.map_eq_singleton_iff.1 hws
  obtain ⟨file, ⟨as, has, rfl⟩, hr⟩ := takes_reader hd hs us t [] hus (congrArg Prod.fst hend)
  refine ⟨as, has, ?_⟩
  rw [ofTokens, hr]
  rfl

/-- Declarations that add nothing. -/
theorem flatMap_nothing {τ : Type} {as : List Addition} {f : Addition → List τ} (hf : f .nothing = [])
    (h : List.Forall₂ (fun _ a => a = .nothing) decls as) : as.flatMap f = [] := by
  induction h with
  | nil => rfl
  | cons ha _ ih => rw [List.flatMap_cons, ha, hf, ih]; rfl

/-- **A file of functions** declares no types and no constants. -/
theorem ofTokens_functions (hf : ∀ i ∈ decls, Takes declaration (signs i) (· ≠ .mark .semicolon) (· = .nothing))
    (hs : ∀ i ∈ decls, ∃ rest, signs i = (.keyword .func, "func") :: rest) {ts : List Token}
    (ht : ts.map Token.sign = fileSigns package imports (decls.flatMap signs) ++ [(.endOfFile, "")]) :
    ofTokens ts = .ok ⟨package, [], []⟩ := by
  have hstarts : ∀ i ∈ decls, ∃ k v rest, signs i = (k, v) :: rest ∧ StartsDeclaration k := by
    intro i hi
    obtain ⟨rest, hrest⟩ := hs i hi
    exact ⟨_, _, rest, hrest, List.mem_cons_self⟩
  obtain ⟨as, has, hr⟩ := ofTokens_of_signs hf hstarts ht
  rw [hr, flatMap_nothing rfl has, flatMap_nothing rfl has]

end File

end SourceFile

end GoFixtures.Go
