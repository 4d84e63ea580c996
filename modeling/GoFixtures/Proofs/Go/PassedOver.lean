import GoFixtures.Proofs.Go.Groups
import GoFixtures.Proofs.Go.Rows

/-!
# Declarations that are passed over

A function, and variables in parentheses, add nothing to a file, whatever stands between their brackets: a
group of brackets is passed over up to the bracket of its own kind that closes it. They may keep a file from
being read, though, if a look for a closing bracket that begins in front of them comes to its end in them or
behind them.

* `IsPassedOver`: the declarations.
* `content_passedOver`: how one of them is read.
* `SourceFile.ofTokens_passedOver`: a file with one of them and the file without it.
-/

namespace GoFixtures.Go

open TokenReader TypeExpr

/-- The results of a function in front of `next`: none, a list in parentheses, or a single type. The second
list has the tokens of the type, if there is one. -/
inductive IsResult (next : Token) : List Token → List Token → Prop
  | none : IsResult next [] []
  | list {ts : List Token} (h : IsGroup .paren ts) : IsResult next ts []
  | type {ts : List Token} {t : TypeExpr} (hs : isStart (kindAt ts 0))
      (ht : TypeExpr.reader (ts ++ [next, .finish .start]) =
        .ok (t, [next, .finish .start])) : IsResult next ts ts

/-- A declaration that is passed over, with the semicolon that ends it: variables in parentheses, or a
function. The second list has the tokens of the result of the function, if that is a single type. -/
inductive IsPassedOver : List Token → List Token → Prop
  | var {keyword semicolon : Token} {group : List Token} (hkeyword : keyword.kind = .keyword .var)
      (hgroup : IsGroup .paren group)
      (hsemi : semicolon.kind = .mark .semicolon) : IsPassedOver (keyword :: (group ++ [semicolon])) []
  | func {keyword name semicolon : Token} {receiver typeParams params result type body : List Token}
      (hkeyword : keyword.kind = .keyword .func) (hreceiver : receiver = [] ∨ IsGroup .paren receiver)
      (hname : name.kind = .identifier)
      (htypeParams : typeParams = [] ∨ IsGroup .square typeParams) (hparams : IsGroup .paren params)
      (hresult : IsResult (headOf (body ++ [semicolon])) result type) (hbody : body = [] ∨ IsGroup .brace body)
      (hsemi : semicolon.kind = .mark .semicolon) :
      IsPassedOver
        (keyword :: (receiver ++ name :: (typeParams ++ (params ++ (result ++ (body ++ [semicolon])))))) type

section Groups

variable {b : Bracket} {g rest : List Token}

/-- A group that may be left out, in front of something else. -/
theorem optionalGroup_append {α : Type} {r : TokenReader α} (h : g = [] ∨ IsGroup b g)
    (hnext : kindAt rest 0 ≠ .opening b) : (do
      if ← at? (.opening b) then skipGroup b
      r) (g ++ rest) = r rest := by
  rcases h with rfl | h
  · simp [bind_apply, at?, hnext]
  · simp only [bind_apply, at?, kindAt_group h, decide_true, if_true]
    rw [skipGroup_append h]

end Groups

/-! ### Functions -/

section Signature

variable {params result type body : List Token} {semicolon : Token} {rest : List Token}

/-- What stands behind the parameters and results of a function. -/
theorem kindAt_body (hbody : body = [] ∨ IsGroup .brace body) (hsemi : semicolon.kind = .mark .semicolon) :
    kindAt (body ++ semicolon :: rest) 0 = .opening .brace ∨
      kindAt (body ++ semicolon :: rest) 0 = .mark .semicolon := by
  rcases hbody with rfl | hbody
  · exact .inr hsemi
  · exact .inl (kindAt_group hbody)

/-- **A signature** is passed over, or a look in the type of the result comes to its end behind the type. -/
theorem skipSignature_append {next : Token} {more : List Token} (hparams : IsGroup .paren params)
    (hresult : IsResult next result type)
    (hnext : next.kind = .opening .brace ∨ next.kind = .mark .semicolon) (hmore : more ≠ []) :
    skipSignature reader (params ++ (result ++ next :: more)) = .ok ((), next :: more) ∨
      ¬ Closes type ∧ ∃ e, skipSignature reader (params ++ (result ++ next :: more)) = .error e := by
  have hsignature : skipSignature reader (params ++ (result ++ next :: more)) = (do
      let k : Token.Kind ← peekKind 0
      if k = .opening .paren then skipGroup .paren
      else if isStart k then let _ ← reader
      return () : TokenReader Unit) (result ++ next :: more) := by
    rw [skipSignature, bind_apply, skipGroup_append hparams]
  rw [hsignature, bind_apply]
  simp only [peekKind]
  cases hresult with
  | none =>
    left
    rcases hnext with hnext | hnext <;> simp [kindAt, hnext, isStart, pure_apply]
  | list h =>
    left
    rw [kindAt_group h, if_pos rfl, bind_apply, skipGroup_append h]
    rfl
  | @type _ t hs ht =>
    have hstart : kindAt (result ++ next :: more) 0 = kindAt result 0 := by
      cases result with
      | nil => cases hs
      | cons t ts => rfl
    have hparen : kindAt result 0 ≠ .opening .paren := by
      intro hk
      rw [hk] at hs
      cases hs
    rw [hstart, if_neg hparen, if_pos hs, bind_apply]
    have halike : Alike [.finish .start] more reader reader (result ++ [next, .finish .start]) :=
      TypeExpr.alike_reader (by simp) (List.length_pos_of_ne_nil hmore)
    have hsplit (q : List Token) : result ++ next :: q = (result ++ [next]) ++ q := by simp
    rcases halike.agrees (hsplit _) (List.cons_ne_nil next []) ht with hr | ⟨hmisled, e, he⟩
    · left
      rw [hsplit, hr]
      rfl
    · refine .inr ⟨fun hcloses => ?_, e, by rw [hsplit, he]⟩
      have hsquare : next.kind ≠ .opening .square := by
        rcases hnext with hnext | hnext <;> simp [hnext]
      refine not_misled_of_closes ?_ (hcloses.concat hsquare) hmisled
      intro t b hlast
      rw [List.getLast?_concat] at hlast
      obtain rfl := Option.some.inj hlast
      rcases hnext with hnext | hnext <;> simp [hnext]

/-- The signature of a function and its body. -/
def funcBehindName : TokenReader Unit := do
  skipSignature reader
  if ← at? (.opening .brace) then skipGroup .brace

theorem funcBehindName_append (hparams : IsGroup .paren params)
    (hresult : IsResult (headOf (body ++ [semicolon])) result type)
    (hbody : body = [] ∨ IsGroup .brace body) (hsemi : semicolon.kind = .mark .semicolon) (hrest : rest ≠ []) :
    funcBehindName (params ++ (result ++ (body ++ semicolon :: rest))) = .ok ((), semicolon :: rest) ∨
      ¬ Closes type ∧ ∃ e, funcBehindName (params ++ (result ++ (body ++ semicolon :: rest))) = .error e := by
  obtain ⟨next, more, hmore, hhead, hne⟩ : ∃ next more, body ++ semicolon :: rest = next :: more ∧
      headOf (body ++ [semicolon]) = next ∧ more ≠ [] := by
    cases body with
    | nil => exact ⟨semicolon, rest, rfl, rfl, hrest⟩
    | cons t body => exact ⟨t, body ++ semicolon :: rest, rfl, rfl, by simp⟩
  have hnext : next.kind = .opening .brace ∨ next.kind = .mark .semicolon := by
    have hkind : kindAt (body ++ semicolon :: rest) 0 = .opening .brace ∨
        kindAt (body ++ semicolon :: rest) 0 = .mark .semicolon :=
      kindAt_body hbody hsemi
    rwa [hmore] at hkind
  rw [hhead] at hresult
  rw [hmore]
  rcases skipSignature_append hparams hresult hnext hne with hr | ⟨hcloses, e, he⟩
  · left
    rw [funcBehindName, bind_apply, hr]
    simp only
    rw [← hmore]
    rcases hbody with rfl | hbody
    · simp [bind_apply, at?, kindAt, hsemi, pure_apply]
    · simp only [bind_apply, at?, kindAt_group hbody, decide_true, if_true]
      rw [skipGroup_append hbody]
  · right
    refine ⟨hcloses, e, ?_⟩
    rw [funcBehindName, bind_apply, he]

/-- A function is passed over up to its parameters. -/
theorem funcDecl_apply {keyword name : Token} {receiver typeParams us : List Token}
    (hkeyword : keyword.kind = .keyword .func)
    (hreceiver : receiver = [] ∨ IsGroup .paren receiver) (hname : name.kind = .identifier)
    (htypeParams : typeParams = [] ∨ IsGroup .square typeParams) (hus : kindAt us 0 = .opening .paren) :
    SourceFile.funcDecl (keyword :: (receiver ++ name :: (typeParams ++ us))) = funcBehindName us := by
  have hne : us ≠ [] := by
    rintro rfl
    cases hus
  have hsecond : kindAt us 0 ≠ .opening .square := by
    rw [hus]
    decide
  have hfirst : kindAt (name :: (typeParams ++ us)) 0 ≠ .opening .paren := by
    rw [show kindAt (name :: (typeParams ++ us)) 0 = name.kind from rfl, hname]
    decide
  have hbehindName : (do
      let _ ← expect .identifier
      if ← at? (.opening .square) then skipGroup .square
      funcBehindName) (name :: (typeParams ++ us)) = funcBehindName us := by
    rw [bind_apply, expect_apply hname (List.append_ne_nil_of_right_ne_nil _ hne)]
    exact optionalGroup_append htypeParams hsecond
  refine Eq.trans ?_ ((optionalGroup_append hreceiver hfirst).trans hbehindName)
  rw [SourceFile.funcDecl, bind_apply, expect_apply hkeyword (by simp)]
  rfl

end Signature

namespace SourceFile

variable {a b d q type rest : List Token}

/-- **How a declaration is passed over**: up to its semicolon, unless a look in the type of its result comes
to its end behind the type. -/
theorem content_passedOver (h : IsPassedOver d type) :
    ∃ p semicolon, d = p ++ [semicolon] ∧ semicolon.kind = .mark .semicolon ∧
    ∀ rest, rest ≠ [] → content (p ++ semicolon :: rest) = .ok (.nothing, semicolon :: rest) ∨
      ¬ Closes type ∧ ∃ e, content (p ++ semicolon :: rest) = .error e := by
  cases h with
  | @var keyword semicolon group hkeyword hgroup hsemi =>
    refine ⟨keyword :: group, semicolon, rfl, hsemi, fun rest _ => .inl ?_⟩
    have hcontent : content (keyword :: (group ++ semicolon :: rest)) =
        (varDecl >>= fun _ => pure .nothing) (keyword :: (group ++ semicolon :: rest)) := by
      rw [content, bind_apply]
      simp only [peek, headOf, hkeyword]
    have hvar : varDecl (keyword :: (group ++ semicolon :: rest)) = .ok ((), semicolon :: rest) := by
      rw [varDecl, bind_apply, expect_apply hkeyword (by simp)]
      simp only [bind_apply, at?, kindAt_group hgroup, decide_true, if_true]
      rw [skipGroup_append hgroup]
    rw [List.cons_append, hcontent, bind_apply, hvar]
    rfl
  | @func keyword name semicolon receiver typeParams params result _ body hkeyword hreceiver hname htypeParams
    hparams hresult hbody hsemi =>
    refine ⟨keyword :: (receiver ++ name :: (typeParams ++ (params ++ (result ++ body)))), semicolon,
      by simp, hsemi, fun rest hrest => ?_⟩
    have hts : keyword :: (receiver ++ name :: (typeParams ++ (params ++ (result ++ body)))) ++
      semicolon :: rest =
        keyword :: (receiver ++ name :: (typeParams ++ (params ++ (result ++ (body ++ semicolon :: rest))))) := by
      simp
    have hcontent :
      content (keyword ::
        (receiver ++ name :: (typeParams ++ (params ++ (result ++ (body ++ semicolon :: rest)))))) =
        (funcDecl >>= fun _ => pure .nothing)
          (keyword ::
            (receiver ++ name :: (typeParams ++ (params ++ (result ++ (body ++ semicolon :: rest)))))) := by
      rw [content, bind_apply]
      simp only [peek, headOf, hkeyword]
    have hfirst : kindAt (params ++ (result ++ (body ++ semicolon :: rest))) 0 = .opening .paren :=
      kindAt_group hparams
    rw [hts, hcontent, bind_apply, funcDecl_apply hkeyword hreceiver hname htypeParams hfirst]
    rcases funcBehindName_append hparams hresult hbody hsemi hrest with hr | ⟨hcloses, e, he⟩
    · exact .inl (by rw [hr]; rfl)
    · exact .inr ⟨hcloses, e, by rw [he]⟩

/-- What a declaration that is passed over does not begin with. -/
theorem kindAt_passedOver_ne {k : Token.Kind} (h : IsPassedOver d type)
    (hk : k ∉ [Token.Kind.keyword .var, .keyword .func]) :
    kindAt (d ++ q) 0 ≠ k := by
  rintro rfl
  cases h with
  | var hkeyword => exact hk (hkeyword ▸ List.mem_cons_self)
  | func hkeyword => exact hk (hkeyword ▸ List.mem_cons_of_mem _ List.mem_cons_self)

/-- The tokens are a package clause and a whole number of declarations in front of `q`, each with the
semicolon that ends it. -/
def IsWhole (q ts : List Token) : Prop :=
  ∃ word name semicolon imports decls is as, ts = word :: name :: semicolon :: (imports ++ decls) ∧
    word.kind = .keyword .package ∧
    name.kind = .identifier ∧ semicolon.kind = .mark .semicolon ∧
      Terminated importContent (decls ++ q) imports is ∧
    Terminated content q decls as

/-- Rows end with a semicolon, and so does what stands before them. -/
theorem IsWhole.endsOpen (h : IsWhole q a) : EndsOpen a := by
  obtain ⟨word, name, semicolon, imports, decls, is, as, rfl, -, -, hsemi, himports, hdecls⟩ := h
  intro t b ht
  have hkind : t.kind = .mark .semicolon := by
    rw [show word :: name :: semicolon :: (imports ++ decls) = [word, name, semicolon] ++
      (imports ++ decls) from rfl,
      List.getLast?_append, List.getLast?_append, Option.or_eq_some_iff, Option.or_eq_some_iff] at ht
    rcases ht with (hlast | ⟨-, hlast⟩) | ⟨-, hlast⟩
    · exact hdecls.getLast? hlast
    · exact himports.getLast? hlast
    · exact Option.some.inj hlast ▸ hsemi
  rw [hkind]
  simp

/-- **One more declaration**: the row with it, or the loop breaks. -/
theorem terminated_passedOver {ts : List Token} {as : List Addition} (hq : q ≠ []) (hd : IsPassedOver d type)
    (h : Terminated content q ts as) : Terminated content q (ts ++ d) (as ++ [.nothing]) ∨
      (Misled q (d ++ q) ts ∨ ¬ Closes type) ∧ Breaks (· ≠ .endOfFile) content (ts ++ (d ++ q)) := by
  have hq' : d ++ q ≠ [] := List.append_ne_nil_of_right_ne_nil d hq
  have hle : q.length ≤ (d ++ q).length := by
    rw [List.length_append]
    omega
  rcases h.carry opens_content hq' fun _ => alike_content hq hle with hrow | ⟨hmisled, hbreaks⟩
  · obtain ⟨p, semicolon, rfl, hsemi, hcontent⟩ := content_passedOver hd
    rcases hcontent q hq with hok | ⟨hcloses, e, he⟩
    · exact .inl (hrow.append (.item hsemi hok .nil))
    · refine .inr ⟨.inr hcloses, hrow.breaks opens_content hq' ?_⟩
      have hsplit : p ++ [semicolon] ++ q = p ++ semicolon :: q := by simp
      have hend : kindAt (p ++ [semicolon] ++ q) 0 ≠ .endOfFile := kindAt_passedOver_ne hd (by decide)
      have hfirst : kindAt (p ++ [semicolon] ++ q) 0 ≠ .mark .semicolon := kindAt_passedOver_ne hd (by decide)
      rw [hsplit] at hend hfirst ⊢
      exact breaks_of_error (decide_eq_true hend) hfirst he
  · exact .inr ⟨.inl hmisled, hbreaks⟩

theorem alike_declaration {q' ts : List Token} (hq : q ≠ []) (hle : q.length ≤ q'.length) :
    Alike q q' declaration declaration ts := by
  rw [declaration_eq]
  exact (alike_content hq hle).bind fun _ _ _ => (Alike.expectTerminator hq hle).bind fun _ _ _ =>
    Alike.skipSemicolons.bind fun _ _ _ => .pure

theorem ofAdditions_nothing (package : String) (as bs : List Addition) :
    ofAdditions package (as ++ [.nothing] ++ bs) = ofAdditions package (as ++ bs) := by
  simp [ofAdditions, Addition.typeSpecs, Addition.constGroups]

section Rows

variable {word name semicolon : Token} {imports decls : List Token} {is : List Unit} {as : List Addition}
    {f : SourceFile}

/-- A row with one more declaration that adds nothing makes up the same file. -/
theorem ofTokens_rows_nothing (hword : word.kind = .keyword .package) (hname : name.kind = .identifier)
    (hsemi : semicolon.kind = .mark .semicolon) (hq : q ≠ []) (hd : IsPassedOver d type)
    (himports : Terminated importContent (decls ++ q) imports is)
    (himports' : Terminated importContent (decls ++ (d ++ q)) imports is)
    (hdecls : Terminated content q decls as) (hrow : Terminated content q (decls ++ d) (as ++ [.nothing]))
    (hnext : kindAt (pastSemicolons q) 0 ≠ .keyword .«import»)
    (hf : ofTokens (word :: name :: semicolon :: (imports ++ (decls ++ q))) = .ok f) :
    ofTokens (word :: name :: semicolon :: (imports ++ (decls ++ (d ++ q)))) = .ok f := by
  have hwithout := ofTokens_rows hword hname hsemi hq himports hdecls hnext
  rw [← List.append_assoc] at himports'
  have hwith := ofTokens_rows hword hname hsemi hq himports' hrow hnext
  rw [List.append_assoc] at hwith
  rw [hwithout] at hf
  rw [hwith]
  cases hloop : repeatFor (· ≠ .endOfFile) declaration ((pastSemicolons (decls ++ q)).length - as.length)
    (pastSemicolons q) with
  | error e => rw [hloop] at hf; cases hf
  | ok found =>
    -- there is a round left for each one that the file without the declaration needs
    have hrounds : (pastSemicolons (decls ++ q)).length - as.length ≤
        (pastSemicolons (decls ++ (d ++ q))).length - (as ++ [Addition.nothing]).length := by
      have hfirst : kindAt (d ++ q) 0 ≠ .mark .semicolon := kindAt_passedOver_ne hd (by decide)
      have hne : d ≠ [] := by
        rintro rfl
        cases hd
      have hlt : (pastSemicolons (decls ++ q)).length < (pastSemicolons (decls ++ (d ++ q))).length :=
        length_pastSemicolons_lt hne hfirst
      rw [List.length_append, List.length_singleton]
      omega
    have halike :
      Alike q q (repeatFor (· ≠ .endOfFile) declaration ((pastSemicolons (decls ++ q)).length - as.length))
        (repeatFor (· ≠ .endOfFile) declaration
          ((pastSemicolons (decls ++ (d ++ q))).length - (as ++ [Addition.nothing]).length))
        (pastSemicolons q) :=
      .repeatFor (fun _ _ => alike_declaration hq le_rfl) hrounds
    rw [halike.same hloop]
    rw [hloop] at hf
    refine Eq.trans ?_ hf
    exact congrArg Except.ok (ofAdditions_nothing name.value as found.1)

/-- What the file gives, with the declaration and without it. -/
theorem ofTokens_eq_or_error (ha : IsWhole q a) (hq : q ≠ [])
    (hnext : kindAt (pastSemicolons q) 0 ≠ .keyword .«import»)
    (hd : IsPassedOver d type) (hf : ofTokens (a ++ q) = .ok f) :
    ofTokens (a ++ (d ++ q)) = .ok f ∨ (Misled q (d ++ q) a ∨ ¬ Closes type) ∧
      ∃ e, ofTokens (a ++ (d ++ q)) = .error e := by
  obtain ⟨word, name, semicolon, imports, decls, is, as, rfl, hword, hname, hsemi, himports, hdecls⟩ := ha
  have hq' : d ++ q ≠ [] := List.append_ne_nil_of_right_ne_nil d hq
  have hnext' : kindAt (pastSemicolons (decls ++ (d ++ q))) 0 ≠ .keyword .«import» := by
    refine kindAt_pastSemicolons_ne (kindAt_row_ne_import hdecls hnext) ?_
    rw [pastSemicolons_eq_self (kindAt_passedOver_ne hd (by decide))]
    exact kindAt_passedOver_ne hd (by decide)
  have hsplit (r : List Token) : word :: name :: semicolon :: (imports ++ decls) ++ r =
      word :: name :: semicolon :: (imports ++ (decls ++ r)) := by simp
  rw [hsplit] at hf ⊢
  have hle : (decls ++ q).length ≤ (decls ++ (d ++ q)).length := by
    simp only [List.length_append]
    omega
  rcases himports.carry opens_importContent (List.append_ne_nil_of_right_ne_nil decls hq')
    fun _ => alike_importContent (List.append_ne_nil_of_right_ne_nil decls hq) hle with himports' |
      ⟨hmisled, hbreaks⟩
  · rcases terminated_passedOver hq hd hdecls with hrow | ⟨hmisled, hbreaks⟩
    · exact .inl (ofTokens_rows_nothing hword hname hsemi hq hd himports himports' hdecls hrow hnext hf)
    · refine .inr ⟨hmisled.imp_left fun h => ?_, ofTokens_of_breaks hword hname hsemi ?_ himports' hnext' hbreaks⟩
      · exact h.of_suffix (List.suffix_append (word :: name :: semicolon :: imports) decls)
      · exact List.append_ne_nil_of_right_ne_nil decls hq'
  · refine .inr ⟨.inl ?_, ofTokens_of_breaks_imports hword hname hsemi ?_ hbreaks⟩
    · exact hmisled.append.of_suffix (List.suffix_append [word, name, semicolon] (imports ++ decls))
    · exact List.append_ne_nil_of_right_ne_nil imports (List.append_ne_nil_of_right_ne_nil decls hq')

end Rows

/-- **A declaration that is passed over** changes nothing of the file, if the file can be read with it: it can
be if the brackets of its result type are closed there, and those in front of the declaration are closed in
front of it or its own ones balance. -/
theorem ofTokens_passedOver {last : Token} {f : SourceFile} (ha : IsWhole (b ++ [last]) a)
    (hb : ∀ t ∈ b, t.kind ≠ .keyword .«import»)
    (hlast : last.kind = .endOfFile) (hd : IsPassedOver d type) (hf : ofTokens (a ++ (b ++ [last])) = .ok f) :
    (∀ g, ofTokens (a ++ (d ++ (b ++ [last]))) = .ok g → g = f) ∧
      ((Closes a ∨ Neutral d) ∧ Closes type → ofTokens (a ++ (d ++ (b ++ [last]))) = .ok f) := by
  have hnext : kindAt (pastSemicolons (b ++ [last])) 0 ≠ .keyword .«import» := by
    have hall : ∀ t ∈ pastSemicolons (b ++ [last]), t.kind ≠ .keyword .«import» := by
      intro t ht
      rcases List.mem_append.1 ((List.dropWhile_suffix _).subset ht) with ht | ht
      · exact hb t ht
      · rw [List.mem_singleton.1 ht, hlast]
        decide
    cases hp : pastSemicolons (b ++ [last]) with
    | nil => simp [kindAt]
    | cons t ts => exact hall t (hp ▸ List.mem_cons_self)
  rcases ofTokens_eq_or_error ha (by simp) hnext hd hf with hsame | ⟨hmisled, e, he⟩
  · refine ⟨fun g hg => ?_, fun _ => hsame⟩
    exact Except.ok.inj (hg.symm.trans hsame)
  · refine ⟨fun g hg => ?_, fun hcloses => ?_⟩
    · cases hg.symm.trans he
    · obtain ⟨hrow, htype⟩ := hcloses
      rcases hmisled with hmisled | hopen
      · rcases hrow with hcloses | hneutral
        · exact absurd hmisled (not_misled_of_closes ha.endsOpen hcloses)
        · exact absurd hmisled (not_misled_of_neutral ha.endsOpen hneutral)
      · exact absurd htype hopen

/-- A token that is written as its kind is named. -/
def plainToken (k : Token.Kind) : Token := ⟨k, k.label, .start⟩

/-- A name. -/
def nameToken (n : String) : Token := ⟨.identifier, n, .start⟩

/-- The semicolon at the end of a line. -/
def lineToken : Token := .impliedSemicolon .start

/-- A structure with one line. -/
def structDecl (line : List Token) : List Token :=
  [plainToken (.keyword .type), nameToken "S", plainToken (.keyword .struct), plainToken (.opening .brace)] ++
    line ++
    [lineToken, plainToken (.closing .brace)]

/-- A package clause and the structure. -/
def structFile (line : List Token) : List Token :=
  plainToken (.keyword .package) :: nameToken "p" :: lineToken :: ([] ++ (structDecl line ++ [lineToken]))

/-- What the structure is read as, if its one field is `field`. -/
def structSpec (field : FieldDecl TypeExpr) : TypeSpec := ⟨"S", .struct [field], 1, false, false⟩

theorem isWhole_structFile {line : List Token} {field : FieldDecl TypeExpr}
    (h : content (structDecl line ++ lineToken :: q) = .ok (.types [structSpec field], lineToken :: q)) :
    IsWhole q (structFile line) :=
  ⟨_, _, _, [], _, [], [.types [structSpec field]], rfl, rfl, rfl, rfl, .nil, .item rfl h .nil⟩

/-- An embedded field with type arguments: `Box[int]`. -/
def boxLine : List Token :=
  [nameToken "Box", plainToken (.opening .square), nameToken "int", plainToken (.closing .square)]

/-- A method with a result and a body: `func (S) Close(force bool) error { return nil }`. -/
def closeDecl : List Token :=
  plainToken (.keyword .func) ::
    ([plainToken (.opening .paren), nameToken "S", plainToken (.closing .paren)] ++ nameToken "Close" ::
    ([] ++ ([plainToken (.opening .paren), nameToken "force", nameToken "bool", plainToken (.closing .paren)] ++
      ([nameToken "error"] ++
      ([plainToken (.opening .brace), plainToken (.keyword .«return»), nameToken "nil",
        plainToken (.closing .brace)] ++ [lineToken])))))

/-- The line of a constant. -/
def constLine : List Token :=
  [plainToken (.keyword .const), nameToken "c", plainToken (.mark .assign), ⟨.integer, "1", .start⟩, lineToken]

/-- The embedded field. -/
def boxField : FieldDecl TypeExpr := ⟨[], .generic (.name "Box"), none⟩

/-- The file with the embedded field and the constant. -/
def boxFile : SourceFile := ⟨"p", [structSpec boxField], [[⟨["c"], none, true, 1⟩]]⟩

theorem isWhole_boxLine : IsWhole (constLine ++ [.finish .start]) (structFile boxLine) := by
  have hcontent : content (structDecl boxLine ++ lineToken :: (constLine ++ [.finish .start])) =
      .ok (.types [structSpec boxField], lineToken :: (constLine ++ [.finish .start])) := rfl
  exact isWhole_structFile hcontent

theorem isPassedOver_closeDecl : IsPassedOver closeDecl [nameToken "error"] := by
  refine .func rfl (.inr ⟨_, [nameToken "S"], _, rfl, rfl, rfl, rfl⟩) rfl (.inl rfl)
    ⟨_, [nameToken "force", nameToken "bool"], _, rfl, rfl, rfl, rfl⟩ (.type (t := .name "error") rfl rfl)
      (.inr ?_) rfl
  exact ⟨_, [plainToken (.keyword .«return»), nameToken "nil"], _, rfl, rfl, rfl, rfl⟩

theorem ofTokens_passedOver_closeDecl : IsWhole (constLine ++ [.finish .start]) (structFile boxLine) ∧
    IsPassedOver closeDecl [nameToken "error"] ∧
    ofTokens (structFile boxLine ++ (constLine ++ [.finish .start])) = .ok boxFile ∧
    ofTokens (structFile boxLine ++ (closeDecl ++ (constLine ++ [.finish .start]))) = .ok boxFile := by
  have hconst : ∀ t ∈ constLine, t.kind ≠ .keyword .«import» := by decide
  have hfile : ofTokens (structFile boxLine ++ (constLine ++ [.finish .start])) = .ok boxFile := rfl
  have hneutral : Neutral closeDecl := rfl
  have hcloses : Closes [nameToken "error"] := by
    intro name bracket more hmore
    have hlen := hmore.length_le
    simp at hlen
  refine ⟨isWhole_boxLine, isPassedOver_closeDecl, hfile, ?_⟩
  exact (ofTokens_passedOver isWhole_boxLine hconst rfl isPassedOver_closeDecl hfile).2 ⟨.inr hneutral, hcloses⟩

/-- An array whose length leaves parentheses open: `F [((]int`. -/
def openLine : List Token :=
  [nameToken "F", plainToken (.opening .square), plainToken (.opening .paren), plainToken (.opening .paren),
    plainToken (.closing .square), nameToken "int"]

/-- A function whose parameters close another bracket: `func f(])`. -/
def closingDecl : List Token :=
  plainToken (.keyword .func) :: ([] ++ nameToken "f" ::
    ([] ++ ([plainToken (.opening .paren), plainToken (.closing .square), plainToken (.closing .paren)] ++
      ([] ++ ([] ++ [lineToken])))))

/-- The look behind a name may end in a declaration that is passed over, and then the file is not read. -/
theorem exists_passedOver_error : ¬ ∀ (a b d type : List Token) (last : Token) (f : SourceFile),
    IsWhole (b ++ [last]) a →
    (∀ t ∈ b, t.kind ≠ .keyword .«import») → last.kind = .endOfFile → IsPassedOver d type →
      ofTokens (a ++ (b ++ [last])) = .ok f →
    ofTokens (a ++ (d ++ (b ++ [last]))) = .ok f := by
  intro hall
  have hcontent : content (structDecl openLine ++ [lineToken, .finish .start]) =
      .ok (.types [structSpec ⟨["F"], .array (.name "int"), none⟩], [lineToken, .finish .start]) := rfl
  have hwhole : IsWhole [.finish .start] (structFile openLine) := isWhole_structFile hcontent
  have hclosing : IsPassedOver closingDecl [] :=
    .func rfl (.inl rfl) rfl (.inl rfl) ⟨_, [plainToken (.closing .square)], _, rfl, rfl, rfl, rfl⟩ .none
      (.inl rfl) rfl
  have hwith := hall (structFile openLine) [] closingDecl [] (.finish .start)
    ⟨"p", [structSpec ⟨["F"], .array (.name "int"), none⟩], []⟩ hwhole (by simp) rfl hclosing rfl
  cases hwith

end SourceFile

end GoFixtures.Go
