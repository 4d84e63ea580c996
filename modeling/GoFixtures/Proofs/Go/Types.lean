import GoFixtures.Proofs.Go.Functions
import GoFixtures.Proofs.Go.Matching
import GoFixtures.Proofs.Go.Rendering

/-!
# Types are read back

A type that is written down is read as what it is, in front of all that may follow a type: the end of its
line, a tag, the bracket behind the key of a map, or `=`.

* `TypeExpr.takes_structType`, `TypeExpr.takes_field`: structs and their fields.
* `TypeExpr.takes_interfaceType`: interfaces.
* `TypeExpr.Written`: the ways to write a type.
* `TypeExpr.takes_written`: all types, in all these ways.
-/

namespace GoFixtures.Go

open TokenReader

variable {F : Token.Kind → Prop}

/-! ### Names -/

/-- A round of a list of names takes a comma and a name. -/
theorem takes_nameRound {n : String} : Takes nameRound [(.mark .comma, ","), (.identifier, n)] F (n = ·) := by
  show Takes _ ([(.mark .comma, ",")] ++ [(.identifier, n)]) _ _
  refine Takes.andThen Takes.advance (fun _ _ => ?_)
  exact Takes.expect.map fun t ht => (congrArg Prod.snd ht).symm

theorem eq_of_forall₂ {α : Type} {as bs : List α} (h : List.Forall₂ (· = ·) as bs) : as = bs := by
  rwa [List.forall₂_eq_eq_eq] at h

/-- A list of names is read as these names. -/
theorem takes_nameList {names : List String} (hne : names ≠ []) :
    Takes nameList (nameSigns names) (· ≠ .mark .comma) (· = names) := by
  obtain ⟨n, names, rfl⟩ := List.exists_cons_of_ne_nil hne
  have hmore : Takes (repeatWhile (· = .mark .comma) nameRound) (names.flatMap fun m =>
    [(.mark .comma, ","), (.identifier, m)])
      (· ≠ .mark .comma) (List.Forall₂ (· = ·) names) :=
    Takes.repeatWhile (G := fun _ => True) (fun m _ => takes_nameRound) (fun m _ =>
      ⟨_, _, _, rfl, by decide, trivial⟩)
      fun k hk => ⟨by simpa using hk, trivial⟩
  rw [nameList_eq]
  show Takes _ ([(.identifier, n)] ++ _) _ _
  refine Takes.andThen Takes.expect (fun first hfirst => ?_)
  refine hmore.map fun more hmore => ?_
  have hn : first.value = n := congrArg Prod.snd hfirst
  rw [hn, eq_of_forall₂ hmore]

namespace TypeExpr

variable {signs' : Signs} {Q : TypeExpr → Prop} {d : Nat} {t b : TypeExpr} {v : String}

/-! ### What may follow a type, and what a type begins with -/

/-- The tokens that may follow a type. -/
def EndsType (k : Token.Kind) : Prop := k = .mark .semicolon ∨ k = .string ∨ k = .closing .square ∨
    k = .mark .assign

theorem EndsType.endsName {k : Token.Kind} (h : EndsType k) : EndsName k := by
  rcases h with rfl | rfl | rfl | rfl <;> exact ⟨by decide, by decide⟩

/-- The name of a type begins with an identifier. -/
theorem IsTypeName.exists_signs (h : IsTypeName t) : ∃ n rest, t.signs = (.identifier, n) :: rest := by
  cases h with
  | name => exact ⟨_, _, rfl⟩
  | qualified => exact ⟨_, _, rfl⟩

/-- The tokens that a type begins with, the arrow excepted. -/
def StartsType (k : Token.Kind) : Prop := isStart k ∧ k ≠ .mark .arrow

/-- No type begins with a point. -/
theorem StartsType.ne_dot {k : Token.Kind} (h : StartsType k) : k ≠ .mark .dot := by
  rintro rfl
  exact absurd h.1 (by decide)

theorem StartsType.endsEmbedded {k : Token.Kind} (h : StartsType k) : endsEmbedded k = false := by
  unfold TypeExpr.endsEmbedded
  split
  · exact absurd h.1 (by decide)
  · exact absurd h.1 (by decide)
  · exact absurd h.1 (by decide)
  · rfl

/-- **The ways to write a type.** What is not kept of it may be whatever is balanced in the brackets around it. -/
inductive Written : TypeExpr → Signs → Prop
  | typeName {t : TypeExpr} (h : IsTypeName t) : Written t t.signs
  | pointer {e : TypeExpr} {inner : Signs} (h : Written e inner) :
      Written (pointer e) ((.mark .star, "*") :: inner)
  | slice {e : TypeExpr} {inner : Signs} (h : Written e inner) :
      Written (slice e) (Signs.inside .square [] ++ inner)
  | array {e : TypeExpr} {length inner : Signs} (hl : length.Balanced .square) (hne : length ≠ [])
      (h : Written e inner) :
      Written (array e) (length.inside .square ++ inner)
  | map {k v : TypeExpr} {key value : Signs} (hk : Written k key) (hv : Written v value) :
      Written (map k v) ((.keyword .map, "map") :: (key.inside .square ++ value))
  | chan {e : TypeExpr} {inner : Signs} (h : Written e inner) :
      Written (chan e) ((.keyword .chan, "chan") :: inner)
  | func {params : Signs} (hp : params.Balanced .paren) :
      Written func ((.keyword .func, "func") :: params.inside .paren)
  | generic {b : TypeExpr} {arguments : Signs} (h : IsTypeName b) (ha : arguments.Balanced .square) :
      Written (generic b) (b.signs ++ arguments.inside .square)
  | struct {fields : List (FieldDecl TypeExpr)} (hfields : ∀ f ∈ fields, FieldOK f)
      (htypes : ∀ f ∈ fields, Renderable f.type)
      (h : ∀ f ∈ fields, Written f.type f.type.signs) : Written (struct fields) (signs (struct fields))
  | interface {methods : List String} : Written (interface methods) (signs (interface methods))
  | dots : Written (interface []) ((.keyword .interface, "interface") ::
      Signs.inside .brace [(.mark .ellipsis, "...")])

/-- A type that can be written down has signs. -/
theorem Renderable.written (h : Renderable t) : Written t t.signs := by
  induction h with
  | name h => exact .typeName (.name h)
  | qualified hp hn => exact .typeName (.qualified hp hn)
  | pointer _ ih => exact .pointer ih
  | slice _ ih => exact .slice ih
  | array _ ih => exact .array rfl (List.cons_ne_nil _ _) ih
  | map _ _ ihk ihv => exact .map ihk ihv
  | chan _ ih => exact .chan ih
  | func => exact .func rfl
  | generic h => exact .generic h rfl
  | struct hfields htypes ih => exact .struct hfields htypes ih
  | interface => exact .interface

/-- A written type begins with the first sign of a type. -/
theorem Written.exists_signs (h : Written t signs') : ∃ k v rest, signs' = (k, v) :: rest ∧ StartsType k := by
  cases h with
  | typeName h =>
    obtain ⟨n, rest, hrest⟩ := h.exists_signs
    exact ⟨.identifier, n, rest, hrest, by decide, by decide⟩
  | generic h =>
    obtain ⟨n, rest, hrest⟩ := h.exists_signs
    exact ⟨.identifier, n, _, by rw [hrest]; rfl, by decide, by decide⟩
  | _ => exact ⟨_, _, _, rfl, by decide, by decide⟩

/-- So does anything that begins like it. -/
theorem Written.begins (h : Written t signs') {k : Token.Kind} (hk : Begins signs' F k) : StartsType k := by
  obtain ⟨k', v, rest, hrest, hstarts⟩ := h.exists_signs
  rw [hrest] at hk
  exact hk ▸ hstarts

/-! ### Types made of types -/

/-- A slice has two brackets in front of its elements. -/
theorem takes_slice (h : Takes (ofDepth d) signs' F fun t => Q (.slice t)) :
    Takes (ofDepth (d + 1)) (Signs.inside .square [] ++ signs') F Q := by
  refine Takes.look (Takes.peek (F := (· = .opening .square))) (fun t ht => ?_) fun _ hk => hk
  simp only [ht]
  refine Takes.ahead (a := .closing .square) (fun ts t rest hts _ => ?_) ?_
  · rw [peekKind, kindAt_append hts rfl]
  · rw [if_pos rfl]
    show Takes _ ([(.opening .square, Bracket.square.opening)] ++
      ([(.closing .square, Bracket.square.closing)] ++ signs')) _ _
    refine Takes.andThen Takes.advance (fun _ _ => ?_)
    exact Takes.andThen Takes.advance (fun _ _ => h.map fun _ hq => hq)

/-- An array, whatever its length is. -/
theorem takes_array {length : Signs} (hl : length.Balanced .square) (hne : length ≠ [])
    (h : Takes (ofDepth d) signs' F fun t => Q (.array t)) :
    Takes (ofDepth (d + 1)) (length.inside .square ++ signs') F Q := by
  obtain ⟨⟨k, v⟩, length, rfl⟩ := List.exists_cons_of_ne_nil hne
  refine Takes.look (Takes.peek (F := (· = .opening .square))) (fun t ht => ?_) fun _ hk => hk
  simp only [ht]
  refine Takes.ahead (a := k) (fun ts t rest hts _ => ?_) ?_
  · rw [peekKind, kindAt_append hts rfl]
  · rw [if_neg hl.ne_closing]
    exact Takes.andThen (takes_skipGroup hl) (fun _ _ => h.map fun _ hq => hq)

/-- A map has the type of its keys between brackets. -/
theorem takes_map {key : Signs} {P : TypeExpr → Prop} (hk : Takes (ofDepth d) key EndsType P)
    (hv : ∀ k, P k → Takes (ofDepth d) signs' F fun v => Q (.map k v)) :
    Takes (ofDepth (d + 1)) ((.keyword .map, v) :: (key.inside .square ++ signs')) F Q := by
  refine Takes.look (Takes.peek (F := (· = .keyword .map))) (fun t ht => ?_) fun _ hk => hk
  simp only [ht]
  have hsigns : (.keyword .map, v) :: (key.inside .square ++ signs') = [(.keyword .map, v)]
      ++ ([(.opening .square, Bracket.square.opening)] ++
        (key ++ ([(.closing .square, Bracket.square.closing)] ++ signs'))) := by
    simp [Signs.inside]
  rw [hsigns]
  refine Takes.andThen Takes.advance (fun _ _ => ?_)
  refine Takes.andThen Takes.expect (fun _ _ => ?_)
  refine Takes.bind hk (fun k hk => ?_) fun _ hk => .inr (.inr (.inl hk))
  exact Takes.andThen Takes.expect (fun _ _ => (hv k hk).map fun _ hq => hq)

/-- A channel is not taken for one that only sends: no arrow follows. -/
theorem takes_chan (h : Takes (ofDepth d) signs' F fun t => Q (.chan t))
    (hs : ∀ k, Begins signs' F k → k ≠ .mark .arrow) :
    Takes (ofDepth (d + 1)) ((.keyword .chan, v) :: signs') F Q := by
  refine Takes.look (Takes.peek (F := (· = .keyword .chan))) (fun t ht => ?_) fun _ hk => hk
  simp only [ht]
  show Takes _ ([(.keyword .chan, v)] ++ signs') _ _
  refine Takes.andThen Takes.advance (fun _ _ => ?_)
  exact Takes.look Takes.accept_false (fun _ _ => h.map fun _ hq => hq) hs

/-- A function without results. -/
theorem takes_func {params : Signs} (hp : params.Balanced .paren) :
    Takes (ofDepth (d + 1)) ((.keyword .func, v) :: params.inside .paren) EndsType (· = .func) := by
  refine Takes.look (Takes.peek (F := (· = .keyword .func))) (fun t ht => ?_) fun _ hk => hk
  simp only [ht]
  have hsignature : Takes (skipSignature (ofDepth d)) (params.inside .paren ++ []) EndsType (fun _ => True) := by
    refine Takes.bind (G := EndsType) (takes_skipGroup hp) (fun _ _ => ?_) fun _ hk => hk
    refine Takes.look (Takes.peekKind (F := EndsType)) (fun k hk => ?_) fun _ hk => hk
    have hparen : k ≠ .opening .paren ∧ isStart k = false := by
      rcases hk with rfl | rfl | rfl | rfl <;> decide
    simp only [hparen.1, hparen.2, if_false, Bool.false_eq_true]
    exact Takes.pure trivial
  rw [← List.append_nil (params.inside .paren)]
  show Takes _ ([(.keyword .func, v)] ++ (params.inside .paren ++ [])) _ _
  refine Takes.andThen Takes.advance (fun _ _ => ?_)
  exact hsignature.map fun _ _ => rfl

/-! ### Names of types -/

/-- The name of a type is read as that type. -/
theorem IsTypeName.takes (h : IsTypeName t) : Takes typeName t.signs (· ≠ .mark .dot) (· = t) := by
  cases h with
  | name => exact takes_typeName_name
  | qualified => exact takes_typeName_qualified

/-- A name is read wherever a type is. -/
theorem IsTypeName.takes_ofDepth (h : IsTypeName t) {more : Signs} (ht : Takes named (t.signs ++ more) F Q) :
    Takes (ofDepth (d + 1)) (t.signs ++ more) F Q := by
  obtain ⟨n, rest, hrest⟩ := h.exists_signs
  rw [hrest] at ht ⊢
  exact takes_ofDepth_identifier ht

/-! ### Interfaces -/

/-- A keyword and what is read in braces behind it. -/
theorem takes_braces {α : Type} {body : TokenReader α} {g : α → TypeExpr} {k : Token.Kind} {P : α → Prop}
    (h : Takes body signs' (· = .closing .brace) P)
    (hs : ∀ k, Begins signs' (· = .closing .brace) k → k ≠ .mark .semicolon) :
    Takes (do
      let _ ← expect k
      let _ ← expect (.opening .brace)
      skipSemicolons
      let a ← body
      let _ ← expect (.closing .brace)
      return g a) ((k, v) :: signs'.inside .brace) F (fun t => ∃ a, P a ∧ t = g a) := by
  have hfirst : ∀ k, Begins (signs' ++ [(.closing .brace, Bracket.brace.closing)]) F k →
      k ≠ .mark .semicolon := by
    intro k hk
    rw [begins_append] at hk
    exact hs k hk
  show Takes _ ([(k, v)] ++
    ([(.opening .brace, Bracket.brace.opening)] ++ (signs' ++ [(.closing .brace, Bracket.brace.closing)]))) _ _
  refine Takes.andThen Takes.expect (fun _ _ => ?_)
  refine Takes.bind (G := (· ≠ .mark .semicolon)) Takes.expect (fun _ _ => ?_) hfirst
  refine Takes.look Takes.skipSemicolons (fun _ _ => ?_) hfirst
  refine Takes.bind h (fun a ha => ?_) fun _ hk => hk
  exact Takes.expect.map fun _ _ => ⟨a, ha, rfl⟩

/-- The line of a method. -/
theorem takes_member {name : String} :
    Takes member (methodSigns name) (· ≠ .mark .semicolon) (some name = ·) := by
  intro ts t rest hts ht
  obtain ⟨x, ts, rfl, hx, hts⟩ := List.map_eq_cons_iff.1 hts
  obtain ⟨l, ts, rfl, hl, hts⟩ := List.map_eq_cons_iff.1 hts
  obtain ⟨r, ts, rfl, hr, hts⟩ := List.map_eq_cons_iff.1 hts
  obtain ⟨e, rfl, he⟩ := List.map_eq_singleton_iff.1 hts
  obtain ⟨hx, hname⟩ := Prod.mk.inj hx
  have hl : l.kind = .opening .paren := congrArg Prod.fst hl
  have hr : r.kind = .closing .paren := congrArg Prod.fst hr
  have he : e.kind = .mark .semicolon := congrArg Prod.fst he
  refine ⟨some name, rfl, ?_⟩
  simp [member, bind_apply, pure_apply, peek, headOf, peekKind, kindAt, skipUntil, untilStop, endsMember,
    skipSemicolons, hx, hl, hr,
    he, hname, ht]

/-- An interface is read with the names of its methods. -/
theorem takes_interfaceType {methods : List String} :
    Takes interfaceType (signs (interface methods)) F (· = .interface methods) := by
  have hmembers :
    Takes (repeatWhile (fun k => k ≠ .closing .brace && k ≠ .endOfFile) member) (methods.flatMap methodSigns)
      (· = .closing .brace) (List.Forall₂ (fun name a => some name = a) methods) := by
    refine Takes.repeatWhile (fun m _ => takes_member) (fun m _ => ⟨_, _, _, rfl, by decide, by decide⟩) ?_
    rintro _ rfl
    decide
  have hfirst : ∀ k, Begins (methods.flatMap methodSigns) (· = .closing .brace) k → k ≠ .mark .semicolon := by
    refine begins_flatMap (G := (· ≠ .mark .semicolon)) (fun m _ => ⟨_, _, _, rfl, by decide⟩) ?_
    rintro _ rfl
    decide
  refine (takes_braces hmembers hfirst).imp ?_
  rintro _ ⟨as, has, rfl⟩
  have has : methods.map some = as := eq_of_forall₂ (List.forall₂_map_left_iff.2 has)
  rw [← has, List.filterMap_map]
  simp

/-- Dots in place of the methods declare none. -/
theorem takes_dots :
    Takes (repeatWhile (fun k => k ≠ .closing .brace && k ≠ .endOfFile) member) [(.mark .ellipsis, "...")]
    (· = .closing .brace) (· = [none]) := by
  intro ts t rest hts ht
  obtain ⟨x, rfl, hx⟩ := List.map_eq_singleton_iff.1 hts
  have hx : x.kind = .mark .ellipsis := congrArg Prod.fst hx
  refine ⟨[none], rfl, ?_⟩
  simp [repeatWhile, repeatFor, member, bind_apply, pure_apply, peek, headOf, peekKind, kindAt, skipUntil,
    untilStop, endsMember,
    skipSemicolons, hx, ht]

/-- An interface without methods may have dots in it. -/
theorem takes_interfaceType_dots :
    Takes interfaceType ((.keyword .interface, v) :: Signs.inside .brace [(.mark .ellipsis, "...")]) F
      (· = .interface []) := by
  refine (takes_braces takes_dots fun k hk => hk ▸ by decide).imp ?_
  rintro _ ⟨_, rfl, rfl⟩
  rfl

/-! ### Fields -/

/-- The tokens that end an embedded field stand behind it on its line. -/
theorem begins_tagSigns {tag : Option String} {k : Token.Kind}
    (hk : Begins (tagSigns tag) (· = .mark .semicolon) k) :
    EndsType k ∧ endsEmbedded k := by
  cases tag with
  | none =>
    obtain rfl : k = .mark .semicolon := hk
    exact ⟨.inl rfl, rfl⟩
  | some tag =>
    obtain rfl : k = .string := hk
    exact ⟨.inr (.inl rfl), rfl⟩

/-- The end of a field: its tag, if it has one. -/
theorem takes_tag {names : List String} {tag : Option String} : Takes (do
    if ← at? .string then
      let tag ← advance
      return ⟨names, t, some tag.value⟩
    else
      return ⟨names, t, none⟩ : TokenReader (FieldDecl TypeExpr)) (tagSigns tag) (· = .mark .semicolon)
        (· = ⟨names, t, tag⟩) := by
  cases tag with
  | none =>
    refine Takes.look (Takes.mono Takes.at?_false (F := (· = .mark .semicolon)) (by simp +contextual)
      fun _ h => h)
      (fun b hb => ?_) fun _ hk => hk
    rw [hb]
    exact Takes.pure rfl
  | some tag =>
    refine Takes.look Takes.at?_true (fun b hb => ?_) fun _ hk => hk
    rw [hb, if_pos rfl]
    refine Takes.advance.map fun t ht => ?_
    rw [show t.value = tag from congrArg Prod.snd ht]

/-- Behind an embedded field its line ends, or a tag follows. -/
theorem endsEmbedded_kindAt {ts rest : List Token} {u : Token} {tag : Option String}
    (hts : ts.map Token.sign = signs' ++ tagSigns tag)
    (hu : u.kind = .mark .semicolon) : endsEmbedded (kindAt (ts ++ u :: rest) signs'.length) := by
  cases tag with
  | none =>
    have hlen : ts.length = signs'.length := by
      rw [← List.length_map, hts, tagSigns, List.append_nil]
    rw [kindAt, ← hlen, List.getElem?_append_right le_rfl, Nat.sub_self, List.getElem?_cons_zero,
      Option.map_some, Option.getD_some, hu]
    rfl
  | some tag =>
    rw [kindAt_append (k := .string) (v := tag) hts (by simp [tagSigns])]
    rfl

/-- The tokens that the lengths of arrays and type arguments are made of. -/
def IsArgument (k : Token.Kind) : Prop := k = .integer ∨ k = .identifier

/-- Arguments of a type have no brackets left open. -/
theorem nested_arguments {inner : Signs} (h : ∀ x ∈ inner, IsArgument x.1) : Nested (kinds inner) := by
  induction inner with
  | nil => exact .nil
  | cons x inner ih =>
    rw [List.forall_mem_cons] at h
    refine .plain ?_ (ih h.2)
    rcases h.1 with hx | hx <;> rw [hx] <;> rfl

/-- Behind a name and a square bracket, the bracket that closes the group has to be looked behind. -/
theorem isEmbeddedField_square {ts rest : List Token} {n : String} {inner more : Signs} {k : Token.Kind}
    (hplain : ∀ x ∈ inner, IsArgument x.1)
    (hts : ts.map Token.sign = (.identifier, n) :: (inner.inside .square ++ more))
    (hk : kindAt (ts ++ rest) (inner.length + 3) = k) :
    isEmbeddedField (ts ++ rest) = .ok (endsEmbedded k, ts ++ rest) := by
  obtain ⟨name, ts, rfl, hname, hts⟩ := List.map_eq_cons_iff.1 hts
  obtain ⟨g, ws, rfl, hg, -⟩ := List.map_eq_append_iff.1 hts
  have hgroup : IsNestedGroup .square g := .of_signs (nested_arguments hplain) hg
  have hbehind : kindAt (name :: (g ++ ws) ++ rest) (inner.length + 3) = kindAt (ws ++ rest) 0 := by
    have hlen := congrArg List.length hg
    rw [List.length_map, Signs.length_inside] at hlen
    have hpass := kindAt_append_right (name :: g) (ws ++ rest) 0
    rwa [List.length_cons, hlen, Nat.zero_add, List.cons_append, ← List.append_assoc] at hpass
  rw [← hk, hbehind, List.cons_append, List.append_assoc]
  exact isEmbeddedField_group (congrArg Prod.fst hname) hgroup

/-- A type that begins with a square bracket is a slice or an array. -/
theorem eq_slice_or_array (h : Renderable t) {rest : Signs} (ht : t.signs = (.opening .square, v) :: rest) :
    ∃ e, Renderable e ∧ (t = slice e ∨ t = array e) := by
  cases h with
  | slice h => exact ⟨_, h, .inl rfl⟩
  | array h => exact ⟨_, h, .inr rfl⟩
  | generic h =>
    obtain ⟨n, rest', hrest⟩ := h.exists_signs
    rw [signs, hrest] at ht
    cases ht
  | _ => cases ht

/-- A field with names is told from an embedded one by what follows its first name: a comma, or the beginning
of a type. If that is a square bracket, a type stands behind the bracket that closes it. -/
theorem isEmbeddedField_false {names : List String} {more : Signs} {ts rest : List Token} (hne : names ≠ [])
    (h : Renderable t)
    (hts : ts.map Token.sign = nameSigns names ++ (t.signs ++ more)) :
    isEmbeddedField (ts ++ rest) = .ok (false, ts ++ rest) := by
  obtain ⟨n, names, rfl⟩ := List.exists_cons_of_ne_nil hne
  have hfirst : kindAt (ts ++ rest) 0 = .identifier := kindAt_append hts rfl
  cases names with
  | cons m names =>
    have hcomma : kindAt (ts ++ rest) 1 = .mark .comma := kindAt_append hts rfl
    simp [isEmbeddedField, hfirst, hcomma, endsEmbedded]
  | nil =>
    obtain ⟨k, v, after, hsigns, hk⟩ := h.written.exists_signs
    have hsecond : kindAt (ts ++ rest) 1 = k := by
      refine kindAt_append (v := v) hts ?_
      rw [hsigns]
      rfl
    by_cases hsquare : k = .opening .square
    · subst hsquare
      obtain ⟨e, he, ht⟩ := eq_slice_or_array h hsigns
      obtain ⟨k, v, after, hafter, hk⟩ := he.written.exists_signs
      rw [← hk.endsEmbedded]
      rcases ht with rfl | rfl
      · have hnil : ∀ x ∈ ([] : Signs), IsArgument x.1 := by simp
        refine isEmbeddedField_square hnil hts (kindAt_append (v := v) hts ?_)
        simp [nameSigns, signs, Signs.inside, hafter]
      · have hlength : ∀ x ∈ ([(.integer, "0")] : Signs), IsArgument x.1 := by simp [IsArgument]
        refine isEmbeddedField_square hlength hts (kindAt_append (v := v) hts ?_)
        simp [nameSigns, signs, Signs.inside, hafter]
    · simp [isEmbeddedField, hfirst, hsecond, hsquare, hk.ne_dot, hk.endsEmbedded]

/-- An embedded name: its line ends behind it, or behind its arguments, or it goes on with a point. -/
theorem isEmbeddedField_true {tag : Option String} {ts rest : List Token} {u : Token} (h : IsNamed t)
    (hts : ts.map Token.sign = t.signs ++ tagSigns tag) (hu : u.kind = .mark .semicolon) :
    isEmbeddedField (ts ++ u :: rest) = .ok (true, ts ++ u :: rest) := by
  have hends : endsEmbedded (kindAt (ts ++ u :: rest) t.signs.length) := endsEmbedded_kindAt hts hu
  have hqualified {n : String} {more : Signs}
    (hts : ts.map Token.sign = (.identifier, n) :: (.mark .dot, ".") :: more) :
      isEmbeddedField (ts ++ u :: rest) = .ok (true, ts ++ u :: rest) := by
    have hfirst : kindAt (ts ++ u :: rest) 0 = .identifier := kindAt_append hts rfl
    have hsecond : kindAt (ts ++ u :: rest) 1 = .mark .dot := kindAt_append hts rfl
    simp [isEmbeddedField, hfirst, hsecond]
  cases h with
  | typeName h =>
    cases h with
    | name h =>
      have hfirst : kindAt (ts ++ u :: rest) 0 = .identifier := kindAt_append hts rfl
      have hsecond : endsEmbedded (kindAt (ts ++ u :: rest) 1) = true := hends
      simp [isEmbeddedField, hfirst, hsecond]
    | qualified hp hn => exact hqualified hts
  | generic h =>
    cases h with
    | name h =>
      have hint : ∀ x ∈ ([(.identifier, "int")] : Signs), IsArgument x.1 := by simp [IsArgument]
      have hsquare : endsEmbedded (kindAt (ts ++ u :: rest) 4) = true := hends
      rw [isEmbeddedField_square hint hts rfl, List.length_singleton, hsquare]
    | qualified hp hn => exact hqualified hts

/-- A named type is read with its arguments. -/
theorem IsNamed.takes (h : IsNamed t) : Takes named t.signs EndsName (· = t) := by
  cases h with
  | typeName h => exact takes_named h.takes
  | generic h => exact takes_generic h.takes rfl

/-- A named type begins with an identifier. -/
theorem IsNamed.exists_signs (h : IsNamed t) : ∃ n rest, t.signs = (.identifier, n) :: rest := by
  cases h with
  | typeName h => exact h.exists_signs
  | generic h =>
    obtain ⟨n, rest, hrest⟩ := h.exists_signs
    exact ⟨n, _, by rw [signs, hrest]; rfl⟩

/-- **A field** on a line of its own. -/
theorem takes_field {type : TokenReader TypeExpr} {f : FieldDecl TypeExpr} (hf : FieldOK f)
    (hr : Renderable f.type)
    (ht : Takes type f.type.signs EndsType (· = f.type)) :
    Takes (field type) (fieldSigns f) (· = .mark .semicolon) (· = f) := by
  match f with
  | ⟨n :: ns, t, tag⟩ =>
    have hsigns : fieldSigns ⟨n :: ns, t, tag⟩ = nameSigns (n :: ns) ++ (t.signs ++ tagSigns tag) := rfl
    have htype : ∀ k, Begins (t.signs ++ tagSigns tag) (· = .mark .semicolon) k → k ≠ .mark .comma := by
      intro k hk
      rw [begins_append] at hk
      rintro rfl
      exact absurd (hr.written.begins hk).1 (by decide)
    refine Takes.look (Takes.mono Takes.accept_false (F := (· = .identifier)) (by simp +contextual) fun _ h => h)
      (fun b hb => ?_) fun _ hk => hk
    simp only [hb, Bool.false_eq_true, if_false]
    refine Takes.ahead (a := false) (fun ts u rest hts _ =>
      isEmbeddedField_false (List.cons_ne_nil n ns) hr hts) ?_
    simp only [Bool.false_eq_true, if_false]
    rw [hsigns]
    refine Takes.bind (takes_nameList (List.cons_ne_nil n ns)) (fun names hnames => ?_) htype
    refine Takes.bind ht (fun t ht => ?_) fun k hk => (begins_tagSigns hk).1
    subst hnames ht
    exact takes_tag
  | ⟨[], t, tag⟩ =>
    have hends : ∀ k, Begins (tagSigns tag) (· = .mark .semicolon) k → EndsName k :=
      fun k hk => (begins_tagSigns hk).1.endsName
    cases hf.embedded rfl with
    | named h =>
      obtain ⟨n, rest, hfirst⟩ := h.exists_signs
      have hstar : ∀ k, Begins (t.signs ++ tagSigns tag) (· = .mark .semicolon) k → k ≠ .mark .star := by
        intro k hk
        rw [hfirst] at hk
        exact hk ▸ by decide
      show Takes _ (t.signs ++ tagSigns tag) _ _
      refine Takes.look Takes.accept_false (fun b hb => ?_) hstar
      simp only [hb, Bool.false_eq_true, if_false]
      refine Takes.ahead (a := true) (fun ts u rest hts hu => isEmbeddedField_true h hts hu) ?_
      simp only [if_true]
      refine Takes.bind h.takes (fun t ht => ?_) hends
      subst ht
      exact takes_tag
    | pointer h =>
      rename_i t
      show Takes _ ([(.mark .star, "*")] ++ (t.signs ++ tagSigns tag)) _ _
      -- the reader looks whether the field is embedded behind the star, too, but does not use it
      have hlook : Takes isEmbeddedField [] (fun _ => True) (fun _ => True) := by
        intro ts u rest hts _
        obtain rfl := List.map_eq_nil_iff.1 hts
        exact ⟨_, trivial, rfl⟩
      refine Takes.andThen Takes.accept_true (fun b hb => ?_)
      simp only [hb, if_true]
      refine Takes.look hlook (fun _ _ => ?_) fun _ _ => trivial
      refine Takes.bind h.takes (fun t ht => ?_) hends
      subst ht
      exact takes_tag

/-! ### Structs -/

/-- What a field begins with. -/
theorem exists_fieldSigns {f : FieldDecl TypeExpr} (hr : Renderable f.type) :
    ∃ k v rest, fieldSigns f = (k, v) :: rest ∧ k ≠ .closing .brace ∧ k ≠ .endOfFile ∧ k ≠ .mark .semicolon := by
  match f with
  | ⟨n :: ns, t, tag⟩ => exact ⟨.identifier, n, _, rfl, by decide⟩
  | ⟨[], t, tag⟩ =>
    obtain ⟨k, v, rest, hrest, hk⟩ := hr.written.exists_signs
    refine ⟨k, v, rest ++ tagSigns tag, by simp [fieldSigns, nameSigns, hrest], ?_⟩
    refine ⟨?_, ?_, ?_⟩ <;> rintro rfl <;> exact absurd hk.1 (by decide)

/-- A structure is read with its fields if their types are. -/
theorem takes_structType {type : TokenReader TypeExpr} {fields : List (FieldDecl TypeExpr)}
    (hf : ∀ f ∈ fields, FieldOK f)
    (hr : ∀ f ∈ fields, Renderable f.type) (ht : ∀ f ∈ fields, Takes type f.type.signs EndsType (· = f.type)) :
    Takes (structType type) (signs (struct fields)) F (· = .struct fields) := by
  have hentries : Takes (entries .brace (field type)) (linesSigns fields) (· = .closing .brace)
      (List.Forall₂ (· = ·) fields) := by
    rw [linesSigns_eq]
    refine Takes.entries (fun f hm => ?_) fun f hm => exists_fieldSigns (hr f hm)
    exact (takes_field (hf f hm) (hr f hm) (ht f hm)).imp fun a ha => ha.symm
  have hfirst : ∀ k, Begins (linesSigns fields) (· = .closing .brace) k → k ≠ .mark .semicolon := by
    rw [linesSigns_eq]
    refine begins_lines (G := (· ≠ .mark .semicolon)) (fun f hm => ?_) ?_
    · obtain ⟨k, v, rest, hrest, -, -, hk⟩ := exists_fieldSigns (hr f hm)
      exact ⟨k, v, rest, hrest, hk⟩
    · rintro _ rfl
      decide
  refine (takes_braces hentries hfirst).imp ?_
  rintro _ ⟨as, has, rfl⟩
  exact congrArg struct (eq_of_forall₂ has).symm

/-! ### All types -/

/-- The fields of a struct have fewer signs than the struct. -/
theorem length_linesSigns {f : FieldDecl TypeExpr} {fields : List (FieldDecl TypeExpr)} (hm : f ∈ fields) :
    f.type.signs.length ≤ (linesSigns fields).length := by
  induction fields with
  | nil => cases hm
  | cons g fields ih =>
    rw [linesSigns, List.length_append, List.length_cons]
    rcases List.mem_cons.1 hm with rfl | hm
    · obtain ⟨names, type, tag⟩ := f
      simp only [fieldSigns, List.length_append]
      omega
    · have hle := ih hm
      omega

/-- The depth that a type needs is not zero. -/
theorem Written.exists_depth (h : Written t signs') (hd : signs'.length ≤ d) : ∃ k, d = k + 1 := by
  obtain ⟨k, v, rest, hrest, -⟩ := h.exists_signs
  rw [hrest, List.length_cons] at hd
  exact Nat.exists_eq_succ_of_ne_zero (by omega)

/-- **A type**, however it is written, is read as what it is, if the depth is that of its signs at least. -/
theorem takes_written (h : Written t signs') (hd : signs'.length ≤ d) :
    Takes (ofDepth d) signs' EndsType (· = t) := by
  induction h generalizing d with
  | typeName h =>
    obtain ⟨d, rfl⟩ := (Written.typeName h).exists_depth hd
    have hname := (takes_named h.takes).mono (fun _ => EndsType.endsName) fun _ ha => ha
    rw [← List.append_nil (signs _)] at hname ⊢
    exact h.takes_ofDepth hname
  | pointer h ih =>
    obtain ⟨d, rfl⟩ := (Written.pointer h).exists_depth hd
    rw [List.length_cons] at hd
    exact takes_ofDepth_star ((ih (by omega)).imp fun _ ha => congrArg pointer ha)
  | slice h ih =>
    obtain ⟨d, rfl⟩ := (Written.slice h).exists_depth hd
    rw [List.length_append, Signs.length_inside] at hd
    exact takes_slice ((ih (by omega)).imp fun _ ha => congrArg slice ha)
  | array hl hne h ih =>
    obtain ⟨d, rfl⟩ := (Written.array hl hne h).exists_depth hd
    rw [List.length_append, Signs.length_inside] at hd
    exact takes_array hl hne ((ih (by omega)).imp fun _ ha => congrArg array ha)
  | map hk hv ihk ihv =>
    obtain ⟨d, rfl⟩ := (Written.map hk hv).exists_depth hd
    rw [List.length_cons, List.length_append, Signs.length_inside] at hd
    refine takes_map (ihk (by omega)) fun k hk => ?_
    subst hk
    exact (ihv (by omega)).imp fun _ ha => congrArg (map k) ha
  | chan h ih =>
    obtain ⟨d, rfl⟩ := (Written.chan h).exists_depth hd
    rw [List.length_cons] at hd
    exact takes_chan ((ih (by omega)).imp fun _ ha => congrArg chan ha) fun k hk => (h.begins hk).2
  | func hp =>
    obtain ⟨d, rfl⟩ := (Written.func hp).exists_depth hd
    exact takes_func hp
  | generic h ha =>
    obtain ⟨d, rfl⟩ := (Written.generic h ha).exists_depth hd
    exact h.takes_ofDepth (takes_generic h.takes ha)
  | struct hfields htypes h ih =>
    obtain ⟨d, rfl⟩ := (Written.struct hfields htypes h).exists_depth hd
    rw [signs, List.length_cons, Signs.length_inside] at hd
    refine Takes.look (Takes.peek (F := (· = .keyword .struct))) (fun t ht => ?_) fun _ hk => hk
    simp only [ht]
    refine takes_structType hfields htypes fun f hm => ih f hm ?_
    have hle := length_linesSigns hm
    omega
  | interface =>
    obtain ⟨d, rfl⟩ := Written.interface.exists_depth hd
    refine Takes.look (Takes.peek (F := (· = .keyword .interface))) (fun t ht => ?_) fun _ hk => hk
    simp only [ht]
    exact takes_interfaceType
  | dots =>
    obtain ⟨d, rfl⟩ := Written.dots.exists_depth hd
    refine Takes.look (Takes.peek (F := (· = .keyword .interface))) (fun t ht => ?_) fun _ hk => hk
    simp only [ht]
    exact takes_interfaceType_dots

end TypeExpr

end GoFixtures.Go
