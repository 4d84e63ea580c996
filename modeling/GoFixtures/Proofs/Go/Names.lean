import GoFixtures.Go.SourceFile
import GoFixtures.Proofs.Go.Reading

/-!
# Names

A name is a word that is no keyword (`IsName`). Every token that is a name has one for its value, and the
names in what a reader returns are values of such tokens.

* `Token.isName_of_scan`: the tokens.
* `TokenReader.Ensures`: what a reader returns has a property, if the tokens have names.
* `SourceFile.named_of_parse`: so all names of a file are names.
-/

namespace GoFixtures.Go

open Text

/-- A word that is no keyword. -/
def IsName (s : String) : Prop := (Lexeme.word s.toList).isValid ∧ (Lexeme.word s.toList).kind = .identifier

instance : DecidablePred IsName := fun _ => inferInstanceAs (Decidable (_ ∧ _))

/-! ### Names among the tokens -/

namespace Lexeme

variable {c : Char} {s rest : List Char} {x : Lexeme}

/-- A number is no name. -/
theorem numberKind_ne_identifier (d : Digits) : numberKind d ≠ .identifier := by
  unfold numberKind
  split
  · decide
  · split <;> decide

/-- An operator is no name. -/
theorem ofOperator_ne_identifier (op : String) : Token.Kind.ofOperator op ≠ .identifier := by
  unfold Token.Kind.ofOperator
  split <;> decide

/-- A lexeme that makes up a name is a word. -/
theorem isName_of_scan (h : scan c s = .ok (x, rest)) (hk : x.kind = .identifier) : IsName x.value := by
  cases scan_eq_ok_iff.1 h with
  | string | rawString | rune => cases hk
  | number => exact absurd hk (numberKind_ne_identifier _)
  | word _ hnumber hstart =>
    refine ⟨?_, ?_⟩
    · simp [value, isValid, hstart, isDigit_eq_false hnumber]
    · rw [value, String.toList_ofList]
      exact hk
  | operator => exact absurd hk (ofOperator_ne_identifier _)

end Lexeme

namespace Token

/-- The tokens that are names have names for values. -/
def Named (ts : List Token) : Prop := ∀ t ∈ ts, t.kind = .identifier → IsName t.value

end Token

/-- The identifiers that the scanner finds are names. -/
theorem Token.named_scan {source : String} {ts : List Token} (h : Token.scan source = .ok ts) :
    Token.Named ts := by
  intro t ht hk
  rcases Layout.Reaches.start.exists_scan h ht with hsemicolon | hend | ⟨c, s, x, rest, -, hx, htoken⟩
  · cases hsemicolon.symm.trans hk
  · cases hend.symm.trans hk
  · rw [htoken] at hk ⊢
    exact Lexeme.isName_of_scan hx hk

/-! ### Names that readers return -/

namespace TypeExpr

/-- A type expression in which the names of types, and those of fields as far as pointers and slices do not
lead to them, are names. -/
inductive Named : TypeExpr → Prop
  | name {n : String} (h : IsName n) : Named (name n)
  | qualified (p : String) {n : String} (h : IsName n) : Named (qualified p n)
  | pointer {e : TypeExpr} (h : Named e) : Named (pointer e)
  | slice {e : TypeExpr} (h : Named e) : Named (slice e)
  | array (e : TypeExpr) : Named (array e)
  | map (k v : TypeExpr) : Named (map k v)
  | chan (e : TypeExpr) : Named (chan e)
  | func : Named func
  | generic (e : TypeExpr) : Named (generic e)
  | struct {fields : List (FieldDecl TypeExpr)} (names : ∀ f ∈ fields, ∀ n ∈ f.names, IsName n)
      (types : ∀ f ∈ fields, Named f.type) : Named (struct fields)
  | interface (methods : List String) : Named (interface methods)

end TypeExpr

namespace TokenReader

variable {α β : Type} {r : TokenReader α} {f : α → TokenReader β} {P : α → Prop} {Q : β → Prop} {k : Token.Kind}

/-- From tokens with names the reader returns something that `P` holds of, and leaves tokens with names. -/
def Ensures (r : TokenReader α) (P : α → Prop) : Prop :=
  ∀ ts a rest, Token.Named ts → r ts = .ok (a, rest) → P a ∧ Token.Named rest

namespace Ensures

/-- What is read without a token is as good as it is said to be. -/
protected theorem pure {a : α} (h : P a) : Ensures (pure a) P := by
  intro ts b rest hts hr
  obtain ⟨rfl, rfl⟩ := Prod.mk.inj (Except.ok.inj hr)
  exact ⟨h, hts⟩

/-- Of two steps, the second may rely on what the first one ensures. -/
protected theorem bind (h : Ensures r P) (hf : ∀ a, P a → Ensures (f a) Q) : Ensures (r >>= f) Q := by
  intro ts b rest hts hr
  rw [bind_apply] at hr
  split at hr
  · rename_i a us ha
    obtain ⟨hP, hus⟩ := h ts a us hts ha
    exact hf a hP us b rest hus hr
  · cases hr

protected theorem map {g : α → β} (h : Ensures r P) (hg : ∀ a, P a → Q (g a)) :
    Ensures (r >>= fun a => pure (g a)) Q :=
  h.bind fun a ha => .pure (hg a ha)

/-! ### Single tokens -/

/-- An identifier at the head of named tokens is a name. -/
theorem named_headOf {ts : List Token} (h : Token.Named ts) (hk : (headOf ts).kind = .identifier) :
    IsName (headOf ts).value := by
  cases ts with
  | nil => cases hk
  | cons t ts => exact h t List.mem_cons_self hk

/-- Tokens that are taken from named ones are named. -/
theorem named_of_subset {ts us : List Token} (h : Token.Named ts) (hs : us ⊆ ts) : Token.Named us :=
  fun t ht hk => h t (hs ht) hk

theorem peek : Ensures peek fun t => t.kind = .identifier → IsName t.value := by
  intro ts t rest hts hr
  obtain ⟨rfl, rfl⟩ := Prod.mk.inj (Except.ok.inj hr)
  exact ⟨named_headOf hts, hts⟩

theorem peekKind (i : Nat) : Ensures (peekKind i) fun _ => True := by
  intro ts t rest hts hr
  obtain ⟨-, rfl⟩ := Prod.mk.inj (Except.ok.inj hr)
  exact ⟨trivial, hts⟩

theorem at? : Ensures (at? k) fun _ => True := by
  intro ts t rest hts hr
  obtain ⟨-, rfl⟩ := Prod.mk.inj (Except.ok.inj hr)
  exact ⟨trivial, hts⟩

theorem advance : Ensures advance fun t => t.kind = .identifier → IsName t.value := by
  intro ts t rest hts hr
  obtain ⟨rfl, rfl⟩ := Prod.mk.inj (Except.ok.inj hr)
  exact ⟨named_headOf hts, named_of_subset hts behind_suffix.subset⟩

/-- A step that fails ensures anything. -/
theorem fail {cause : ParseFault} {p : Position} : Ensures (fail cause p) P := by
  intro ts a rest _ hr
  cases hr

theorem stall : Ensures stall P := by
  intro ts a rest _ hr
  cases hr

/-- An identifier that is asked for is a name. -/
theorem expect : Ensures (expect k) fun t => k = .identifier → IsName t.value := by
  intro ts t rest hts hr
  rw [TokenReader.expect, bind_apply] at hr
  by_cases hk : (headOf ts).kind = k
  · rw [TokenReader.peek] at hr
    simp only [hk, if_true] at hr
    obtain ⟨rfl, rfl⟩ := Prod.mk.inj (Except.ok.inj hr)
    exact ⟨fun h => named_headOf hts (hk.trans h), named_of_subset hts behind_suffix.subset⟩
  · rw [TokenReader.peek] at hr
    simp only [hk, if_false] at hr
    cases hr

/-- Whether a token has been accepted says nothing about names. -/
theorem accept : Ensures (accept k) fun _ => True := by
  refine at?.bind fun b _ => ?_
  split
  · exact advance.bind fun _ _ => .pure trivial
  · exact .pure trivial

theorem skipSemicolons : Ensures skipSemicolons fun _ => True := by
  intro ts t rest hts hr
  obtain ⟨-, rfl⟩ := Prod.mk.inj (Except.ok.inj hr)
  exact ⟨trivial, named_of_subset hts (List.dropWhile_sublist _).subset⟩

theorem expectTerminator : Ensures expectTerminator fun _ => True := by
  refine at?.bind fun b _ => ?_
  split
  · exact .pure trivial
  · exact expect.bind fun _ _ => .pure trivial

/-- A group that is passed over says nothing about names. -/
theorem skipGroup {b : Bracket} : Ensures (skipGroup b) fun _ => True := by
  refine Ensures.bind expect fun opener _ => ?_
  intro ts u rest hts hr
  cases hb : behindGroup b opener.position 0 ts with
  | error e => simp [hb, Except.map] at hr
  | ok more =>
    simp only [hb, Except.map, Except.ok.injEq, Prod.mk.injEq, true_and] at hr
    exact ⟨trivial, named_of_subset hts (hr ▸ (behindGroup_suffix hb).subset)⟩

theorem skipUntil {stops : Token.Kind → Bool} : Ensures (skipUntil stops) fun _ => True := by
  intro ts u rest hts hr
  obtain ⟨-, rfl⟩ := Prod.mk.inj (Except.ok.inj hr)
  exact ⟨trivial, named_of_subset hts untilStop_suffix.subset⟩

/-! ### Loops -/

/-- What each round ensures holds of all that the rounds find. -/
theorem repeatFor {goesOn : Token.Kind → Bool} (h : Ensures r P) (rounds : Nat) :
    Ensures (repeatFor goesOn r rounds) fun as => ∀ a ∈ as, P a := by
  induction rounds with
  | zero =>
    refine (peekKind 0).bind fun k _ => ?_
    split
    · exact stall
    · exact .pure (by simp)
  | succ rounds ih =>
    refine (peekKind 0).bind fun k _ => ?_
    split
    · exact h.bind fun a ha => ih.map fun as has => List.forall_mem_cons.2 ⟨ha, has⟩
    · exact .pure (by simp)

/-- A loop ensures of all that it finds what one round ensures. -/
theorem repeatWhile {goesOn : Token.Kind → Bool} (h : Ensures r P) :
    Ensures (repeatWhile goesOn r) fun as => ∀ a ∈ as, P a :=
  fun ts => repeatFor h ts.length ts

/-- The entries between two brackets are as good as one of them. -/
theorem entries {b : Bracket} (h : Ensures r P) : Ensures (entries b r) fun as => ∀ a ∈ as, P a := by
  refine repeatWhile (h.bind fun a ha => at?.bind fun c _ => ?_)
  split
  · exact expect.bind fun _ _ => skipSemicolons.map fun _ _ => ha
  · exact skipSemicolons.map fun _ _ => ha

/-- The lines of a group are as good as one of them. -/
theorem group (h : Ensures r P) : Ensures (group r) fun as => ∀ a ∈ as, P a := by
  refine accept.bind fun b _ => ?_
  split
  · refine skipSemicolons.bind fun _ _ => (entries h).bind fun as has => ?_
    exact expect.bind fun _ _ => .pure has
  · exact h.map fun a ha => by simpa using ha

/-- A list of names has at least one. -/
theorem nameList : Ensures nameList fun names => names ≠ [] ∧ ∀ n ∈ names, IsName n := by
  refine expect.bind fun first hfirst => ?_
  exact (repeatWhile (advance.bind fun _ _ => expect.map fun t ht => ht rfl)).map fun more hmore =>
    ⟨List.cons_ne_nil _ _, List.forall_mem_cons.2 ⟨hfirst rfl, hmore⟩⟩

end Ensures

end TokenReader

open TokenReader

namespace TypeExpr

/-- A name that may have a package in front of it and type arguments behind it. -/
theorem ensures_named : Ensures named Named := by
  refine Ensures.expect.bind fun first hfirst => Ensures.accept.bind fun b _ => ?_
  have hbase (base : TypeExpr) (h : Named base) : Ensures (do
      if ← at? (.opening .square) then
        skipGroup .square
        return generic base
      else
        return base) Named := by
    refine Ensures.at?.bind fun b _ => ?_
    split
    · exact Ensures.skipGroup.map fun _ _ => .generic base
    · exact .pure h
  split
  · exact Ensures.expect.bind fun _ hsecond => hbase _ (.qualified _ (hsecond rfl))
  · exact hbase _ (.name (hfirst rfl))

theorem ensures_isEmbeddedField : Ensures isEmbeddedField fun _ => True := by
  intro ts b rest hts hr
  obtain ⟨-, rfl⟩ := Prod.mk.inj (Except.ok.inj hr)
  exact ⟨trivial, hts⟩

variable {type : TokenReader TypeExpr}

/-- A signature is passed over, and what is behind it is still named. -/
theorem ensures_skipSignature (h : Ensures type Named) : Ensures (skipSignature type) fun _ => True := by
  refine Ensures.skipGroup.bind fun _ _ => (Ensures.peekKind 0).bind fun k _ => ?_
  split
  · exact Ensures.skipGroup.bind fun _ _ => .pure trivial
  split
  · exact h.bind fun _ _ => .pure trivial
  · exact .pure trivial

/-- The names of a field and of its type. -/
theorem ensures_field (h : Ensures type Named) :
    Ensures (field type) fun f => (∀ n ∈ f.names, IsName n) ∧ Named f.type := by
  have htag (names : List String) (t : TypeExpr) (hn : ∀ n ∈ names, IsName n) (ht : Named t) : Ensures (do
      if ← at? .string then
        let tag ← advance
        return ⟨names, t, some tag.value⟩
      else
        return ⟨names, t, none⟩ : TokenReader (FieldDecl TypeExpr)) fun f =>
          (∀ n ∈ f.names, IsName n) ∧ Named f.type := by
    refine Ensures.at?.bind fun b _ => ?_
    split
    · exact Ensures.advance.map fun _ _ => ⟨hn, ht⟩
    · exact .pure ⟨hn, ht⟩
  refine Ensures.accept.bind fun b _ => ?_
  split
  · exact ensures_named.bind fun t ht => htag _ _ (by simp) (.pointer ht)
  refine ensures_isEmbeddedField.bind fun b _ => ?_
  split
  · exact ensures_named.bind fun t ht => htag _ _ (by simp) ht
  · exact Ensures.nameList.bind fun names hn => h.bind fun t ht => htag _ _ hn.2 ht

/-- A structure is named if the types of its fields are. -/
theorem ensures_structType (h : Ensures type Named) : Ensures (structType type) Named := by
  refine Ensures.expect.bind fun _ _ => Ensures.expect.bind fun _ _ => Ensures.skipSemicolons.bind fun _ _ => ?_
  refine (Ensures.entries (ensures_field h)).bind fun fields hf => Ensures.expect.bind fun _ _ => ?_
  exact .pure (.struct (fun f hm => (hf f hm).1) fun f hm => (hf f hm).2)

/-- The methods of an interface have names. -/
theorem ensures_interfaceType : Ensures interfaceType Named := by
  refine Ensures.expect.bind fun _ _ => Ensures.expect.bind fun _ _ => Ensures.skipSemicolons.bind fun _ _ => ?_
  have hmember : Ensures member fun _ => True :=
    Ensures.peek.bind fun _ _ => (Ensures.peekKind 1).bind fun _ _ => Ensures.skipUntil.bind fun _ _ =>
      Ensures.skipSemicolons.bind fun _ _ => .pure trivial
  exact (Ensures.repeatWhile hmember).bind fun _ _ => Ensures.expect.bind fun _ _ => .pure (.interface _)

/-- The induction on how deep types may be nested: one level of it. -/
theorem ensures_ofDepth (d : Nat) : Ensures (ofDepth d) Named := by
  induction d with
  | zero => exact Ensures.stall
  | succ d ih =>
    refine Ensures.peek.bind fun t _ => ?_
    split
    · exact ensures_named
    · exact Ensures.advance.bind fun _ _ => ih.map fun _ h => .pointer h
    · refine (Ensures.peekKind 1).bind fun k _ => ?_
      split
      · exact Ensures.advance.bind fun _ _ => Ensures.advance.bind fun _ _ => ih.map fun _ h => .slice h
      · exact Ensures.skipGroup.bind fun _ _ => ih.map fun _ _ => .array _
    · exact Ensures.advance.bind fun _ _ => Ensures.expect.bind fun _ _ => ih.bind fun _ _ =>
        Ensures.expect.bind fun _ _ => ih.map fun _ _ => .map _ _
    · exact Ensures.advance.bind fun _ _ => Ensures.accept.bind fun _ _ => ih.map fun _ _ => .chan _
    · exact Ensures.advance.bind fun _ _ => Ensures.expect.bind fun _ _ => ih.map fun _ _ => .chan _
    · exact Ensures.advance.bind fun _ _ => (ensures_skipSignature ih).bind fun _ _ => .pure .func
    · exact ensures_structType ih
    · exact ensures_interfaceType
    · exact Ensures.advance.bind fun _ _ => ih.bind fun _ h => Ensures.expect.bind fun _ _ => .pure h
    · exact Ensures.fail

/-- Types that are read are named. -/
theorem ensures_reader : Ensures reader Named :=
  fun ts => ensures_ofDepth ts.length ts

end TypeExpr

/-- The names that a declaration of types and one of constants declares, and those of its types. -/
structure SourceFile.Named (file : SourceFile) : Prop where
  types : ∀ spec ∈ file.types, IsName spec.name ∧ spec.type.Named
  constants : ∀ group ∈ file.constGroups, ∀ spec ∈ group, ∀ n ∈ spec.names, IsName n

namespace SourceFile

/-- A type declaration gives a name to a named type. -/
theorem ensures_typeSpec : Ensures typeSpec fun spec => IsName spec.name ∧ spec.type.Named := by
  have htype (name : Token) (isGeneric : Bool) (hn : IsName name.value) : Ensures (do
      let isAlias ← accept (.mark .assign)
      let type ← TypeExpr.reader
      return ⟨name.value, type, name.position.line, isGeneric, isAlias⟩ : TokenReader TypeSpec)
      fun spec => IsName spec.name ∧ spec.type.Named :=
    Ensures.accept.bind fun _ _ => TypeExpr.ensures_reader.map fun _ ht => ⟨hn, ht⟩
  have hparameters : Ensures atTypeParameters fun _ => True := by
    intro ts b rest hts hr
    obtain ⟨-, rfl⟩ := Prod.mk.inj (Except.ok.inj hr)
    exact ⟨trivial, hts⟩
  refine Ensures.expect.bind fun name hn => hparameters.bind fun b _ => ?_
  split
  · exact Ensures.skipGroup.bind fun _ _ => htype name b (hn rfl)
  · exact htype name b (hn rfl)

/-- A constant declaration gives names, and there is one at least. -/
theorem ensures_constSpec : Ensures constSpec fun spec => spec.names ≠ [] ∧ ∀ n ∈ spec.names, IsName n := by
  have hvalues (first : Token) (names : List String) (type : Option TypeExpr)
    (hn : names ≠ [] ∧ ∀ n ∈ names, IsName n) :
      Ensures (do
        let hasValues ← accept (.mark .assign)
        if hasValues then skipUntil endsConstValues
        return ⟨names, type, hasValues, first.position.line⟩ : TokenReader ConstSpec)
      fun spec => spec.names ≠ [] ∧ ∀ n ∈ spec.names, IsName n := by
    refine Ensures.accept.bind fun b _ => ?_
    split
    · exact Ensures.skipUntil.bind fun _ _ => .pure hn
    · exact .pure hn
  refine Ensures.peek.bind fun first _ => Ensures.nameList.bind fun names hn =>
    (Ensures.peekKind 0).bind fun k _ => ?_
  split
  · exact hvalues first names none hn
  · exact TypeExpr.ensures_reader.bind fun type _ => hvalues first names (some type) hn

theorem ensures_varDecl : Ensures varDecl fun _ => True := by
  refine Ensures.expect.bind fun _ _ => Ensures.at?.bind fun b _ => ?_
  split
  · exact Ensures.skipGroup
  · exact Ensures.skipUntil

theorem ensures_funcDecl : Ensures funcDecl fun _ => True := by
  have hbody : Ensures (do
      TypeExpr.skipSignature TypeExpr.reader
      if ← at? (.opening .brace) then skipGroup .brace) fun _ => True := by
    refine (TypeExpr.ensures_skipSignature TypeExpr.ensures_reader).bind fun _ _ => Ensures.at?.bind fun b _ => ?_
    split
    · exact Ensures.skipGroup
    · exact .pure trivial
  have hname : Ensures (do
      let _ ← expect .identifier
      if ← at? (.opening .square) then skipGroup .square
      TypeExpr.skipSignature TypeExpr.reader
      if ← at? (.opening .brace) then skipGroup .brace) fun _ => True := by
    refine Ensures.expect.bind fun _ _ => Ensures.at?.bind fun b _ => ?_
    split
    · exact Ensures.skipGroup.bind fun _ _ => hbody
    · exact hbody
  refine Ensures.expect.bind fun _ _ => Ensures.at?.bind fun b _ => ?_
  split
  · exact Ensures.skipGroup.bind fun _ _ => hname
  · exact hname

theorem ensures_importDecl : Ensures importDecl fun _ => True := by
  have hspec : Ensures importSpec fun _ => True := by
    refine (Ensures.peekKind 0).bind fun k _ => ?_
    split
    · exact Ensures.advance.bind fun _ _ => Ensures.expect.bind fun _ _ => .pure trivial
    · exact Ensures.expect.bind fun _ _ => .pure trivial
  exact Ensures.expect.bind fun _ _ => (Ensures.group hspec).bind fun _ _ =>
    Ensures.expectTerminator.bind fun _ _ => Ensures.skipSemicolons

section Specs

variable {P : TypeSpec → Prop} {Q : ConstSpec → Prop}

/-- What holds of all types and of all constants that an addition brings. -/
def Addition.All (P : TypeSpec → Prop) (Q : ConstSpec → Prop) (a : Addition) : Prop :=
  (∀ spec ∈ a.typeSpecs, P spec) ∧ ∀ group ∈ a.constGroups, ∀ spec ∈ group, Q spec

/-- A declaration adds to a file what its lines ensure. -/
theorem ensures_declaration (ht : Ensures typeSpec P) (hc : Ensures constSpec Q) :
    Ensures declaration (Addition.All P Q) := by
  have hend (a : Addition) (ha : a.All P Q) : Ensures (do
      expectTerminator
      skipSemicolons
      return a) (Addition.All P Q) :=
    Ensures.expectTerminator.bind fun _ _ => Ensures.skipSemicolons.bind fun _ _ => .pure ha
  refine Ensures.peek.bind fun t _ => ?_
  split
  · refine Ensures.advance.bind fun _ _ => (Ensures.group ht).bind fun specs hs => hend _ ?_
    exact ⟨hs, by simp [Addition.constGroups]⟩
  · refine Ensures.advance.bind fun _ _ => (Ensures.group hc).bind fun specs hs => hend _ ?_
    exact ⟨by simp [Addition.typeSpecs], by simpa [Addition.constGroups] using hs⟩
  · exact ensures_varDecl.bind fun _ _ =>
      hend .nothing ⟨by simp [Addition.typeSpecs], by simp [Addition.constGroups]⟩
  · exact ensures_funcDecl.bind fun _ _ =>
      hend .nothing ⟨by simp [Addition.typeSpecs], by simp [Addition.constGroups]⟩
  · exact Ensures.fail.bind fun a ha => hend a ha
  · exact Ensures.fail.bind fun a ha => hend a ha

/-- A file has in it what its declarations have added. -/
theorem ensures_reader (ht : Ensures typeSpec P) (hc : Ensures constSpec Q) : Ensures reader fun file =>
    (∀ spec ∈ file.types, P spec) ∧ ∀ group ∈ file.constGroups, ∀ spec ∈ group, Q spec := by
  refine Ensures.skipSemicolons.bind fun _ _ => Ensures.expect.bind fun _ _ => Ensures.expect.bind fun _ _ => ?_
  refine Ensures.expectTerminator.bind fun _ _ => Ensures.skipSemicolons.bind fun _ _ => ?_
  have hdeclarations : Ensures (repeatWhile (· ≠ .endOfFile) declaration) fun as => ∀ a ∈ as, a.All P Q :=
    Ensures.repeatWhile (ensures_declaration ht hc)
  refine (Ensures.repeatWhile ensures_importDecl).bind fun _ _ => hdeclarations.map fun as has => ?_
  constructor
  · intro spec hs
    obtain ⟨a, ha, hs⟩ := List.mem_flatMap.1 hs
    exact (has a ha).1 spec hs
  · intro group hg
    obtain ⟨a, ha, hg⟩ := List.mem_flatMap.1 hg
    exact (has a ha).2 group hg

/-- What holds of all types and constants that are read holds of those of a file. -/
theorem all_of_parse (ht : Ensures typeSpec P) (hc : Ensures constSpec Q) {source : String} {file : SourceFile}
    (h : SourceFile.parse source = .ok file) :
    (∀ spec ∈ file.types, P spec) ∧ ∀ group ∈ file.constGroups, ∀ spec ∈ group, Q spec := by
  unfold SourceFile.parse at h
  split at h
  · cases h
  · rename_i ts hts
    split at h
    · cases h
    · rename_i file' hfile
      obtain rfl := Except.ok.inj h
      unfold ofTokens at hfile
      cases hr : reader ts with
      | error e => simp [hr, Except.map] at hfile
      | ok r =>
        obtain ⟨file, rest⟩ := r
        simp only [hr, Except.map, Except.ok.injEq] at hfile
        exact hfile ▸ (ensures_reader ht hc ts file rest (Token.named_scan hts) hr).1

end Specs

/-- **All names of a file are names**, as far as a model is made of them. -/
theorem named_of_parse {source : String} {file : SourceFile} (h : SourceFile.parse source = .ok file) :
    file.Named := by
  obtain ⟨htypes, hconstants⟩ := all_of_parse ensures_typeSpec ensures_constSpec h
  exact ⟨htypes, fun group hg spec hs => (hconstants group hg spec hs).2⟩

/-- A line of constants declares at least one. -/
theorem names_ne_nil_of_parse {source : String} {file : SourceFile} (h : SourceFile.parse source = .ok file) :
    ∀ group ∈ file.constGroups, ∀ spec ∈ group, spec.names ≠ [] :=
  fun group hg spec hs => ((all_of_parse ensures_typeSpec ensures_constSpec h).2 group hg spec hs).1

end SourceFile

end GoFixtures.Go
