import GoFixtures.Proofs.Go.InterfaceBodies

/-!
# Progress

Every round of every loop takes a token, but one: the round of an interface body in front of a closing
parenthesis or square bracket.

* `TypeExpr.advances_ofDepth`: the depth that the number of tokens allows is never used up.
* `SourceFile.progress`: each loop of a file, and the file.
* `SourceFile.member_blockedBody`: a file that is never read to its end.
-/

namespace GoFixtures.Go

open TokenReader Token TypeExpr

namespace TypeExpr

variable {ts : List Token}

/-- A named type takes a token. -/
theorem advances_named : Advances 1 named ts := by
  have hbase (base : TypeExpr) (vs : List Token) : Advances 0 (do
      if ← at? (.opening .square) then
        skipGroup .square
        return generic base
      else
        return base) vs := by
    refine Advances.look (r := at? (.opening .square)) rfl ?_
    split
    · exact (Advances.skipGroup.mono (Nat.zero_le 1)).before fun _ _ _ => .pure
    · exact .pure
  refine (Advances.expect (by decide)).before fun first us _ => Advances.accept.before fun dot vs _ => ?_
  split
  · exact ((Advances.expect (by decide)).mono (Nat.zero_le 1)).before fun _ _ _ => hbase _ _
  · exact hbase _ _

variable {type : TokenReader TypeExpr}

/-- A signature takes a token if each type does. -/
theorem advances_skipSignature (h : ∀ us, us.length < ts.length → Advances 1 type us) :
    Advances 1 (skipSignature type) ts := by
  refine Advances.skipGroup.before fun _ us hus => Advances.look (r := peekKind 0) rfl ?_
  split
  · exact (Advances.skipGroup.mono (Nat.zero_le 1)).before fun _ _ _ => .pure
  split
  · exact ((h us (by omega)).mono (Nat.zero_le 1)).before fun _ _ _ => .pure
  · exact .pure

/-- A look for an embedded field takes nothing. -/
theorem advances_isEmbeddedField : Advances 0 isEmbeddedField ts := by
  intro hts
  refine ⟨fun a rest hr => ?_, fun p hr => (nomatch hr)⟩
  obtain ⟨-, rfl⟩ := Prod.mk.inj (Except.ok.inj hr)
  exact ⟨hts, List.suffix_rfl, le_rfl⟩

/-- A field takes a token if its type does. -/
theorem advances_field (h : ∀ us, us.length < ts.length → Advances 1 type us) : Advances 1 (field type) ts := by
  have htag (names : List String) (t : TypeExpr) (vs : List Token) : Advances 0 (do
      if ← at? .string then
        let tag ← advance
        return ⟨names, t, some tag.value⟩
      else
        return ⟨names, t, none⟩ : TokenReader (FieldDecl TypeExpr)) vs := by
    refine Advances.look (r := at? .string) rfl ?_
    split
    · exact Advances.advance'.before fun _ _ _ => .pure
    · exact .pure
  refine Advances.accept.andThen fun star us hus => ?_
  split
  · exact advances_named.before fun _ _ _ => htag _ _ _
  refine advances_isEmbeddedField.andThen fun embedded vs hvs => ?_
  split
  · exact advances_named.before fun _ _ _ => htag _ _ _
  · refine Advances.nameList.before fun names ws hws => ?_
    exact ((h ws (by omega)).mono (Nat.zero_le 1)).before fun _ _ _ => htag _ _ _

/-- A structure takes a token if the types in it do. -/
theorem advances_structType (h : ∀ us, us.length < ts.length → Advances 1 type us) :
    Advances 1 (structType type) ts := by
  refine (Advances.expect (by decide)).before fun _ us hus => ?_
  refine ((Advances.expect (by decide)).mono (Nat.zero_le 1)).before fun _ vs hvs => ?_
  refine Advances.skipSemicolons.before fun _ ws hws => ?_
  have hfields : Advances 0 (entries .brace (field type)) ws :=
    Advances.entries fun xs hxs => advances_field fun ys hys => h ys (by omega)
  refine hfields.before fun fields _ _ => ?_
  exact ((Advances.expect (by decide)).mono (Nat.zero_le 1)).before fun _ _ _ => .pure

/-- **A type** that the depth allows for takes tokens. -/
theorem advances_ofDepth {d : Nat} (hd : ts.length ≤ d) : Advances 1 (ofDepth d) ts := by
  induction d generalizing ts with
  | zero =>
    intro hts
    have hpos := List.length_pos_of_ne_nil hts.ne_nil
    omega
  | succ d ih =>
    have hnext {us : List Token} (hus : us.length < ts.length) : Advances 0 (ofDepth d) us :=
      (ih (by omega)).mono (Nat.zero_le 1)
    have hexpect {k : Token.Kind} {us : List Token} (hk : k ≠ .endOfFile) : Advances 0 (expect k) us :=
      (Advances.expect hk).mono (Nat.zero_le 1)
    have hadvance (hk : (headOf ts).kind ≠ .endOfFile) : Advances 1 advance ts :=
      Advances.advance (Advances.headOf_kind ts ▸ hk)
    refine Advances.look (r := peek) rfl ?_
    split
    · exact advances_named
    · rename_i hk
      exact (hadvance (by rw [hk]; decide)).before fun _ us hus => (hnext (by omega)).before fun _ _ _ => .pure
    · rename_i hk
      refine Advances.look (r := peekKind 1) rfl ?_
      split
      · refine (hadvance (by rw [hk]; decide)).before fun _ us hus => Advances.advance'.before fun _ vs hvs => ?_
        exact (hnext (by omega)).before fun _ _ _ => .pure
      · exact Advances.skipGroup.before fun _ us hus => (hnext (by omega)).before fun _ _ _ => .pure
    · rename_i hk
      refine (hadvance (by rw [hk]; decide)).before fun _ us hus =>
        (hexpect (by decide)).before fun _ vs hvs => ?_
      refine (hnext (by omega)).before fun key ws hws => (hexpect (by decide)).before fun _ xs hxs => ?_
      exact (hnext (by omega)).before fun _ _ _ => .pure
    · rename_i hk
      refine (hadvance (by rw [hk]; decide)).before fun _ us hus => Advances.accept.before fun _ vs hvs => ?_
      exact (hnext (by omega)).before fun _ _ _ => .pure
    · rename_i hk
      refine (hadvance (by rw [hk]; decide)).before fun _ us hus =>
        (hexpect (by decide)).before fun _ vs hvs => ?_
      exact (hnext (by omega)).before fun _ _ _ => .pure
    · rename_i hk
      refine (hadvance (by rw [hk]; decide)).before fun _ us hus => ?_
      have hsignature : Advances 1 (skipSignature (ofDepth d)) us :=
        advances_skipSignature fun vs hvs => ih (by omega)
      exact (hsignature.mono (Nat.zero_le 1)).before fun _ _ _ => .pure
    · exact advances_structType fun us hus => ih (by omega)
    · exact advances_interfaceType
    · rename_i hk
      refine (hadvance (by rw [hk]; decide)).before fun _ us hus => (hnext (by omega)).before fun _ vs hvs => ?_
      exact (hexpect (by decide)).before fun _ _ _ => .pure
    · exact Advances.fail (by simp)

/-- A type takes a token, however deep it is nested. -/
theorem advances_reader : Advances 1 reader ts :=
  advances_ofDepth le_rfl

end TypeExpr

namespace SourceFile

variable {ts : List Token}

/-! ### Files -/

theorem advances_importSpec : Advances 1 importSpec ts := by
  refine Advances.look (r := peekKind 0) rfl ?_
  split
  · refine Advances.advance'.andThen fun _ us _ => ?_
    exact (Advances.expect (by decide)).before fun _ _ _ => .pure
  · exact (Advances.expect (by decide)).before fun _ _ _ => .pure

theorem advances_importDecl : Advances 1 importDecl ts := by
  refine (Advances.expect (by decide)).before fun _ us _ => ?_
  refine ((Advances.group fun _ _ => advances_importSpec).mono (Nat.zero_le 1)).before fun _ vs _ => ?_
  exact Advances.expectTerminator.before fun _ _ _ => Advances.skipSemicolons

/-- So does a type declaration. -/
theorem advances_typeSpec : Advances 1 typeSpec ts := by
  refine (Advances.expect (by decide)).before fun name us _ => ?_
  refine Advances.look (r := atTypeParameters) rfl ?_
  have htype (generic : Bool) (vs : List Token) : Advances 0 (do
      let isAlias ← accept (.mark .assign)
      let type ← TypeExpr.reader
      return (⟨name.value, type, name.position.line, generic, isAlias⟩ : TypeSpec)) vs :=
    Advances.accept.before fun _ _ _ => (advances_reader.mono (Nat.zero_le 1)).before fun _ _ _ => .pure
  split
  · exact (Advances.skipGroup.mono (Nat.zero_le 1)).before fun _ _ _ => htype _ _
  · exact htype _ _

/-- So does a constant declaration. -/
theorem advances_constSpec : Advances 1 constSpec ts := by
  refine Advances.look (r := peek) rfl ?_
  refine Advances.nameList.before fun names us _ => ?_
  have hvalues (type : Option TypeExpr) (vs : List Token) : Advances 0 (do
      let hasValues ← accept (.mark .assign)
      if hasValues then skipUntil endsConstValues
      return (⟨names, type, hasValues, (headOf ts).position.line⟩ : ConstSpec)) vs := by
    refine Advances.accept.before fun c _ _ => ?_
    split
    · exact Advances.skipUntil.before fun _ _ _ => .pure
    · exact .pure
  refine Advances.look (r := peekKind 0) rfl ?_
  split
  · exact hvalues _ _
  · exact (advances_reader.mono (Nat.zero_le 1)).before fun _ _ _ => hvalues _ _

theorem advances_varDecl : Advances 1 varDecl ts := by
  refine (Advances.expect (by decide)).before fun _ us _ => ?_
  refine Advances.look (r := at? (.opening .paren)) rfl ?_
  split
  · exact Advances.skipGroup.mono (Nat.zero_le 1)
  · exact Advances.skipUntil

theorem advances_funcDecl : Advances 1 funcDecl ts := by
  have hbrackets {b : Bracket} {us : List Token} : Advances 0 (skipGroup b) us :=
    Advances.skipGroup.mono (Nat.zero_le 1)
  have hsignature (us : List Token) : Advances 0 (do
      TypeExpr.skipSignature TypeExpr.reader
      if ← at? (.opening .brace) then skipGroup .brace) us := by
    refine ((advances_skipSignature fun _ _ => advances_reader).mono (Nat.zero_le 1)).before fun _ vs _ => ?_
    refine Advances.look (r := at? (.opening .brace)) rfl ?_
    split
    · exact hbrackets
    · exact .pure
  have hname (us : List Token) : Advances 0 (do
      let _ ← expect .identifier
      if ← at? (.opening .square) then skipGroup .square
      TypeExpr.skipSignature TypeExpr.reader
      if ← at? (.opening .brace) then skipGroup .brace) us := by
    refine ((Advances.expect (by decide)).mono (Nat.zero_le 1)).before fun _ vs _ => ?_
    refine Advances.look (r := at? (.opening .square)) rfl ?_
    split
    · exact hbrackets.before fun _ _ _ => hsignature _
    · exact hsignature _
  refine (Advances.expect (by decide)).before fun _ us _ => ?_
  refine Advances.look (r := at? (.opening .paren)) rfl ?_
  split
  · exact hbrackets.before fun _ _ _ => hname _
  · exact hname _

/-- So does each declaration, and so the file comes to its end. -/
theorem advances_declaration : Advances 1 declaration ts := by
  have hend (addition : Addition) (us : List Token) : Advances 0 (do
      expectTerminator
      skipSemicolons
      return addition) us :=
    Advances.expectTerminator.before fun _ _ _ => Advances.skipSemicolons.before fun _ _ _ => .pure
  have hadvance (hk : (headOf ts).kind ≠ .endOfFile) : Advances 1 advance ts :=
    Advances.advance (Advances.headOf_kind ts ▸ hk)
  refine Advances.look (r := peek) rfl ?_
  split
  · rename_i hk
    refine (hadvance (by rw [hk]; decide)).before fun _ us _ => ?_
    exact ((Advances.group fun _ _ => advances_typeSpec).mono (Nat.zero_le 1)).before fun _ _ _ => hend _ _
  · rename_i hk
    refine (hadvance (by rw [hk]; decide)).before fun _ us _ => ?_
    exact ((Advances.group fun _ _ => advances_constSpec).mono (Nat.zero_le 1)).before fun _ _ _ => hend _ _
  · exact advances_varDecl.before fun _ _ _ => hend _ _
  · exact advances_funcDecl.before fun _ _ _ => hend _ _
  · exact Advances.fail (by simp)
  · exact Advances.fail (by simp)

theorem advances_reader : Advances 1 reader ts := by
  refine Advances.skipSemicolons.andThen fun _ us _ => (Advances.expect (by decide)).before fun _ vs _ => ?_
  refine ((Advances.expect (by decide)).mono (Nat.zero_le 1)).before fun package ws _ => ?_
  refine Advances.expectTerminator.before fun _ _ _ => Advances.skipSemicolons.before fun _ _ _ => ?_
  refine (Advances.repeatWhile fun _ _ _ _ => advances_importDecl).before fun _ _ _ => ?_
  exact (Advances.repeatWhile fun _ _ _ _ => advances_declaration).before fun _ _ _ => .pure

/-- A round of a loop ends in an error or leaves fewer tokens. -/
def Shortens {α : Type} (round : TokenReader α) (ts : List Token) : Prop :=
  ∀ a rest, round ts = .ok (a, rest) → rest.length < ts.length

/-- A round that takes a token leaves fewer of them. -/
theorem shortens_of_advances {α : Type} {round : TokenReader α} (hts : Ended ts) (h : Advances 1 round ts) :
    Shortens round ts := by
  intro a rest hr
  obtain ⟨-, -, hlen⟩ := (h hts).1 a rest hr
  omega

/-- What the loops do in front of `ts`.

* `file`: the whole file is read, or an error says why not; or a bracket blocks an interface body.
* `imports`, `declarations`, `importSpecs`, `typeSpecs`, `constSpecs`, `fields`, `names`: a round takes a
  token, or ends in an error.
* `members`: a round of an interface body always ends well, and takes a token if it does not stand in front of
  a closing bracket.
* `bodies`, `interfaces`: the loop of an interface body goes on for ever just if a bracket blocks the body,
  and the interface with it. -/
structure Progress (ts : List Token) : Prop where
  file : ∀ p, ofTokens ts = .error ⟨.stalled, p⟩ → BlockedAt p ts
  imports : Shortens importDecl ts
  declarations : Shortens declaration ts
  importSpecs : Shortens (entryRound .paren importSpec) ts
  typeSpecs : Shortens (entryRound .paren typeSpec) ts
  constSpecs : Shortens (entryRound .paren constSpec) ts
  fields : ∀ depth, ts.length ≤ depth → Shortens (entryRound .brace (field (ofDepth depth))) ts
  names : kindAt ts 0 = .mark .comma → Shortens nameRound ts
  members : inBody (kindAt ts 0) →
    ∃ name rest, member ts = .ok (name, rest) ∧ (rest.length < ts.length ↔ ∀ b, kindAt ts 0 ≠ .closing b)
  bodies : (∀ rounds, ∃ p, repeatFor inBody member rounds ts = .error ⟨.stalled, p⟩) ↔ ∃ t, Blocks t ts
  interfaces : ∀ word brace t, word.kind = .keyword .interface → brace.kind = .opening .brace → Blocks t ts →
    interfaceType (word :: brace :: ts) = .error ⟨.stalled, t.position⟩

/-- **Progress**, wherever the tokens end with the end of the file. -/
theorem progress (hts : Ended ts) : Progress ts := by
  refine
    { file := fun p hp => ?_
      imports := shortens_of_advances hts advances_importDecl
      declarations := shortens_of_advances hts advances_declaration
      importSpecs := shortens_of_advances hts advances_importSpec.entryRound
      typeSpecs := shortens_of_advances hts advances_typeSpec.entryRound
      constSpecs := shortens_of_advances hts advances_constSpec.entryRound
      fields := fun depth hd => shortens_of_advances hts
        (advances_field fun us hus => advances_ofDepth (by omega)).entryRound
      names := fun hk => shortens_of_advances hts (Advances.nameRound hk)
      members := fun hin => ?_
      bodies := endless_iff_blocked hts
      interfaces := fun word brace t hword hbrace ht => ?_ }
  · have hreader : reader ts = .error ⟨.stalled, p⟩ := by
      rw [ofTokens] at hp
      cases hr : reader ts with
      | ok found => simp [hr, Except.map] at hp
      | error e => simpa [hr, Except.map] using hp
    exact (advances_reader hts).2 p hreader
  · match ts with
    | [] => exact absurd rfl hts.ne_nil
    | t :: us =>
      obtain ⟨name, hmember⟩ := member_apply (t :: us)
      have hend : t.kind ≠ .endOfFile := by
        rintro hend
        simp [inBody, kindAt, hend] at hin
      refine ⟨name, behindMember (t :: us), hmember, fun hlt b hb => ?_, fun hclose =>
        behindMember_length_lt hend hclose⟩
      rw [behindMember_closing hb] at hlt
      omega
  · rw [interfaceType_cons hword hbrace hts, interfaceBody_blocked hts ht]

/-- A text with an interface body that a parenthesis blocks. -/
def blockedSource : String := "package p\n\ntype I interface \x7b\n\t)\n\x7d\n"

/-- The tokens from the interface body on. -/
def blockedBody : List Token :=
  [⟨.closing .paren, ")", ⟨4, 2⟩⟩, ⟨.mark .semicolon, Token.lineEnd, ⟨4, 3⟩⟩, ⟨.closing .brace, "\x7d", ⟨5, 1⟩⟩,
    ⟨.mark .semicolon, Token.lineEnd, ⟨5, 2⟩⟩, ⟨.endOfFile, "", ⟨6, 1⟩⟩]

/-- A parenthesis blocks a body, whatever stands in front of it. -/
theorem progress_blockedBody : Ended blockedBody ∧
    ∀ rounds, ∃ p, repeatFor inBody member rounds blockedBody = .error ⟨.stalled, p⟩ := by
  have hended : Ended blockedBody := ⟨_, rfl, rfl⟩
  exact ⟨hended, (progress hended).bodies.2 ⟨_, rfl, by decide⟩⟩

/-- Not every round takes a token, and not every file is read to its end. -/
theorem member_blockedBody : ∃ ts, Token.scan blockedSource = .ok ts ∧ Ended ts ∧ blockedBody <:+ ts ∧
    inBody (kindAt blockedBody 0) ∧
    member blockedBody = .ok (none, blockedBody) ∧
      (∀ rounds, ∃ p, repeatFor inBody member rounds blockedBody = .error ⟨.stalled, p⟩) ∧
    ofTokens ts = .error ⟨.stalled, ⟨4, 2⟩⟩ := by
  have hscan : Token.scan blockedSource =
    .ok (⟨.keyword .package, "package", ⟨1, 1⟩⟩ :: ⟨.identifier, "p", ⟨1, 9⟩⟩ ::
      ⟨.mark .semicolon, Token.lineEnd, ⟨1, 10⟩⟩ :: ⟨.keyword .type, "type", ⟨3, 1⟩⟩ ::
        ⟨.identifier, "I", ⟨3, 6⟩⟩ ::
      ⟨.keyword .interface, "interface", ⟨3, 8⟩⟩ :: ⟨.opening .brace, "\x7b", ⟨3, 18⟩⟩ :: blockedBody) := by
    decide +kernel
  refine ⟨_, hscan, ⟨_, rfl, rfl⟩, List.suffix_append [_, _, _, _, _, _, _] _, by decide, by decide, ?_, rfl⟩
  exact fun rounds => repeatFor_blocked ⟨rfl, by decide⟩ rounds

end SourceFile

end GoFixtures.Go
