import GoFixtures.Proofs.Go.Declarations

/-!
# Spelled types are read back

Where something of a type is not kept, its spelling has dots, and these always stand in brackets. The reader
of types passes over what is in such brackets, so a spelling is a way to write the type (`TypeExpr.Written`).
Of a struct and of methods nothing but dots is spelled; all other types are told by their spelling.

* `TypeExpr.Spellable`: the types that are told by their spelling.
* `TypeExpr.IsText`: texts that are ways to write a type, put together shape by shape.
* `SourceFile.parse_spell`: a declaration with a spelled type is read back, and no two types are spelled
  alike.
-/

namespace GoFixtures.Go

open Layout TokenReader

namespace TypeExpr

/-- The types that are told by their spelling: no structs, no methods, and names that are names. -/
inductive Spellable : TypeExpr → Prop
  | name {n : String} (h : Token.IsIdentifier n) : Spellable (name n)
  | qualified {p n : String} (hp : Token.IsIdentifier p) (hn : Token.IsIdentifier n) : Spellable (qualified p n)
  | pointer {e : TypeExpr} (h : Spellable e) : Spellable (pointer e)
  | slice {e : TypeExpr} (h : Spellable e) : Spellable (slice e)
  | array {e : TypeExpr} (h : Spellable e) : Spellable (array e)
  | map {k v : TypeExpr} (hk : Spellable k) (hv : Spellable v) : Spellable (map k v)
  | chan {e : TypeExpr} (h : Spellable e) : Spellable (chan e)
  | func : Spellable func
  | generic {b : TypeExpr} (h : IsTypeName b) : Spellable (generic b)
  | interface : Spellable (interface [])

/-- The sign of the dots. -/
def dots : Signs := [(.mark .ellipsis, "...")]

/-- The text is a way to write the type in front of everything that no name goes on with: its tokens have the
signs, no type parameters can be taken for it, and it can stand behind a star. -/
structure IsText (t : TypeExpr) (text : String) (signs : Signs) : Prop where
  written : Written t signs
  opens : SourceFile.OpensType signs
  star : ∀ s, Item.wellSpaced [.op "*"] (text.toList ++ s).head?
  scans : ∀ s e, EndsWord s → Scans (text.toList ++ s) e signs s true

namespace IsText

variable {t e k v : TypeExpr} {text text' : String} {signs signs' : Signs}

theorem typeName (h : IsTypeName t) : IsText t t.render t.signs where
  written := .typeName h
  opens := by
    obtain ⟨n, rest, hrest⟩ := h.exists_signs
    rw [hrest]
    exact .other ⟨rfl, by decide⟩ (by decide)
  star s := wellSpaced_typeName h (by decide)
  scans s e hs := scans_typeName h hs

theorem pointer (h : IsText t text signs) : IsText (pointer t) ("*" ++ text) ((.mark .star, "*") :: signs) where
  written := .pointer h.written
  opens := .other ⟨rfl, by decide⟩ (by decide)
  star s := by rw [String.toList_append]; rfl
  scans s e hs := by
    rw [String.toList_append, List.append_assoc]
    exact (scans_fixed [.op "*"] (by decide) (h.star s)).trans (h.scans s _ hs)

theorem slice (h : IsText t text signs) : IsText (slice t) ("[]" ++ text) (Signs.inside .square [] ++ signs) where
  written := .slice h.written
  opens := .square (by decide)
  star s := by rw [String.toList_append]; rfl
  scans s e hs := by
    rw [String.toList_append, List.append_assoc]
    exact (scans_bracket [.op "[", .op "]"] (by decide) rfl).trans (h.scans s _ hs)

theorem array (h : IsText t text signs) : IsText (array t) ("[...]" ++ text) (dots.inside .square ++ signs) where
  written := .array rfl (List.cons_ne_nil _ _) h.written
  opens := .square (by decide)
  star s := by rw [String.toList_append]; rfl
  scans s e hs := by
    rw [String.toList_append, List.append_assoc]
    exact (scans_bracket [.op "[", .op "...", .op "]"] (by decide) (by decide)).trans (h.scans s _ hs)

theorem map (hk : IsText k text signs) (hv : IsText v text' signs') :
    IsText (map k v) ("map[" ++ text ++ "]" ++ text')
      ((.keyword .map, "map") :: (signs.inside .square ++ signs')) where
  written := .map hk.written hv.written
  opens := .other ⟨rfl, by decide⟩ (by decide)
  star s := by rw [String.toList_append, String.toList_append, String.toList_append]; rfl
  scans s e hs := scans_map hk.scans (hv.scans s true hs)

theorem chan (h : IsText t text signs) :
    IsText (chan t) ("chan " ++ text) ((.keyword .chan, "chan") :: signs) where
  written := .chan h.written
  opens := .other ⟨rfl, by decide⟩ (by decide)
  star s := by rw [String.toList_append]; rfl
  scans s e hs := by
    rw [String.toList_append, List.append_assoc]
    exact (scans_fixed [.word "chan", .space] (by decide) rfl).trans (h.scans s _ hs)

theorem func : IsText func "func(...)" ((.keyword .func, "func") :: dots.inside .paren) where
  written := .func rfl
  opens := .other ⟨rfl, by decide⟩ (by decide)
  star s := rfl
  scans s e _ := scans_bracket [.word "func", .op "(", .op "...", .op ")"] (by decide) (by decide)

theorem generic (h : IsTypeName t) :
    IsText (generic t) (t.render ++ "[...]") (t.signs ++ dots.inside .square) where
  written := .generic h rfl
  opens := by
    obtain ⟨n, rest, hrest⟩ := h.exists_signs
    rw [hrest]
    exact .other ⟨rfl, by decide⟩ (by decide)
  star s := by
    rw [String.toList_append, List.append_assoc]
    exact wellSpaced_typeName h (by decide)
  scans s e hs := by
    have hend : EndsWord ("[...]".toList ++ s) := rfl
    rw [String.toList_append, List.append_assoc]
    exact (scans_typeName h hend).trans (scans_bracket [.op "[", .op "...", .op "]"] (by decide) (by decide))

theorem interface :
    IsText (interface []) "interface\x7b...\x7d" ((.keyword .interface, "interface") :: dots.inside .brace) where
  written := .dots
  opens := .other ⟨rfl, by decide⟩ (by decide)
  star s := rfl
  scans s e _ := scans_bracket [.word "interface", .op "\x7b", .op "...", .op "\x7d"] (by decide) (by decide)

end IsText

theorem IsTypeName.spell_eq {t : TypeExpr} (h : IsTypeName t) : t.spell = t.render := by
  cases h <;> rfl

/-- **A spelling is a way to write the type.** -/
theorem exists_isText_spell {t : TypeExpr} (h : Spellable t) : ∃ signs, IsText t t.spell signs := by
  induction h with
  | name h => exact ⟨_, .typeName (.name h)⟩
  | qualified hp hn => exact ⟨_, .typeName (.qualified hp hn)⟩
  | pointer _ ih =>
    obtain ⟨signs, hsigns⟩ := ih
    exact ⟨_, hsigns.pointer⟩
  | slice _ ih =>
    obtain ⟨signs, hsigns⟩ := ih
    exact ⟨_, hsigns.slice⟩
  | array _ ih =>
    obtain ⟨signs, hsigns⟩ := ih
    exact ⟨_, hsigns.array⟩
  | map _ _ ihk ihv =>
    obtain ⟨key, hkey⟩ := ihk
    obtain ⟨value, hvalue⟩ := ihv
    exact ⟨_, hkey.map hvalue⟩
  | chan _ ih =>
    obtain ⟨signs, hsigns⟩ := ih
    exact ⟨_, hsigns.chan⟩
  | func => exact ⟨_, .func⟩
  | generic h =>
    rw [spell, h.spell_eq]
    exact ⟨_, .generic h⟩
  | interface => exact ⟨_, .interface⟩

end TypeExpr

namespace SourceFile

open TypeExpr

variable {p n : String} {t u : TypeExpr}

/-- A file that declares one type. -/
def declaring (p n type : String) : String := "package " ++ p ++ "\n" ++ "type " ++ n ++ " " ++ type

theorem scans_declaring {type : String} {signs : Signs} (hp : IsName p) (hn : IsName n)
    (h : IsText t type signs) :
    Scans (declaring p n type).toList false ([(.keyword .package, "package"), (.identifier, p), Token.lineSign,
      (.keyword .type, "type"), (.identifier, n)] ++ signs) [] true := by
  have hpackage (s : List Char) : Scans ("package ".toList ++ s) false [(.keyword .package, "package")] s false :=
    scans_fixed [.word "package", .space] (by decide) rfl
  have hend (s : List Char) : EndsWord ("\n".toList ++ s) := rfl
  have hword (s : List Char) : Scans ("type ".toList ++ s) false [(.keyword .type, "type")] s false :=
    scans_fixed [.word "type", .space] (by decide) rfl
  have hspace (s : List Char) : Scans (" ".toList ++ s) true [] s true := Scans.blank (by decide)
  have hend' (s : List Char) : EndsWord (" ".toList ++ s) := rfl
  have hclause (s : List Char) := (hpackage _).trans ((scans_name hp (hend s)).trans (Scans.lineEnd s true))
  have htype := (scans_name (e := false) hn (hend' _)).trans ((hspace _).trans (h.scans [] true rfl))
  have hfile := (hclause _).trans ((hword _).trans htype)
  simpa [declaring, String.toList_append] using hfile

/-- The only declaration of a type. -/
theorem eq_of_withoutLines {s : TypeSpec} {a : Addition}
    (h : a.withoutLines = (Addition.types [s]).withoutLines) :
    ∃ line, a = .types [{ s with line := line }] := by
  cases a with
  | types specs =>
    obtain ⟨b, rfl, hb⟩ := List.map_eq_singleton_iff.1 (Addition.types.inj h)
    obtain ⟨name, type, line, isGeneric, isAlias⟩ := b
    refine ⟨line, ?_⟩
    simp only [TypeSpec.withoutLine, TypeSpec.mk.injEq] at hb
    simp [hb]
  | consts => cases h
  | nothing => cases h

/-- The tokens of a file that declares one type. -/
theorem ofTokens_singleType {s : TypeSpec} {signs : Signs} {ts : List Token} (ht : Written s.type signs)
    (hs : OpensType signs)
    (hts : ts.map Token.sign =
      fileSigns p [] ((.keyword .type, "type") :: (specSigns s signs ++ [Token.lineSign])) ++
        [(.endOfFile, "")]) :
    ∃ line, ofTokens ts = .ok ⟨p, [{ s with line := line }], []⟩ := by
  have hdecl :
    ∀ s' ∈ [s], Takes declaration ((.keyword .type, "type") :: (specSigns s' signs ++ [Token.lineSign]))
      (· ≠ .mark .semicolon) (fun a => a.withoutLines = (Addition.types [s']).withoutLines) := by
    intro s' hs'
    obtain rfl := List.mem_singleton.1 hs'
    exact takes_singleType ht hs
  have hstarts : ∀ s' ∈ [s], ∃ k v rest, (.keyword .type, "type") :: (specSigns s' signs ++ [Token.lineSign]) =
    (k, v) :: rest ∧
      StartsDeclaration k :=
    fun s' _ => ⟨_, _, _, rfl, by simp [StartsDeclaration]⟩
  rw [← List.flatMap_singleton (fun s' =>
    (.keyword .type, "type") :: (specSigns s' signs ++ [Token.lineSign]))] at hts
  obtain ⟨as, has, hfile⟩ := ofTokens_of_signs hdecl hstarts hts
  obtain ⟨a, as, ha, hnil, rfl⟩ := List.forall₂_cons_left_iff.1 has
  obtain rfl := List.forall₂_nil_left_iff.1 hnil
  obtain ⟨line, rfl⟩ := eq_of_withoutLines ha
  exact ⟨line, hfile⟩

theorem parse_declaring (hp : IsName p) (hn : IsName n) {type : String} {signs : Signs}
    (h : IsText t type signs) :
    ∃ line, SourceFile.parse (declaring p n type) = .ok ⟨p, [⟨n, t, line, false, false⟩], []⟩ := by
  obtain ⟨ts, hts, hsigns⟩ := (scans_declaring hp hn h).finish .start
  have hfile : ts.map Token.sign = fileSigns p [] ((.keyword .type, "type") ::
      (specSigns ⟨n, t, 0, false, false⟩ signs ++ [Token.lineSign])) ++ [(.endOfFile, "")] := by
    rw [hsigns]
    simp [fileSigns, specSigns]
  obtain ⟨line, hfile⟩ := ofTokens_singleType (s := ⟨n, t, 0, false, false⟩) h.written h.opens hfile
  refine ⟨line, ?_⟩
  rw [SourceFile.parse, Token.scan, hts]
  simp only [hfile]

/-- **A spelled type is read back** from a declaration of a type with that spelling, and only that type is
spelled so. -/
theorem parse_spell (hp : Token.IsIdentifier p) (hn : Token.IsIdentifier n) (ht : t.Spellable) :
    (∃ line, SourceFile.parse ("package " ++ p ++ "\n" ++ "type " ++ n ++ " " ++ t.spell) =
      .ok ⟨p, [⟨n, t, line, false, false⟩], []⟩) ∧
    ∀ u : TypeExpr, u.Spellable → u.spell = t.spell → u = t := by
  have hparse {u : TypeExpr} (hu : u.Spellable) : ∃ line,
      SourceFile.parse (declaring p n u.spell) = .ok ⟨p, [⟨n, u, line, false, false⟩], []⟩ := by
    obtain ⟨signs, hsigns⟩ := exists_isText_spell hu
    exact parse_declaring (Token.isIdentifier_iff.1 hp) (Token.isIdentifier_iff.1 hn) hsigns
  refine ⟨hparse ht, fun u hu heq => ?_⟩
  obtain ⟨line, hline⟩ := hparse ht
  obtain ⟨line', hline'⟩ := hparse hu
  rw [heq, hline] at hline'
  have hfile := Except.ok.inj hline'
  simp only [SourceFile.mk.injEq, List.cons.injEq, TypeSpec.mk.injEq] at hfile
  exact hfile.2.1.1.2.1.symm

/-- A map from channels to arrays, with a generic type, a function and an interface in it. -/
def ferryType : TypeExpr :=
  .map (.chan (.pointer (.generic (.qualified "zoo" "Pen")))) (.array (.slice (.map .func (.interface []))))

/-- Its spelling. -/
example : ferryType.spell = "map[chan *zoo.Pen[...]][...][]map[func(...)]interface\x7b...\x7d" := by
  decide +kernel

theorem spellable_ferryType : ferryType.Spellable := by
  have hzoo : Token.IsIdentifier "zoo" := Token.isIdentifier_iff.2 (by decide)
  have hpen : Token.IsIdentifier "Pen" := Token.isIdentifier_iff.2 (by decide)
  exact .map (.chan (.pointer (.generic (.qualified hzoo hpen)))) (.array (.slice (.map .func .interface)))

theorem parse_spell_ferryType : Token.IsIdentifier "p" ∧ Token.IsIdentifier "T" ∧ ferryType.Spellable ∧
    (∃ line, SourceFile.parse ("package " ++ "p" ++ "\n" ++ "type " ++ "T" ++ " " ++ ferryType.spell) =
      .ok ⟨"p", [⟨"T", ferryType, line, false, false⟩], []⟩) ∧
    ∀ u : TypeExpr, u.Spellable → u.spell = ferryType.spell → u = ferryType := by
  have hp : Token.IsIdentifier "p" := Token.isIdentifier_iff.2 (by decide)
  have hn : Token.IsIdentifier "T" := Token.isIdentifier_iff.2 (by decide)
  exact ⟨hp, hn, spellable_ferryType, parse_spell hp hn spellable_ferryType⟩

end SourceFile

end GoFixtures.Go
