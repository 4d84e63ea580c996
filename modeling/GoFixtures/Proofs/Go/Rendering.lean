import GoFixtures.Proofs.Go.Pieces

/-!
# Declarations as text

The declarations of a file can be written down: the package clause, the types, each by itself or in groups,
and the groups of constants. What is not kept of a declaration is written in one way: the length of an array
is `0`, a type argument is `int`, a type parameter is `T any`, a value is `0`, and functions have no
parameters. Fields, methods and constants stand on lines of their own.

* `SourceFile.render`: the text of a file.
* `SourceFile.Renderable`: the files that can be written so.
* `TypeExpr.scans_render`, `SourceFile.scans_render`: the tokens of what is written.
-/

namespace GoFixtures.Go

open Layout TokenReader

/-! ### Texts -/

/-- A tag between back quotes, if there is one. -/
def tagText : Option String → String
  | none => ""
  | some tag => " \x60" ++ tag ++ "\x60"

namespace TypeExpr

mutual

/-- A type expression as text. -/
def render : TypeExpr → String
  | name n => n
  | qualified p n => p ++ "." ++ n
  | pointer e => "*" ++ render e
  | slice e => "[]" ++ render e
  | array e => "[0]" ++ render e
  | map k v => "map[" ++ render k ++ "]" ++ render v
  | chan e => "chan " ++ render e
  | func => "func()"
  | generic b => render b ++ "[int]"
  | struct fields => "struct \x7b\n" ++ renderLines fields ++ "\x7d"
  | interface methods => "interface \x7b\n" ++ String.join (methods.map (· ++ "()\n")) ++ "\x7d"

/-- The lines of a struct body. -/
def renderLines : List (FieldDecl TypeExpr) → String
  | [] => ""
  | f :: fs => renderField f ++ "\n" ++ renderLines fs

/-- The line of a field: names, if it is not embedded, the type, and the tag. -/
def renderField : FieldDecl TypeExpr → String
  | ⟨[], type, tag⟩ => render type ++ tagText tag
  | ⟨n :: ns, type, tag⟩ => ", ".intercalate (n :: ns) ++ " " ++ render type ++ tagText tag

end

end TypeExpr

/-- The line of a type declaration. -/
def TypeSpec.render (s : TypeSpec) : String :=
  s.name ++ (if s.isGeneric then "[T any]" else "") ++ (if s.isAlias then " = " else " ") ++ s.type.render ++ "\n"

/-- The line of a constant declaration. -/
def ConstSpec.render (c : ConstSpec) : String :=
  ", ".intercalate c.names ++ (match c.type with | some t => " " ++ t.render | none => "")
    ++ (if c.hasValues then " = 0" else "") ++ "\n"

/-- A type declaration: one type by itself, or any number of them in parentheses. -/
inductive TypeDecl
  | single (spec : TypeSpec)
  | block (specs : List TypeSpec)

namespace TypeDecl

/-- The types that are declared. -/
def specs : TypeDecl → List TypeSpec
  | single spec => [spec]
  | block specs => specs

/-- The declaration as text. -/
def render : TypeDecl → String
  | single spec => "type " ++ spec.render
  | block specs => "type (\n" ++ String.join (specs.map TypeSpec.render) ++ ")\n"

end TypeDecl

/-- A group of constants as text. -/
def renderConsts (group : List ConstSpec) : String :=
  "const (\n" ++ String.join (group.map ConstSpec.render) ++ ")\n"

/-- A file as text, with its types in the given declarations. -/
def SourceFile.render (decls : List TypeDecl) (f : SourceFile) : String :=
  "package " ++ f.package ++ "\n" ++ String.join (decls.map TypeDecl.render) ++
    String.join (f.constGroups.map renderConsts)

/-! ### What can be written -/

namespace TypeExpr

/-- A name, qualified or not. -/
inductive IsTypeName : TypeExpr → Prop
  | name {n : String} (h : Token.IsIdentifier n) : IsTypeName (name n)
  | qualified {p n : String} (hp : Token.IsIdentifier p) (hn : Token.IsIdentifier n) : IsTypeName (qualified p n)

/-- A name with type arguments or without. -/
inductive IsNamed : TypeExpr → Prop
  | typeName {t : TypeExpr} (h : IsTypeName t) : IsNamed t
  | generic {b : TypeExpr} (h : IsTypeName b) : IsNamed (generic b)

/-- The types of embedded fields: a name or a pointer to one. -/
inductive IsEmbedded : TypeExpr → Prop
  | named {t : TypeExpr} (h : IsNamed t) : IsEmbedded t
  | pointer {t : TypeExpr} (h : IsNamed t) : IsEmbedded (pointer t)

/-- A field that can be written, if its type can: its names are names, a field without names is embedded, and
its tag can stand between back quotes. -/
structure FieldOK (f : FieldDecl TypeExpr) : Prop where
  names : ∀ n ∈ f.names, Token.IsIdentifier n
  embedded : f.names = [] → IsEmbedded f.type
  tag : ∀ tag ∈ f.tag, '\x60' ∉ tag.toList

/-- The type expressions that can be written. -/
inductive Renderable : TypeExpr → Prop
  | name {n : String} (h : Token.IsIdentifier n) : Renderable (name n)
  | qualified {p n : String} (hp : Token.IsIdentifier p) (hn : Token.IsIdentifier n) : Renderable (qualified p n)
  | pointer {e : TypeExpr} (h : Renderable e) : Renderable (pointer e)
  | slice {e : TypeExpr} (h : Renderable e) : Renderable (slice e)
  | array {e : TypeExpr} (h : Renderable e) : Renderable (array e)
  | map {k v : TypeExpr} (hk : Renderable k) (hv : Renderable v) : Renderable (map k v)
  | chan {e : TypeExpr} (h : Renderable e) : Renderable (chan e)
  | func : Renderable func
  | generic {b : TypeExpr} (h : IsTypeName b) : Renderable (generic b)
  | struct {fields : List (FieldDecl TypeExpr)} (hfields : ∀ f ∈ fields, FieldOK f)
      (htypes : ∀ f ∈ fields, Renderable f.type) :
      Renderable (struct fields)
  | interface {methods : List String} (h : ∀ m ∈ methods, Token.IsIdentifier m) : Renderable (interface methods)

end TypeExpr

/-- The files that can be written: all names are names, all types can be written, and no line of constants is
without a name. -/
structure SourceFile.Renderable (f : SourceFile) : Prop where
  package : Token.IsIdentifier f.package
  types : ∀ s ∈ f.types, Token.IsIdentifier s.name ∧ s.type.Renderable
  consts : ∀ group ∈ f.constGroups, ∀ c ∈ group,
    c.names ≠ [] ∧ (∀ n ∈ c.names, Token.IsIdentifier n) ∧ ∀ t ∈ c.type, t.Renderable

/-! ### Signs -/

/-- The signs of names with commas between them. -/
def nameSigns : List String → Signs
  | [] => []
  | n :: ns => (.identifier, n) :: ns.flatMap fun n => [(.mark .comma, ","), (.identifier, n)]

/-- The sign of a tag, if there is one. -/
def tagSigns : Option String → Signs
  | none => []
  | some tag => [(.string, tag)]

namespace TypeExpr

/-- The signs of a line that declares a method. -/
def methodSigns (name : String) : Signs := (.identifier, name) :: (Signs.inside .paren [] ++ [Token.lineSign])

mutual

/-- The signs of a type expression. -/
def signs : TypeExpr → Signs
  | name n => [(.identifier, n)]
  | qualified p n => [(.identifier, p), (.mark .dot, "."), (.identifier, n)]
  | pointer e => (.mark .star, "*") :: signs e
  | slice e => Signs.inside .square [] ++ signs e
  | array e => Signs.inside .square [(.integer, "0")] ++ signs e
  | map k v => (.keyword .map, "map") :: (Signs.inside .square (signs k) ++ signs v)
  | chan e => (.keyword .chan, "chan") :: signs e
  | func => (.keyword .func, "func") :: Signs.inside .paren []
  | generic b => signs b ++ Signs.inside .square [(.identifier, "int")]
  | struct fields => (.keyword .struct, "struct") :: Signs.inside .brace (linesSigns fields)
  | interface methods => (.keyword .interface, "interface") :: Signs.inside .brace (methods.flatMap methodSigns)

/-- The signs of the lines of a struct body. -/
def linesSigns : List (FieldDecl TypeExpr) → Signs
  | [] => []
  | f :: fs => fieldSigns f ++ Token.lineSign :: linesSigns fs

/-- The signs of a field. -/
def fieldSigns : FieldDecl TypeExpr → Signs
  | ⟨names, type, tag⟩ => nameSigns names ++ (signs type ++ tagSigns tag)

end

theorem linesSigns_eq (fields : List (FieldDecl TypeExpr)) :
    linesSigns fields = fields.flatMap fun f => fieldSigns f ++ [Token.lineSign] := by
  induction fields with
  | nil => rfl
  | cons f fields ih => rw [linesSigns, ih, List.flatMap_cons, List.append_assoc, List.singleton_append]

end TypeExpr

/-- The signs of a type declaration. -/
def TypeSpec.signs (s : TypeSpec) : Signs :=
  (.identifier, s.name) ::
    ((if s.isGeneric then Signs.inside .square [(.identifier, "T"), (.identifier, "any")] else [])
    ++ ((if s.isAlias then [(.mark .assign, "=")] else []) ++ s.type.signs))

/-- The signs of a constant declaration. -/
def ConstSpec.signs (c : ConstSpec) : Signs :=
  nameSigns c.names ++ ((match c.type with | some t => t.signs | none => [])
    ++ if c.hasValues then [(.mark .assign, "="), (.integer, "0")] else [])

/-- The signs of declarations in parentheses, each on a line of its own. -/
def blockSigns {ι : Type} (signs : ι → Signs) (items : List ι) : Signs :=
  Signs.inside .paren (items.flatMap fun i => signs i ++ [Token.lineSign])

/-- The signs of a declaration of types. -/
def TypeDecl.signs : TypeDecl → Signs
  | single spec => (.keyword .type, "type") :: spec.signs
  | block specs => (.keyword .type, "type") :: blockSigns TypeSpec.signs specs

/-- The signs of a group of constants. -/
def constsSigns (group : List ConstSpec) : Signs := (.keyword .const, "const") :: blockSigns ConstSpec.signs group

/-! ### The tokens of types -/

variable {s : List Char} {e : Bool}

/-- Texts one after the other. -/
theorem scans_join {ι : Type} {items : List ι} {text : ι → String} {signs : ι → Signs}
    (h : ∀ i ∈ items, ∀ s, Scans ((text i).toList ++ s) false (signs i) s false) :
    Scans ((String.join (items.map text)).toList ++ s) false (items.flatMap signs) s false := by
  induction items with
  | nil => exact .refl s false
  | cons i items ih =>
    rw [List.forall_mem_cons] at h
    rw [List.map_cons, String.join_cons, List.flatMap_cons, String.toList_append, List.append_assoc]
    exact (h.1 _).trans (ih h.2)

theorem scans_names {names : List String} (hne : names ≠ []) (h : ∀ n ∈ names, IsName n) (hs : EndsWord s) :
    Scans ((", ".intercalate names).toList ++ s) e (nameSigns names) s true := by
  induction names generalizing e with
  | nil => exact absurd rfl hne
  | cons n names ih =>
    rw [List.forall_mem_cons] at h
    cases names with
    | nil =>
      rw [String.intercalate_singleton]
      exact scans_name h.1 hs
    | cons m names =>
      -- a comma and a space before the next name
      have hcomma (t : List Char) : Scans (", ".toList ++ t) true [(.mark .comma, ",")] t false :=
        scans_fixed [.op ",", .space] (by decide) rfl
      have hend (t : List Char) : EndsWord (", ".toList ++ t) := rfl
      rw [String.intercalate_cons_cons, String.toList_append, String.toList_append, List.append_assoc,
        List.append_assoc]
      exact (scans_name h.1 (hend _)).trans ((hcomma _).trans (ih (List.cons_ne_nil _ _) h.2))

/-- A tag that can stand between back quotes. -/
theorem scans_tag {tag : Option String} (h : ∀ t ∈ tag, '\x60' ∉ t.toList) :
    Scans ((tagText tag).toList ++ '\n' :: s) true (tagSigns tag) ('\n' :: s) true := by
  cases tag with
  | none => exact .refl _ _
  | some tag =>
    have htext : (tagText (some tag)).toList =
        [Item.space, .lexeme (.rawString tag.toList)].flatMap Item.text := by
      simp [tagText, Item.text, Lexeme.text, String.toList_append, Item.space]
    have hw : Item.wellSpaced [.space, .lexeme (.rawString tag.toList)] (some '\n') := by
      have hbody : '\x60' ∉ tag.toList := h tag rfl
      simpa [Item.wellSpaced, Item.space, Gap.isBlank, Lexeme.isValid, Lexeme.stops] using hbody
    have hscan := scans_fixed (e := true) (s := '\n' :: s) _ htext hw
    simpa [Item.signs, Item.space, Item.endsAfter, Lexeme.kind, Lexeme.value, tagSigns, Token.Kind.endsLine]
      using hscan

theorem endsWord_tag {tag : Option String} : EndsWord ((tagText tag).toList ++ '\n' :: s) := by
  cases tag with
  | none => rfl
  | some tag => simp [EndsWord, tagText, String.toList_append]; decide

namespace TypeExpr

theorem wellSpaced_typeName {t : TypeExpr} (h : IsTypeName t) {items : List Item}
    (hw : Item.wellSpaced items (some 'a')) :
    Item.wellSpaced items (t.render.toList ++ s).head? := by
  cases h with
  | name h => exact wellSpaced_name (Token.isIdentifier_iff.1 h) hw
  | qualified hp hn =>
    rw [render, String.toList_append, String.toList_append, List.append_assoc, List.append_assoc]
    exact wellSpaced_name (Token.isIdentifier_iff.1 hp) hw

/-- The characters that types begin with, one letter for all letters that names begin with. -/
def starts : List Char := ['a', 'm', 'c', 'f', 's', 'i', '*', '[']

/-- What can stand before such a character can stand before a type. -/
theorem wellSpaced_render {t : TypeExpr} (h : Renderable t) {items : List Item}
    (hw : starts.all fun c => Item.wellSpaced items (some c)) :
    Item.wellSpaced items (t.render.toList ++ s).head? := by
  simp only [starts, List.all_cons, List.all_nil, Bool.and_true, Bool.and_eq_true] at hw
  obtain ⟨ha, hm, hc, hf, hs, hi, hstar, hsquare⟩ := hw
  cases h with
  | name h => exact wellSpaced_typeName (.name h) ha
  | qualified hp hn => exact wellSpaced_typeName (.qualified hp hn) ha
  | pointer => rw [render, String.toList_append]; exact hstar
  | slice => rw [render, String.toList_append]; exact hsquare
  | array => rw [render, String.toList_append]; exact hsquare
  | map => rw [render, String.toList_append, String.toList_append, String.toList_append]; exact hm
  | chan => rw [render, String.toList_append]; exact hc
  | func => exact hf
  | generic h =>
    rw [render, String.toList_append, List.append_assoc]
    exact wellSpaced_typeName h ha
  | struct => rw [render, String.toList_append, String.toList_append]; exact hs
  | interface => rw [render, String.toList_append, String.toList_append]; exact hi

theorem scans_typeName {t : TypeExpr} (h : IsTypeName t) (hs : EndsWord s) :
    Scans (t.render.toList ++ s) e t.signs s true := by
  cases h with
  | name h => exact scans_name (Token.isIdentifier_iff.1 h) hs
  | qualified hp hn =>
    rename_i p n
    have hp := Token.isIdentifier_iff.1 hp
    have hn := Token.isIdentifier_iff.1 hn
    have hdot : Scans (".".toList ++ (n.toList ++ s)) true [(.mark .dot, ".")] (n.toList ++ s) false :=
      scans_fixed [.op "."] (by decide) (wellSpaced_name hn (by decide))
    have hend : EndsWord (".".toList ++ (n.toList ++ s)) := rfl
    rw [render, String.toList_append, String.toList_append, List.append_assoc, List.append_assoc]
    exact (scans_name hp hend).trans (hdot.trans (scans_name hn hs))

/-- The line of a method. -/
theorem scans_method {m : String} (h : Token.IsIdentifier m) :
    Scans ((m ++ "()\n").toList ++ s) false (methodSigns m) s false := by
  have hend : EndsWord ("()\n".toList ++ s) := rfl
  rw [String.toList_append, List.append_assoc]
  exact (scans_name (Token.isIdentifier_iff.1 h) hend).trans
    (scans_fixed [.op "(", .op ")", .lineEnd] (by decide) rfl)

/-- A field, if its type is written well. -/
theorem scans_field {f : FieldDecl TypeExpr} (hf : FieldOK f)
    (ht : ∀ s e, EndsWord s → Scans (f.type.render.toList ++ s) e f.type.signs s true) :
    Scans ((renderField f).toList ++ '\n' :: s) e (fieldSigns f) ('\n' :: s) true := by
  match f with
  | ⟨[], type, tag⟩ =>
    rw [renderField, String.toList_append, List.append_assoc]
    exact (ht _ e endsWord_tag).trans (scans_tag hf.tag)
  | ⟨n :: ns, type, tag⟩ =>
    have hnames : ∀ m ∈ n :: ns, IsName m := fun m hm => Token.isIdentifier_iff.1 (hf.names m hm)
    have hspace (t : List Char) : Scans (" ".toList ++ t) true [] t true := Scans.blank (by decide)
    have hend (t : List Char) : EndsWord (" ".toList ++ t) := rfl
    rw [renderField]
    simp only [String.toList_append, List.append_assoc]
    refine (scans_names (List.cons_ne_nil _ _) hnames (hend _)).trans ?_
    refine (hspace _).trans ((ht _ true endsWord_tag).trans (scans_tag hf.tag))

theorem scans_lines {fields : List (FieldDecl TypeExpr)} (hfields : ∀ f ∈ fields, FieldOK f)
    (ht : ∀ f ∈ fields, ∀ s e, EndsWord s → Scans (f.type.render.toList ++ s) e f.type.signs s true) :
    Scans ((renderLines fields).toList ++ s) false (linesSigns fields) s false := by
  induction fields with
  | nil => exact .refl s false
  | cons f fields ih =>
    rw [List.forall_mem_cons] at hfields ht
    have hline := (scans_field (s := (renderLines fields).toList ++ s) (e := false) hfields.1 ht.1).trans
      (Scans.lineEnd _ true)
    have hlines := hline.trans (ih hfields.2 ht.2)
    rw [renderLines, linesSigns]
    simpa [String.toList_append] using hlines

/-- A map, if its key and its values are written well. -/
theorem scans_map {key value : String} {keySigns valueSigns : Signs}
    (hk : ∀ s e, EndsWord s → Scans (key.toList ++ s) e keySigns s true)
    (hv : Scans (value.toList ++ s) true valueSigns s true) :
    Scans (("map[" ++ key ++ "]" ++ value).toList ++ s) e
      ((.keyword .map, "map") :: (keySigns.inside .square ++ valueSigns)) s true := by
  have hopen (t : List Char) :
      Scans ("map[".toList ++ t) e [(.keyword .map, "map"), (.opening .square, "[")] t false :=
    scans_bracket [.word "map", .op "["] (by decide) rfl
  have hclose (t : List Char) : Scans ("]".toList ++ t) true [(.closing .square, "]")] t true :=
    scans_bracket [.op "]"] (by decide) rfl
  have hend (t : List Char) : EndsWord ("]".toList ++ t) := rfl
  have hmap := (hopen _).trans ((hk _ false (hend (value.toList ++ s))).trans ((hclose _).trans hv))
  simpa [String.toList_append, Signs.inside, Bracket.opening, Bracket.closing] using hmap

/-- **A type** as it is written. -/
theorem scans_render {t : TypeExpr} (h : Renderable t) (hs : EndsWord s) :
    Scans (t.render.toList ++ s) e t.signs s true := by
  induction h generalizing s e with
  | name h => exact scans_typeName (.name h) hs
  | qualified hp hn => exact scans_typeName (.qualified hp hn) hs
  | pointer h ih =>
    rw [render, String.toList_append, List.append_assoc]
    exact (scans_fixed [.op "*"] (by decide) (wellSpaced_render h (by decide))).trans (ih hs)
  | slice h ih =>
    rw [render, String.toList_append, List.append_assoc]
    exact (scans_bracket [.op "[", .op "]"] (by decide) rfl).trans (ih hs)
  | array h ih =>
    rw [render, String.toList_append, List.append_assoc]
    exact (scans_bracket [.op "[", .number "0", .op "]"] (by decide) (by decide)).trans (ih hs)
  | map hk hv ihk ihv =>
    rw [render, signs]
    exact scans_map (fun s e hs => ihk hs) (ihv hs)
  | chan h ih =>
    rw [render, String.toList_append, List.append_assoc]
    exact (scans_fixed [.word "chan", .space] (by decide) rfl).trans (ih hs)
  | func => exact scans_bracket [.word "func", .op "(", .op ")"] (by decide) rfl
  | generic h =>
    have hend : EndsWord ("[int]".toList ++ s) := rfl
    rw [render, String.toList_append, List.append_assoc]
    exact (scans_typeName h hend).trans (scans_bracket [.op "[", .word "int", .op "]"] (by decide) rfl)
  | struct hfields htypes ih =>
    rename_i fields
    have hopen (t : List Char) :
      Scans ("struct \x7b\n".toList ++ t) e [(.keyword .struct, "struct"), (.opening .brace, "\x7b")]
        t false :=
      scans_fixed [.word "struct", .space, .op "\x7b", .lineEnd] (by decide) rfl
    have hclose : Scans ("\x7d".toList ++ s) false [(.closing .brace, "\x7d")] s true :=
      scans_bracket [.op "\x7d"] (by decide) rfl
    have hlines := scans_lines (s := "\x7d".toList ++ s) hfields fun f hf s e hs => ih f hf hs
    rw [render, signs]
    simpa [String.toList_append, Signs.inside, Bracket.opening, Bracket.closing]
      using (hopen _).trans (hlines.trans hclose)
  | interface h =>
    rename_i methods
    have hopen (t : List Char) : Scans ("interface \x7b\n".toList ++ t) e
        [(.keyword .interface, "interface"), (.opening .brace, "\x7b")] t false :=
      scans_fixed [.word "interface", .space, .op "\x7b", .lineEnd] (by decide) rfl
    have hclose : Scans ("\x7d".toList ++ s) false [(.closing .brace, "\x7d")] s true :=
      scans_bracket [.op "\x7d"] (by decide) rfl
    have hmethods := scans_join (s := "\x7d".toList ++ s) fun m hm s => scans_method (s := s) (h m hm)
    rw [render, signs]
    simpa [String.toList_append, Signs.inside, Bracket.opening, Bracket.closing]
      using (hopen _).trans (hmethods.trans hclose)

end TypeExpr

/-! ### The tokens of files -/

theorem TypeSpec.scans_render {spec : TypeSpec} (hn : Token.IsIdentifier spec.name) (ht : spec.type.Renderable) :
    Scans (spec.render.toList ++ s) e (spec.signs ++ [Token.lineSign]) s false := by
  obtain ⟨name, type, line, isGeneric, isAlias⟩ := spec
  have hparams (t : List Char) (he : EndsWord t) : EndsWord ((if isGeneric then "[T any]" else "").toList ++ t) ∧
      Scans ((if isGeneric then "[T any]" else "").toList ++ t) true
        (if isGeneric then Signs.inside .square [(.identifier, "T"), (.identifier, "any")] else []) t true := by
    cases isGeneric with
    | false => exact ⟨he, .refl t true⟩
    | true => exact ⟨rfl, scans_bracket [.op "[", .word "T", .space, .word "any", .op "]"] (by decide) rfl⟩
  have halias (t : List Char) : EndsWord ((if isAlias then " = " else " ").toList ++ t) ∧
      ∃ e', Scans ((if isAlias then " = " else " ").toList ++ t) true
        (if isAlias then [(.mark .assign, "=")] else []) t e' := by
    cases isAlias with
    | false => exact ⟨rfl, _, Scans.blank (by decide)⟩
    | true => exact ⟨rfl, _, scans_fixed [.space, .op "=", .space] (by decide) rfl⟩
  obtain ⟨hend, e', halias⟩ := halias (type.render.toList ++ ("\n".toList ++ s))
  obtain ⟨hend, hparams⟩ := hparams _ hend
  have htype := TypeExpr.scans_render (s := "\n".toList ++ s) (e := e') ht rfl
  have hline := htype.trans (Scans.lineEnd s true)
  have hspec :=
    (scans_name (e := e) (Token.isIdentifier_iff.1 hn) hend).trans (hparams.trans (halias.trans hline))
  rw [TypeSpec.render, TypeSpec.signs]
  simpa [String.toList_append] using hspec

theorem ConstSpec.scans_render {c : ConstSpec} (hne : c.names ≠ []) (hn : ∀ n ∈ c.names, Token.IsIdentifier n)
    (ht : ∀ t ∈ c.type, t.Renderable) : Scans (c.render.toList ++ s) e (c.signs ++ [Token.lineSign]) s false := by
  obtain ⟨names, type, hasValues, line⟩ := c
  have hvalues : EndsWord ((if hasValues then " = 0" else "").toList ++ ("\n".toList ++ s)) ∧
      Scans ((if hasValues then " = 0" else "").toList ++ ("\n".toList ++ s)) true
        (if hasValues then [(.mark .assign, "="), (.integer, "0")] else []) ("\n".toList ++ s) true := by
    cases hasValues with
    | false => exact ⟨rfl, .refl _ true⟩
    | true => exact ⟨rfl, scans_fixed [.space, .op "=", .space, .number "0"] (by decide) rfl⟩
  obtain ⟨hend, hvalues⟩ := hvalues
  have hnames : ∀ n ∈ names, IsName n := fun n hm => Token.isIdentifier_iff.1 (hn n hm)
  have hline := hvalues.trans (Scans.lineEnd s true)
  rw [ConstSpec.render, ConstSpec.signs]
  cases type with
  | none =>
    have hspec := (scans_names (e := e) hne hnames hend).trans hline
    simpa [String.toList_append] using hspec
  | some t =>
    have hspace (u : List Char) : Scans (" ".toList ++ u) true [] u true := Scans.blank (by decide)
    have hend' (u : List Char) : EndsWord (" ".toList ++ u) := rfl
    have htype := TypeExpr.scans_render (e := true) (ht t rfl) hend
    have hspec := (scans_names (e := e) hne hnames (hend' _)).trans ((hspace _).trans (htype.trans hline))
    simpa [String.toList_append] using hspec

/-- Declarations in parentheses. -/
theorem scans_block {ι : Type} {items : List ι} {text : ι → String} {signs : ι → Signs}
    (h : ∀ i ∈ items, ∀ s, Scans ((text i).toList ++ s) false (signs i ++ [Token.lineSign]) s false) :
    Scans ("(\n".toList ++ ((String.join (items.map text)).toList ++ (")\n".toList ++ s))) e
      (blockSigns signs items ++ [Token.lineSign]) s false := by
  have hopen (t : List Char) : Scans ("(\n".toList ++ t) e [(.opening .paren, "(")] t false :=
    scans_fixed [.op "(", .lineEnd] (by decide) rfl
  have hclose : Scans (")\n".toList ++ s) false [(.closing .paren, ")"), Token.lineSign] s false :=
    scans_fixed [.op ")", .lineEnd] (by decide) rfl
  have hblock := (hopen _).trans ((scans_join h).trans hclose)
  simpa [blockSigns, Signs.inside, Bracket.opening, Bracket.closing] using hblock

theorem TypeDecl.scans_render {d : TypeDecl}
    (h : ∀ spec ∈ d.specs, Token.IsIdentifier spec.name ∧ spec.type.Renderable) :
    Scans (d.render.toList ++ s) e (d.signs ++ [Token.lineSign]) s false := by
  have hword (t : List Char) : Scans ("type ".toList ++ t) e [(.keyword .type, "type")] t false :=
    scans_fixed [.word "type", .space] (by decide) rfl
  cases d with
  | single spec =>
    have hspec := h spec List.mem_cons_self
    rw [render, String.toList_append, List.append_assoc]
    exact (hword _).trans (TypeSpec.scans_render hspec.1 hspec.2)
  | block specs =>
    have hlines :
        ∀ spec ∈ specs, ∀ t, Scans (spec.render.toList ++ t) false (spec.signs ++ [Token.lineSign]) t false :=
      fun spec hspec t => TypeSpec.scans_render (h spec hspec).1 (h spec hspec).2
    have hblock := (hword _).trans (scans_block (s := s) hlines)
    rw [render, signs]
    simpa [String.toList_append] using hblock

theorem scans_renderConsts {group : List ConstSpec}
    (h : ∀ c ∈ group, c.names ≠ [] ∧ (∀ n ∈ c.names, Token.IsIdentifier n) ∧ ∀ t ∈ c.type, t.Renderable) :
    Scans ((renderConsts group).toList ++ s) e (constsSigns group ++ [Token.lineSign]) s false := by
  have hword (t : List Char) : Scans ("const ".toList ++ t) e [(.keyword .const, "const")] t false :=
    scans_fixed [.word "const", .space] (by decide) rfl
  have hlines : ∀ c ∈ group, ∀ t, Scans (c.render.toList ++ t) false (c.signs ++ [Token.lineSign]) t false :=
    fun c hc t => ConstSpec.scans_render (h c hc).1 (h c hc).2.1 (h c hc).2.2
  have hblock := (hword _).trans (scans_block (s := s) hlines)
  rw [renderConsts, constsSigns]
  simpa [String.toList_append] using hblock

namespace SourceFile

/-- The signs of declarations on lines of their own, those of types before those of constants. -/
def declSigns (decls : List TypeDecl) (groups : List (List ConstSpec)) : Signs :=
  (decls.flatMap fun d => d.signs ++ [Token.lineSign]) ++ groups.flatMap fun g =>
    constsSigns g ++ [Token.lineSign]

/-- **The tokens of a file** as it is written. -/
theorem scans_render {f : SourceFile} {decls : List TypeDecl} (hf : f.Renderable)
    (hd : decls.flatMap TypeDecl.specs = f.types) :
    Scans (f.render decls).toList false
      ([(.keyword .package, "package"), (.identifier, f.package), Token.lineSign] ++
        declSigns decls f.constGroups) [] false := by
  have htypes : ∀ d ∈ decls, ∀ spec ∈ d.specs, Token.IsIdentifier spec.name ∧ spec.type.Renderable := by
    intro d hdecl spec hspec
    exact hf.types spec (hd ▸ List.mem_flatMap.2 ⟨d, hdecl, hspec⟩)
  have hpackage := Token.isIdentifier_iff.1 hf.package
  have hword (t : List Char) :
    Scans ("package ".toList ++ (f.package.toList ++ t)) false [(.keyword .package, "package")]
      (f.package.toList ++ t) false :=
    scans_fixed [.word "package", .space] (by decide) (wellSpaced_name hpackage (by decide))
  have hdecls (t : List Char) := scans_join (s := t) fun d hdecl s =>
    TypeDecl.scans_render (s := s) (e := false) (htypes d hdecl)
  have hgroups := scans_join (s := []) fun g hg s => scans_renderConsts (s := s) (e := false) (hf.consts g hg)
  have hend (t : List Char) : EndsWord ("\n".toList ++ t) := rfl
  have hfile :=
    (hword _).trans
      ((scans_name hpackage (hend _)).trans ((Scans.lineEnd _ true).trans ((hdecls _).trans hgroups)))
  rw [render, declSigns]
  simpa [String.toList_append] using hfile

end SourceFile

end GoFixtures.Go
