import GoFixtures.Proofs.Catalogue
import GoFixtures.Proofs.Fixture.Functions

/-!
# Fixture files are read back

The fixture file of a model with names is a file of functions: the parser accepts it and finds no declaration
in it.

* `FixtureFile.written_ofModel`: the names, imports and bodies in the file are well written.
* `FixtureFile.scans_render`: so its tokens are those of a package clause, an import declaration, and
  functions.
* `parse_generate`: what is generated for a text is parsed.
-/

namespace GoFixtures

open Go Go.Layout Go.TokenReader Go.SourceFile

variable {o : Options} {s : List Char} {w : String} {e : Bool}

/-! ### Imports -/

/-- A text that can stand for an import, on a line of its own. -/
def IsImport (text : String) : Prop :=
  ∃ i, ∀ s e, Scans (text.toList ++ '\n' :: s) e (importSigns i) ('\n' :: s) true

theorem isImport_standard : ∀ text ∈ ExternalRegistry.standard.types.values.map ExternalType.importSpec,
    IsImport text := by
  have htexts : ExternalRegistry.standard.types.values.map ExternalType.importSpec =
      ["timestamppb \"google.golang.org/protobuf/types/known/timestamppb\"", "\"time\""] := by decide
  rw [htexts, List.forall_mem_cons, List.forall_mem_singleton]
  constructor
  · refine ⟨(some "timestamppb", "google.golang.org/protobuf/types/known/timestamppb"), fun s e => ?_⟩
    exact scans_fixed [.word "timestamppb", .space,
      .lexeme (.string "google.golang.org/protobuf/types/known/timestamppb".toList)] (by decide) rfl
  · exact ⟨(none, "time"), fun s e => scans_fixed [.lexeme (.string "time".toList)] (by decide) rfl⟩

theorem isImport_of_mem_collectImports {m : TypeModel} {text : String} (h : text ∈ collectImports m .standard) :
    IsImport text := by
  -- what is required is the import of an external type as well
  have hrequired : ∀ text ∈ ExternalRegistry.standard.requiredImports,
      text ∈ ExternalRegistry.standard.types.values.map ExternalType.importSpec := by decide
  unfold collectImports at h
  split at h
  · cases h
  · rw [sortedDistinct, List.mem_eraseDups, List.mem_mergeSort] at h
    rcases List.mem_append.1 h with h | h
    · exact isImport_standard text (hrequired text h)
    · obtain ⟨name, -, hname⟩ := List.mem_filterMap.1 h
      obtain ⟨x, hx, rfl⟩ := Option.map_eq_some_iff.1 hname
      exact isImport_standard _ (List.mem_map_of_mem (ExternalRegistry.mem_values_of_get? hx))

namespace FixtureFile

/-- What stands between the brackets of the import declaration. -/
theorem scans_importLines {imports : List String} (h : ∀ i ∈ imports, IsImport i) :
    ∃ is : List (Option String × String),
      Scans ((String.join (imports.map fun i => "\t" ++ i ++ "\n")).toList ++ s) false
      (is.flatMap fun i => importSigns i ++ [Token.lineSign]) s false := by
  induction imports with
  | nil => exact ⟨[], .refl s false⟩
  | cons text imports ih =>
    rw [List.forall_mem_cons] at h
    obtain ⟨⟨i, hi⟩, h⟩ := h
    obtain ⟨is, his⟩ := ih h
    refine ⟨i :: is, ?_⟩
    rw [List.map_cons, String.join_cons, List.flatMap_cons]
    simp only [String.toList_append, List.append_assoc]
    refine (Scans.blank (by decide)).trans ((hi _ false).trans ?_)
    exact (Scans.lineEnd _ true).trans his

theorem scans_importBlock {imports : List String} (h : ∀ i ∈ imports, IsImport i) :
    ∃ decls : List (List (Option String × String)), Scans ((importBlock imports).toList ++ s) false
      (decls.flatMap fun is => importDeclSigns is ++ [Token.lineSign]) s false := by
  unfold importBlock
  split
  · exact ⟨[], .refl s false⟩
  · obtain ⟨is, his⟩ := @scans_importLines (")\n\n".toList ++ s) _ h
    refine ⟨[is], ?_⟩
    -- the line ends behind the two brackets: only the second one stands for a semicolon
    have hopen (t : List Char) :
      Scans ("import (\n".toList ++ t) false [(.keyword .«import», "import"), (.opening .paren, "(")]
        t false :=
      scans_fixed [.word "import", .space, .op "(", .lineEnd] (by decide) rfl
    have hclose : Scans (")\n\n".toList ++ s) false [(.closing .paren, ")"), Token.lineSign] s false :=
      scans_fixed [.op ")", .lineEnd, .lineEnd] (by decide) rfl
    have hblock := (hopen _).trans (his.trans hclose)
    simpa [importDeclSigns, Signs.inside, Bracket.opening, Bracket.closing] using hblock

/-! ### Functions -/

/-- The signs of the helper that makes a pointer. -/
def helperSigns : Signs :=
  functionSigns "ptr" (Signs.inside .square [(.identifier, "T"), (.identifier, "any")])
    [(.identifier, "v"), (.identifier, "T")]
    [(.mark .star, "*"), (.identifier, "T")]
      [(.keyword .«return», "return"), (.operator, "&"), (.identifier, "v")]

theorem scans_pointerHelper :
    Scans (pointerHelper.toList ++ ("\n\n".toList ++ s)) false (helperSigns ++ [Token.lineSign]) s false := by
  refine Scans.trans
    (scans_fixed [.word "func", .space, .word "ptr", .op "[", .word "T", .space, .word "any", .op "]", .op "(",
    .word "v", .space, .word "T", .op ")", .space, .op "*", .word "T", .space, .op "\x7b", .space,
      .word "return", .space,
    .op "&", .word "v", .space, .op "\x7d"] (by decide) rfl) ?_
  exact scans_fixed [.lineEnd, .lineEnd] (by decide) rfl

theorem isFunction_helper : FixtureFunction.IsFunction (helperSigns ++ [Token.lineSign]) := by
  refine ⟨_, _, _, _, _, ?_, rfl⟩
  refine ⟨.inr ⟨[(.identifier, "T"), (.identifier, "any")], rfl, rfl⟩, rfl, ⟨fun _ => True, ?_⟩, ?_, rfl⟩
  · refine TypeExpr.takes_reader fun d hd => ?_
    obtain ⟨d, rfl⟩ : ∃ k, d = k + 2 := ⟨d - 2, by simp only [List.length_cons] at hd; omega⟩
    refine TypeExpr.takes_ofDepth_star
      (TypeExpr.takes_ofDepth_identifier (TypeExpr.takes_name.mono ?_ fun _ _ => trivial))
    rintro _ rfl
    exact ⟨by decide, by decide⟩
  · rintro _ rfl
    rfl

theorem scans_functions (ho : o.Named) {fs : List FixtureFunction}
    (h : ∀ f ∈ fs, IsName f.type ∧ f.body.Written o) :
    ∃ signs : List Signs, (∀ x ∈ signs, FixtureFunction.IsFunction x) ∧
      Scans ((String.join (fs.map (FixtureFunction.render o))).toList ++ s) false (signs.flatMap id) s false := by
  induction fs with
  | nil => exact ⟨[], by simp, .refl s false⟩
  | cons f fs ih =>
    rw [List.forall_mem_cons] at h
    obtain ⟨signs, hsigns, hscan⟩ := ih h.2
    obtain ⟨first, hfirst, hscan'⟩ :=
      FixtureFunction.scans_render (s := (String.join (fs.map (FixtureFunction.render o))).toList ++ s)
        ho h.1.1 h.1.2
    refine ⟨first :: signs, List.forall_mem_cons.2 ⟨hfirst, hsigns⟩, ?_⟩
    rw [List.map_cons, String.join_cons, String.toList_append, List.append_assoc]
    exact hscan'.trans hscan

/-! ### Files -/

/-- A file that is made of names, of texts that can stand for imports, and of bodies that are well written. -/
structure Written (o : Options) (f : FixtureFile) : Prop where
  package : IsName f.package
  imports : ∀ i ∈ f.imports, IsImport i
  functions : ∀ g ∈ f.functions, IsName g.type ∧ g.body.Written o

variable {f : FixtureFile}

/-- **The tokens of a file** are those of a package clause, of import declarations, and of functions. -/
theorem scans_render (ho : o.Named) (h : f.Written o) :
    ∃ decls, ∃ signs : List Signs, (∀ x ∈ signs, FixtureFunction.IsFunction x) ∧
      Scans (f.render o).toList false (fileSigns f.package decls (signs.flatMap id)) [] false := by
  obtain ⟨signs, hsigns, hfunctions⟩ := scans_functions (s := []) ho h.functions
  obtain ⟨decls, hdecls⟩ := scans_importBlock (s := pointerHelper.toList ++ ("\n\n".toList ++
    ((String.join (f.functions.map (FixtureFunction.render o))).toList ++ []))) h.imports
  refine ⟨decls, (helperSigns ++ [Token.lineSign]) :: signs,
    List.forall_mem_cons.2 ⟨isFunction_helper, hsigns⟩, ?_⟩
  rw [← List.append_nil (f.render o).toList, render]
  simp only [String.toList_append, List.append_assoc]
  refine (scans_fixed [.word "package", .space] (by decide) (wellSpaced_name h.package (by decide))).trans ?_
  refine (scans_name h.package (by rfl)).trans ?_
  refine (scans_fixed [.lineEnd, .lineEnd] (by decide) rfl).trans ?_
  exact hdecls.trans (scans_pointerHelper.trans hfunctions)

/-- **A fixture file is read** as a file without declarations. -/
theorem parse_render (ho : o.Named) (h : f.Written o) :
    SourceFile.parse (f.render o) = .ok ⟨f.package, [], []⟩ := by
  obtain ⟨decls, signs, hsigns, hscan⟩ := scans_render ho h
  obtain ⟨ts, hts, hmap⟩ := hscan.finish .start
  rw [if_neg Bool.false_ne_true, List.append_nil] at hmap
  have hfile : ofTokens ts = .ok ⟨f.package, [], []⟩ := by
    refine ofTokens_functions (fun x hx => ?_) (fun x hx => ?_) hmap
    · obtain ⟨_, _, _, _, _, houtline, rfl⟩ := hsigns x hx
      exact takes_function houtline
    · obtain ⟨_, _, _, _, _, -, rfl⟩ := hsigns x hx
      exact ⟨_, rfl⟩
  rw [SourceFile.parse, Token.scan, hts]
  simp only [hfile]

variable {m : TypeModel} {package : String}

/-- **The file of a model** with names is well written. -/
theorem written_ofModel (ho : o.Named) (hm : m.Named) (hp : IsName package)
    (h : ofModel m package o .standard = .ok f) :
    f.package = package ∧ f.Written o := by
  obtain ⟨records, hrecords, hf⟩ := bind_eq_ok_iff.1 h
  obtain rfl := Except.ok.inj hf
  refine ⟨rfl, hp, fun _ => isImport_of_mem_collectImports, fun g hg => ?_⟩
  -- the functions of aliases, then those of enumerations, then those of records
  rcases List.mem_append.1 hg with hg | hg
  · rcases List.mem_append.1 hg with hg | hg
    · obtain ⟨a, ha, rfl⟩ := List.mem_map.1 hg
      have hname := hm.aliases a (Catalogue.mem_sortedValues_iff.1 ha)
      exact ⟨hname, .expression (isLiteral_conversion ho hname (isLiteral_primitiveValue hname hname))⟩
    · obtain ⟨e, he, hg⟩ := List.mem_filterMap.1 hg
      obtain ⟨v, hv, rfl⟩ := Option.map_eq_some_iff.1 hg
      obtain ⟨hname, hvalues⟩ := hm.enumerations e (Catalogue.mem_sortedValues_iff.1 he)
      exact ⟨hname, .expression (isLiteral_qualify ho (hvalues v (List.mem_of_find?_eq_some hv)))⟩
  · obtain ⟨r, hr, hg⟩ := exists_left_of_forall₂ (mapM_eq_ok_iff.1 hrecords) hg
    obtain ⟨values, hvalues, rfl⟩ := map_eq_ok_iff.1 hg
    obtain ⟨hname, hfields⟩ := hm.records r (Catalogue.mem_sortedValues_iff.1 hr)
    exact ⟨hname,
      .fields (Value.written_ofFields ho (fun _ _ => Value.written_expand ho hm) hname hfields hvalues)⟩

end FixtureFile

/-- **What is generated is parsed.** -/
theorem parse_generate {source package text : String} {o : Options} {m : TypeModel}
    (hm : TypeModel.ofSource .standard source = .ok m) (hp : Token.IsIdentifier package)
    (hq : o.qualifier = "" ∨ Token.IsIdentifier o.qualifier)
    (hi : ∀ c ∈ o.insertion.toList, Lexeme.isNameCharacter c)
    (h : generate m package o .standard = .ok text) : SourceFile.parse text = .ok ⟨package, [], []⟩ := by
  have ho : o.Named := ⟨hq.imp String.isEmpty_iff.2 Token.isIdentifier_iff.1, hi⟩
  obtain ⟨f, hf, rfl⟩ := map_eq_ok_iff.1 h
  obtain ⟨rfl, hwritten⟩ :=
    FixtureFile.written_ofModel ho (TypeModel.named_ofSource hm) (Token.isIdentifier_iff.1 hp) hf
  exact FixtureFile.parse_render ho hwritten

/-- A text with an enumeration, an alias, and a record that refers to them. -/
def shopSource : String :=
  "package shop\n\ntype Color int\n\nconst Red Color = 0\n\ntype Label string\n\n"
    ++ "type Car struct \x7b\n\tPaint *Color\n\tLabels []Label\n\tCode, Name string\n\x7d\n"

/-- The model of the text. -/
def shopModel : TypeModel where
  records :=
    .ofList [("Car",
      ⟨"Car", [⟨"Paint", .pointer (.enumeration "Color")⟩, ⟨"Labels", .sequence (.typeAlias "Label")⟩,
    ⟨"Code", .primitive "string"⟩, ⟨"Name", .primitive "string"⟩]⟩)]
  enumerations := .ofList [("Color", ⟨"Color", ["Red"]⟩)]
  aliases := .ofList [("Label", ⟨"Label", "string"⟩)]
  sumTypes := .empty

/-- Its fixture file in the plain style, with a qualifier and an insertion. -/
def shopFixtures : String :=
  "package fixtures\n\nfunc ptr[T any](v T) *T \x7b return &v \x7d\n\nfunc FixtureNewLabel() shop.Label \x7b\n"
    ++ "\treturn shop.Label(\"Label\")\n\x7d\n\nfunc FixtureNewColor() shop.Color \x7b\n\treturn shop.Red\n\x7d\n\n"
    ++ "func FixtureNewCar() shop.Car \x7b\n\treturn shop.Car\x7b\n\t\tPaint: ptr(FixtureNewColor()),\n"
    ++ "\t\tLabels: []shop.Label\x7bFixtureNewLabel()\x7d,\n\t\tCode: \"Code\",\n\t\tName: \"Name\",\n\t\x7d\n\x7d\n\n"

theorem parse_generate_shop :
    TypeModel.ofSource .standard shopSource = .ok shopModel ∧ Token.IsIdentifier "fixtures" ∧
      ("shop" = "" ∨ Token.IsIdentifier "shop") ∧ (∀ c ∈ "New".toList, Lexeme.isNameCharacter c) ∧
      generate shopModel "fixtures" ⟨"shop", "New", .plain⟩ .standard = .ok shopFixtures ∧
      SourceFile.parse shopFixtures = .ok ⟨"fixtures", [], []⟩ := by
  have hm : TypeModel.ofSource .standard shopSource = .ok shopModel := by decide +kernel
  have hp : Token.IsIdentifier "fixtures" := Token.isIdentifier_iff.2 (by decide)
  have hq : "shop" = "" ∨ Token.IsIdentifier "shop" := .inr (Token.isIdentifier_iff.2 (by decide))
  have hi : ∀ c ∈ "New".toList, Lexeme.isNameCharacter c := List.all_eq_true.1 (by decide)
  have h : generate shopModel "fixtures" ⟨"shop", "New", .plain⟩ .standard = .ok shopFixtures := by decide +kernel
  exact ⟨hm, hp, hq, hi, h, parse_generate hm hp hq hi h⟩

end GoFixtures
