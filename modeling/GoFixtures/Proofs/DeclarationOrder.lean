import GoFixtures.Proofs.Fixture.Dependencies
import GoFixtures.Proofs.Go.Declarations
import GoFixtures.Proofs.Members

/-!
# The order of declarations does not matter

The types of a package can be declared in any order and in any of its files, as long as no name is declared
twice and no sum type has a choice between records. The constants stay in their order, since the first one of
a type stands for its values.

* `DeclarationIndex.Equiv`: two indexes in which each name stands for the same declaration, up to its line.
  Names denote the same in both.
* `DeclarationIndex.SameTypes`: the same declarations in another order, up to their lines. The models are the
  same up to order (`toModel_equiv`).
* `generate_of_perm`: so the text is the same.
-/

namespace GoFixtures

open Go

namespace DeclarationIndex

/-! ### Indexes -/

/-- Each name stands for the same declaration in both indexes, up to its line, and the constants are the same. -/
structure Equiv (index index' : DeclarationIndex) : Prop where
  byName : ∀ name, (index.byName.get? name).map TypeSpec.withoutLine =
    (index'.byName.get? name).map TypeSpec.withoutLine
  length_keys : index.byName.keys.length = index'.byName.keys.length
  enumValues : index.enumValues = index'.enumValues

variable {index index' : DeclarationIndex} {scope : Scope} {registry : ExternalRegistry} {name : String}

/-- What depends on the declaration of a name, but not on its line, is the same. -/
theorem Equiv.map_get?_eq {β : Type} (h : index.Equiv index') (f : TypeSpec → β)
    (hf : ∀ spec, f spec = f spec.withoutLine) :
    (index.byName.get? name).map f = (index'.byName.get? name).map f := by
  have hline : ∀ spec? : Option TypeSpec, spec?.map f = (spec?.map TypeSpec.withoutLine).map f := by
    intro spec?
    cases spec? with
    | none => rfl
    | some spec => exact congrArg some (hf spec)
  rw [hline, h.byName, ← hline]

theorem Equiv.contains_eq (h : index.Equiv index') :
    index.byName.contains name = index'.byName.contains name := by
  have hget : (index.byName.get? name).map (fun _ => ()) = (index'.byName.get? name).map fun _ => () :=
    h.map_get?_eq _ fun _ => rfl
  have hsome := congrArg Option.isSome hget
  rwa [Option.isSome_map, Option.isSome_map] at hsome

theorem Equiv.underlyingPrimitive?_eq (h : index.Equiv index') :
    index.underlyingPrimitive? name = index'.underlyingPrimitive? name := by
  have hwithin : ∀ steps name, index.underlyingWithin steps name = index'.underlyingWithin steps name := by
    intro steps
    induction steps with
    | zero => exact fun _ => rfl
    | succ steps ih =>
      intro name
      rw [underlyingWithin, underlyingWithin, h.map_get?_eq TypeSpec.type fun _ => rfl]
      split
      · rw [ih]
      · rfl
  rw [underlyingPrimitive?, underlyingPrimitive?, h.length_keys, hwithin]

theorem Equiv.kindOf?_eq (h : index.Equiv index') : index.kindOf? name = index'.kindOf? name := by
  have hget := h.byName name
  rw [kindOf?, kindOf?, h.underlyingPrimitive?_eq, h.enumValues]
  cases hs : index.byName.get? name with
  | none =>
    rw [hs, Option.map_none, eq_comm, Option.map_eq_none_iff] at hget
    rw [hget]
  | some spec =>
    rw [hs] at hget
    obtain ⟨spec', hs', hline⟩ := Option.map_eq_some_iff.1 hget.symm
    simp only [TypeSpec.withoutLine, TypeSpec.mk.injEq] at hline
    obtain ⟨-, htype, -, hgeneric, -⟩ := hline
    simp only [hs', hgeneric, htype]

theorem Equiv.packageScope_eq (h : index.Equiv index') : packageScope index = packageScope index' :=
  funext fun _ => h.kindOf?_eq

theorem Equiv.lexicalScope_eq (h : index.Equiv index') : lexicalScope index = lexicalScope index' := by
  funext name
  rw [lexicalScope, lexicalScope, h.contains_eq, h.kindOf?_eq]

theorem Equiv.primitiveKind?_eq (h : index.Equiv index') (spec : TypeSpec) :
    index.primitiveKind? spec = index'.primitiveKind? spec := by
  rw [primitiveKind?, primitiveKind?, h.kindOf?_eq, h.underlyingPrimitive?_eq]

theorem Equiv.enumerationOf?_eq (h : index.Equiv index') : index.enumerationOf? = index'.enumerationOf? := by
  funext spec
  rw [enumerationOf?, enumerationOf?, h.primitiveKind?_eq, h.enumValues]

theorem Equiv.aliasOf?_eq (h : index.Equiv index') : index.aliasOf? = index'.aliasOf? := by
  funext spec
  rw [aliasOf?, aliasOf?, h.primitiveKind?_eq]

/-! ### Models -/

/-- The same declarations of types in another order, up to their lines, with distinct names. -/
structure SameTypes (index index' : DeclarationIndex) : Prop extends Equiv index index' where
  specs : (index.specs.map TypeSpec.withoutLine).Perm (index'.specs.map TypeSpec.withoutLine)
  nodup : (index.specs.map TypeSpec.name).Nodup

/-- Each sum type is matched by at most one record. -/
def HasNoChoice (specs : List TypeSpec) : Prop :=
  ∀ sum ∈ specs, declaresSumType sum → ∀ r ∈ specs, declaresRecord r → ∀ r' ∈ specs, declaresRecord r' →
    matchesMember sum.name r.name → matchesMember sum.name r'.name → r.name = r'.name

section Specs

variable {specs specs' : List TypeSpec}

/-- What the declarations enter one by one, up to order. -/
theorem perm_flatMap {β : Type} (h : (specs.map TypeSpec.withoutLine).Perm (specs'.map TypeSpec.withoutLine))
    (f : TypeSpec → List β) (hf : ∀ spec, f spec = f spec.withoutLine) :
    (specs.flatMap f).Perm (specs'.flatMap f) := by
  have hline : ∀ specs : List TypeSpec, specs.flatMap f = (specs.map TypeSpec.withoutLine).flatMap f := by
    intro specs
    rw [List.flatMap_map]
    exact List.flatMap_congr fun spec _ => hf spec
  rw [hline specs, hline specs']
  exact h.flatMap_right f

/-- The names of the declarations of a kind, up to order. -/
theorem perm_names (h : (specs.map TypeSpec.withoutLine).Perm (specs'.map TypeSpec.withoutLine))
    (p : TypeSpec → Bool) (hp : ∀ spec, p spec = p spec.withoutLine) :
    ((specs.filter p).map TypeSpec.name).Perm ((specs'.filter p).map TypeSpec.name) := by
  have hline : ∀ specs : List TypeSpec,
      (specs.filter p).map TypeSpec.name = ((specs.map TypeSpec.withoutLine).filter p).map TypeSpec.name := by
    intro specs
    rw [List.filter_map, List.map_map, List.filter_congr fun spec _ => hp spec]
    rfl
  rw [hline specs, hline specs']
  exact (h.filter p).map TypeSpec.name

variable {α : Type} {nameOf : α → String} {f : TypeSpec → Option α}

/-- Each declaration enters at most its own name. -/
theorem keys_entries_sublist (hname : ∀ spec a, f spec = some a → nameOf a = spec.name) :
    (Entries.keys (specs.flatMap fun spec => entryOf nameOf (f spec))).Sublist (specs.map TypeSpec.name) := by
  induction specs with
  | nil => exact .slnil
  | cons spec specs ih =>
    rw [List.flatMap_cons, List.map_cons]
    cases ha : f spec with
    | none => exact ih.cons spec.name
    | some a =>
      rw [← hname spec a ha]
      exact ih.cons_cons (nameOf a)

theorem equiv_ofEntries (h : (specs.map TypeSpec.withoutLine).Perm (specs'.map TypeSpec.withoutLine))
    (hd : (specs.map TypeSpec.name).Nodup) (hname : ∀ spec a, f spec = some a → nameOf a = spec.name)
    (hf : ∀ spec, f spec = f spec.withoutLine) :
    (Catalogue.ofList (specs.flatMap fun spec => entryOf nameOf (f spec))).Equiv
      (Catalogue.ofList (specs'.flatMap fun spec => entryOf nameOf (f spec))) :=
  .of_perm (perm_flatMap h _ fun spec => congrArg (entryOf nameOf) (hf spec))
    (hd.sublist (keys_entries_sublist hname))

end Specs

/-- **The model does not depend on the order of the declarations**, but for the order of its names. -/
theorem SameTypes.toModel_equiv (h : index.SameTypes index') (hone : HasNoChoice index.specs) :
    (index.toModel scope registry).Equiv (index'.toModel scope registry) where
  records := by
    rw [records_toModel, records_toModel]
    refine equiv_ofEntries h.specs h.nodup (fun spec r hr => ?_) fun _ => rfl
    obtain ⟨-, -, fields, -, rfl⟩ := recordOf?_eq_some_iff.1 hr
    rfl
  enumerations := by
    rw [enumerations_toModel, enumerations_toModel, h.toEquiv.enumerationOf?_eq]
    refine equiv_ofEntries h.specs h.nodup (fun spec e he => ?_) fun _ => rfl
    rw [(enumerationOf?_eq_some_iff.1 he).2]
  aliases := by
    rw [aliases_toModel, aliases_toModel, h.toEquiv.aliasOf?_eq]
    refine equiv_ofEntries h.specs h.nodup (fun spec a ha => ?_) fun _ => rfl
    obtain ⟨primitive, -, rfl⟩ := aliasOf?_eq_some_iff.1 ha
    rfl
  sumTypes := by
    intro s
    rw [get?_sumTypes_toModel, get?_sumTypes_toModel]
    have hsums := perm_names h.specs declaresSumType fun _ => rfl
    have hrecords := perm_names h.specs declaresRecord fun _ => rfl
    by_cases hs : s ∈ (index.specs.filter declaresSumType).map TypeSpec.name
    · rw [if_pos hs, if_pos (hsums.mem_iff.1 hs), find?_eq_of_perm hrecords]
      -- of the records that are declared at most one matches the sum type
      intro name hn name' hn' hmatch hmatch'
      obtain ⟨sum, hsum, rfl⟩ := List.mem_map.1 hs
      obtain ⟨r, hr, rfl⟩ := List.mem_map.1 hn
      obtain ⟨r', hr', rfl⟩ := List.mem_map.1 hn'
      obtain ⟨hsum, hsum'⟩ := List.mem_filter.1 hsum
      obtain ⟨hr, hrec⟩ := List.mem_filter.1 hr
      obtain ⟨hr', hrec'⟩ := List.mem_filter.1 hr'
      exact hone sum hsum hsum' r hr hrec r' hr' hrec' hmatch hmatch'
    · rw [if_neg hs, if_neg fun hs' => hs (hsums.mem_iff.2 hs')]

/-! ### Files -/

variable {files files' : List SourceFile}

theorem entries_byName (hd : ((files.flatMap SourceFile.types).map TypeSpec.name).Nodup) :
    (ofFiles files).byName.entries = (files.flatMap SourceFile.types).map fun spec => (spec.name, spec) := by
  refine Catalogue.entries_ofList ?_
  simpa [Entries.keys, Function.comp_def] using hd

theorem get?_byName_iff (hd : ((files.flatMap SourceFile.types).map TypeSpec.name).Nodup) {spec : TypeSpec} :
    (ofFiles files).byName.get? name = some spec ↔ spec ∈ files.flatMap SourceFile.types ∧ spec.name = name := by
  rw [← Catalogue.mem_entries_iff, entries_byName hd, List.mem_map]
  constructor
  · rintro ⟨s, hs, h⟩
    obtain ⟨rfl, rfl⟩ := Prod.mk.inj h
    exact ⟨hs, rfl⟩
  · rintro ⟨hs, rfl⟩
    exact ⟨spec, hs, rfl⟩

theorem length_keys_byName (hd : ((files.flatMap SourceFile.types).map TypeSpec.name).Nodup) :
    (ofFiles files).byName.keys.length = (files.flatMap SourceFile.types).length := by
  rw [Catalogue.keys, entries_byName hd, Entries.keys, List.length_map, List.length_map]

/-- The constants of a group do not depend on their lines. -/
theorem addGroup_withoutLine {current : Option TypeExpr} {values : Catalogue (List String)}
    {group : List ConstSpec} :
    addGroup current values (group.map ConstSpec.withoutLine) = addGroup current values group := by
  induction group generalizing current values with
  | nil => rfl
  | cons spec group ih =>
    rw [List.map_cons, addGroup, addGroup]
    simp only [ih]
    rfl

theorem enumValues_withoutLine (files : List SourceFile) : (ofFiles files).enumValues =
    (((files.flatMap SourceFile.constGroups).map (·.map ConstSpec.withoutLine)).foldl (addGroup none)
      .empty) := by
  rw [List.foldl_map]
  simp only [addGroup_withoutLine]
  rfl

theorem sameTypes_ofFiles
    (htypes : ((files.flatMap SourceFile.types).map TypeSpec.withoutLine).Perm
      ((files'.flatMap SourceFile.types).map TypeSpec.withoutLine))
    (hnames : ((files.flatMap SourceFile.types).map TypeSpec.name).Nodup)
    (hconstants : (files.flatMap SourceFile.constGroups).map (·.map ConstSpec.withoutLine) =
      (files'.flatMap SourceFile.constGroups).map (·.map ConstSpec.withoutLine)) :
    (ofFiles files).SameTypes (ofFiles files') := by
  have hperm : ((files.flatMap SourceFile.types).map TypeSpec.name).Perm
      ((files'.flatMap SourceFile.types).map TypeSpec.name) := by
    simpa [List.map_map, Function.comp_def, TypeSpec.withoutLine] using htypes.map TypeSpec.name
  have hnames' : ((files'.flatMap SourceFile.types).map TypeSpec.name).Nodup := hperm.nodup_iff.1 hnames
  -- a name stands for the declaration with that name, which is among those of both lists
  have hmem : ∀ files : List SourceFile, ((files.flatMap SourceFile.types).map TypeSpec.name).Nodup → ∀ name t,
      (((ofFiles files).byName.get? name).map TypeSpec.withoutLine = some t ↔
        t ∈ (files.flatMap SourceFile.types).map TypeSpec.withoutLine ∧ t.name = name) := by
    intro files hd name t
    simp only [Option.map_eq_some_iff, get?_byName_iff hd, List.mem_map]
    constructor
    · rintro ⟨spec, ⟨hs, rfl⟩, rfl⟩
      exact ⟨⟨spec, hs, rfl⟩, rfl⟩
    · rintro ⟨⟨spec, hs, rfl⟩, rfl⟩
      exact ⟨spec, ⟨hs, rfl⟩, rfl⟩
  refine ⟨⟨fun name => Option.ext fun t => ?_, ?_, ?_⟩, htypes, hnames⟩
  · rw [hmem files hnames, hmem files' hnames', htypes.mem_iff]
  · rw [length_keys_byName hnames, length_keys_byName hnames']
    simpa using htypes.length_eq
  · rw [enumValues_withoutLine, enumValues_withoutLine, hconstants]

end DeclarationIndex

/-- **The order of declarations does not reach the text.** Two lists of files declare the same types, in any
order and in any of the files, each name once, and the same constants. If each sum type is matched by at most
one record, then both have the same fixture file, or none, in the scope of a package and in that of a single
text. -/
theorem generate_of_perm {files files' : List SourceFile}
    (htypes : ((files.flatMap SourceFile.types).map TypeSpec.withoutLine).Perm
      ((files'.flatMap SourceFile.types).map TypeSpec.withoutLine))
    (hnames : ((files.flatMap SourceFile.types).map TypeSpec.name).Nodup)
    (hconstants : (files.flatMap SourceFile.constGroups).map (·.map ConstSpec.withoutLine) =
      (files'.flatMap SourceFile.constGroups).map (·.map ConstSpec.withoutLine))
    (hone : DeclarationIndex.HasNoChoice (files.flatMap SourceFile.types))
    (registry : ExternalRegistry) (package : String) (o : Options) :
    generate ((DeclarationIndex.ofFiles files).toModel (packageScope (.ofFiles files)) registry)
        package o registry =
      generate ((DeclarationIndex.ofFiles files').toModel (packageScope (.ofFiles files')) registry)
        package o registry ∧
    generate ((DeclarationIndex.ofFiles files).toModel (lexicalScope (.ofFiles files)) registry)
        package o registry =
      generate ((DeclarationIndex.ofFiles files').toModel (lexicalScope (.ofFiles files')) registry)
        package o registry := by
  have hsame := DeclarationIndex.sameTypes_ofFiles htypes hnames hconstants
  have hgenerate :
    ∀ scope, generate ((DeclarationIndex.ofFiles files).toModel scope registry) package o registry =
      generate ((DeclarationIndex.ofFiles files').toModel scope registry) package o registry := by
    intro scope
    rw [generate, generate, FixtureFile.ofModel_congr (hsame.toModel_equiv hone) rfl rfl (fun _ _ => rfl)]
  rw [hsame.toEquiv.packageScope_eq, hsame.toEquiv.lexicalScope_eq]
  exact ⟨hgenerate _, hgenerate _⟩

/-- The types of a garage: a chain of named types, an enumeration, and a sum type with one record that matches
it. -/
def garageTypes (lines : List Nat) : List TypeSpec :=
  [("Car", .struct [⟨["Part"], .slice (.name "isCar_Part"), none⟩, ⟨["Paint"], .pointer (.name "Color"), none⟩]),
    ("Color", .name "Shade"), ("Shade", .name "int"), ("isCar_Part", .interface ["isCar_Part"]),
    ("Car_Wheel", .struct [⟨["Size"], .name "Shade", none⟩])].zipWith (fun spec line =>
      ⟨spec.1, spec.2, line, false, false⟩) lines

/-- The garage in one file. -/
def garage : List SourceFile :=
  [⟨"p", garageTypes [3, 8, 10, 12, 16], [[⟨["Red"], some (.name "Color"), true, 20⟩]]⟩]

/-- The garage in two files and in the opposite order. -/
def turnedGarage : List SourceFile :=
  [⟨"p", (garageTypes [0, 0, 0, 7, 3]).reverse.take 2, []⟩,
    ⟨"p", (garageTypes [9, 5, 3, 0, 0]).reverse.drop 2, [[⟨["Red"], some (.name "Color"), true, 14⟩]]⟩]

/-- The garage has the same text when it is turned. -/
theorem generate_of_perm_garage :
    ((garage.flatMap SourceFile.types).map TypeSpec.withoutLine).Perm
        ((turnedGarage.flatMap SourceFile.types).map TypeSpec.withoutLine) ∧
      ((garage.flatMap SourceFile.types).map TypeSpec.name).Nodup ∧
      (garage.flatMap SourceFile.constGroups).map (·.map ConstSpec.withoutLine) =
        (turnedGarage.flatMap SourceFile.constGroups).map (·.map ConstSpec.withoutLine) ∧
      DeclarationIndex.HasNoChoice (garage.flatMap SourceFile.types) ∧
      generate ((DeclarationIndex.ofFiles garage).toModel (packageScope (.ofFiles garage)) .standard)
        "fixtures" {} .standard =
        generate ((DeclarationIndex.ofFiles turnedGarage).toModel
          (packageScope (.ofFiles turnedGarage)) .standard) "fixtures" {}
          .standard ∧
      generate ((DeclarationIndex.ofFiles garage).toModel (lexicalScope (.ofFiles garage)) .standard)
        "fixtures" {} .standard =
        generate ((DeclarationIndex.ofFiles turnedGarage).toModel
          (lexicalScope (.ofFiles turnedGarage)) .standard) "fixtures" {}
          .standard := by
  have htypes : ((garage.flatMap SourceFile.types).map TypeSpec.withoutLine).Perm
      ((turnedGarage.flatMap SourceFile.types).map TypeSpec.withoutLine) := (List.reverse_perm _).symm
  have hnames : ((garage.flatMap SourceFile.types).map TypeSpec.name).Nodup := by decide
  have hone : DeclarationIndex.HasNoChoice (garage.flatMap SourceFile.types) := by
    unfold DeclarationIndex.HasNoChoice
    decide
  exact ⟨htypes, hnames, rfl, hone, generate_of_perm htypes hnames rfl hone .standard "fixtures" {}⟩

end GoFixtures
