import GoFixtures.Fixture.FixtureFile
import GoFixtures.Proofs.Declared
import GoFixtures.Proofs.Expansion

/-!
# Which fixture functions are called, and which there are

A value calls the fixture functions of the types that the fields of records refer to, its own or those of the
members that are expanded inside it (`mentioned_of_mem_calls`). In the scope of a package such a name is
declared, so there is a function for it (`mem_functionNames_iff`), with one exception: an enumeration none of
whose values can stand for it is left out of the file.

* `call_undefined_iff`: a call has no function exactly if it is that of such an enumeration.
* `paintedCar_calls_undefined`: and there are such calls.
-/

namespace GoFixtures

open Go

/-- A reference is to a declaration that is called by name: a record, an enumeration or an alias, below
pointers and sequences. -/
def TypeRef.RefersTo (t : TypeRef) (x : String) : Prop :=
  t.leaf = .record x ∨ t.leaf = .enumeration x ∨ t.leaf = .typeAlias x

/-- A field of some record refers to a name. -/
def TypeModel.Mentions (m : TypeModel) (x : String) : Prop :=
  ∃ r ∈ m.records.values, ∃ f ∈ r.fields, f.type.RefersTo x

variable {m : TypeModel} {o : Options} {registry : ExternalRegistry} {x : String}

namespace Value

section Fields

variable {expand : String → Except CyclicExpansion Value} {field enclosing : String} {t : TypeRef}
    {fs : List Field}
  {v : Value} {vs : List (String × Value)}

/-- What a value calls is what its reference names, or is called inside the expansion of a sum type. -/
theorem mem_calls_ofRef (h : ofRef o registry expand field enclosing t = .ok v) (hx : x ∈ v.calls) :
    t.RefersTo x ∨ ∃ s w, expand s = .ok w ∧ x ∈ w.calls := by
  revert v
  fun_induction ofRef o registry expand field enclosing t with
  | case2 n | case3 n | case4 n =>
    rintro v ⟨⟩ hx
    obtain rfl := List.mem_singleton.1 hx
    simp [TypeRef.RefersTo, TypeRef.leaf]
  | case5 s => exact fun h hx => .inr ⟨s, _, h, hx⟩
  | case7 n | case11 n =>
    rintro v ⟨⟩ hx
    unfold ofExternal at hx
    split at hx <;> simp [nothing, calls] at hx
  | case9 t _ _ ih | case10 t ih =>
    intro v h hx
    obtain ⟨w, hw, rfl⟩ := map_eq_ok_iff.1 h
    exact ih hw hx
  | _ =>
    rintro v ⟨⟩ hx
    simp [nothing, calls] at hx

theorem mem_callsOfFields : x ∈ callsOfFields vs ↔ ∃ nv ∈ vs, x ∈ nv.2.calls := by
  induction vs with
  | nil => simp [callsOfFields]
  | cons nv vs ih => simp [callsOfFields, ih]

theorem mem_calls_ofFields (h : ofFields o registry expand enclosing fs = .ok vs) (hx : x ∈ callsOfFields vs) :
    (∃ f ∈ fs, f.type.RefersTo x) ∨ ∃ s w, expand s = .ok w ∧ x ∈ w.calls := by
  obtain ⟨nv, hnv, hx⟩ := mem_callsOfFields.1 hx
  obtain ⟨f, hf, -, hv⟩ := exists_left_of_forall₂ (ofFields_eq_ok_iff.1 h) hnv
  exact (mem_calls_ofRef hv hx).imp_left fun ht => ⟨f, hf, ht⟩

end Fields

/-- An expansion calls nothing that no field refers to. -/
theorem mentions_of_mem_expansion {n : Nat} {s : String} {v : Value} (h : ofSumType m o registry n s = .ok v) :
    ∀ x ∈ v.calls, m.Mentions x := by
  refine ofSumType_induction (P := fun v => ∀ x ∈ v.calls, m.Mentions x) (by simp [nothing, calls]) ?_ h
  intro s name expand vs _ ih hvs x hx
  rcases mem_calls_ofFields hvs hx with ⟨f, hf, ht⟩ | ⟨s', w, hw, hx⟩
  · obtain ⟨r, hr, hf⟩ := mem_fieldsOf.1 hf
    exact ⟨r, Catalogue.mem_values_iff.2 ⟨name, hr⟩, f, hf, ht⟩
  · exact ih s' w hw x hx

/-- **Calls are mentioned.** What the value of a field calls, some field of some record refers to. -/
theorem mentions_of_mem_calls {r : Record} {f : Field} {v : Value} (hr : r ∈ m.records.values) (hf : f ∈ r.fields)
    (h : valueOf m o registry f.name r.name f.type = .ok v) (hx : x ∈ v.calls) : m.Mentions x := by
  rcases mem_calls_ofRef h hx with ht | ⟨s, w, hw, hx⟩
  · exact ⟨r, hr, f, hf, ht⟩
  · exact mentions_of_mem_expansion hw x hx

end Value

namespace FixtureFile

/-- The names of the functions that a file defines. -/
def functionNames (o : Options) (file : FixtureFile) : List String :=
  file.functions.map fun f => o.fixtureName f.type

theorem fixtureName_inj {x y : String} : o.fixtureName x = o.fixtureName y ↔ x = y := by
  simp [Options.fixtureName, String.append_right_inj]

theorem types_ofEnumerations (es : List Enumeration) :
    (es.filterMap (FixtureFunction.ofEnumeration? o)).map FixtureFunction.type =
      (es.filter fun e => (defaultEnumValue? e.values).isSome).map Enumeration.name := by
  induction es with
  | nil => rfl
  | cons e es ih =>
    cases hv : defaultEnumValue? e.values with
    | none =>
      have hnone : FixtureFunction.ofEnumeration? o e = none := by
        rw [FixtureFunction.ofEnumeration?, hv, Option.map_none]
      simp [hnone, hv, ih]
    | some v =>
      have hsome : FixtureFunction.ofEnumeration? o e = some ⟨e.name, .expression (o.qualify v)⟩ := by
        rw [FixtureFunction.ofEnumeration?, hv, Option.map_some]
      simp [hsome, hv, ih]

theorem types_ofRecords {rs : List Record} {fs : List FixtureFunction}
    (h : rs.mapM (FixtureFunction.ofRecord m o registry) = .ok fs) :
    fs.map FixtureFunction.type = rs.map Record.name := by
  induction mapM_eq_ok_iff.1 h with
  | nil => rfl
  | cons hf hfs ih =>
    obtain ⟨vs, -, rfl⟩ := map_eq_ok_iff.1 hf
    rw [List.map_cons, List.map_cons, ih (mapM_eq_ok_iff.2 hfs)]

/-- The types that have a function in a file: the aliases, the enumerations that a value can stand for, and
the records. -/
theorem types_ofModel {package : String} {file : FixtureFile} (h : ofModel m package o registry = .ok file) :
    file.functions.map FixtureFunction.type = m.aliases.sortedValues.map Alias.name
      ++ (m.enumerations.sortedValues.filter fun e => (defaultEnumValue? e.values).isSome).map Enumeration.name
      ++ m.records.sortedValues.map Record.name := by
  obtain ⟨fs, hfs, hfile⟩ := bind_eq_ok_iff.1 h
  cases hfile
  rw [List.map_append, List.map_append, List.map_map, types_ofEnumerations, types_ofRecords hfs]
  rfl

/-- **The functions of a file**: one for each alias, for each record, and for each enumeration that a value
can stand for. -/
theorem mem_functionNames_iff {package : String} {file : FixtureFile}
    (h : ofModel m package o registry = .ok file) :
    o.fixtureName x ∈ file.functionNames o ↔ (∃ a ∈ m.aliases.values, a.name = x) ∨
      (∃ e ∈ m.enumerations.values, e.name = x ∧ (defaultEnumValue? e.values).isSome) ∨
      ∃ r ∈ m.records.values, r.name = x := by
  have hnames : o.fixtureName x ∈ file.functionNames o ↔ x ∈ file.functions.map FixtureFunction.type := by
    simp only [functionNames, List.mem_map, fixtureName_inj]
  simp only [hnames, types_ofModel h, List.mem_append, List.mem_map, List.mem_filter,
    Catalogue.mem_sortedValues_iff, or_assoc,
    and_assoc, and_comm (a := (defaultEnumValue? _).isSome)]

end FixtureFile

/-- The model of the files of a package. -/
def TypeModel.ofPackage (registry : ExternalRegistry) (files : List SourceFile) : TypeModel :=
  let index := DeclarationIndex.ofFiles files
  index.toModel (packageScope index) registry

section Package

variable {files : List SourceFile} {scope : Scope}

/-- In the scope of a package a name that a field refers to denotes a record, an enumeration or an alias. -/
theorem kindOf?_of_mentions (h : (TypeModel.ofPackage registry files).Mentions x) :
    (DeclarationIndex.ofFiles files).kindOf? x = some .record ∨
      (DeclarationIndex.ofFiles files).kindOf? x = some .enumeration ∨
      (DeclarationIndex.ofFiles files).kindOf? x = some .typeAlias := by
  obtain ⟨r, hr, f, hf, ht⟩ := h
  obtain ⟨name, hr⟩ := Catalogue.mem_values_iff.1 hr
  obtain ⟨spec, -, hs, -⟩ := DeclarationIndex.exists_recordOf? hr
  obtain ⟨-, -, fields, -, rfl⟩ := DeclarationIndex.recordOf?_eq_some_iff.1 hs
  obtain ⟨d, -, -, -, hd⟩ := mem_recordFields_iff.1 hf
  have ha := (admitted_classify (packageScope (.ofFiles files)) registry d.type).leaf
  rw [← hd] at ha
  rcases ht with h | h | h <;> rw [h] at ha
  · exact .inl ha
  · exact .inr (.inl ha)
  · exact .inr (.inr ha)

/-- The model has an alias of each name that denotes one. -/
theorem exists_alias_iff :
    (∃ a ∈ ((DeclarationIndex.ofFiles files).toModel scope registry).aliases.values, a.name = x) ↔
    (DeclarationIndex.ofFiles files).kindOf? x = some .typeAlias := by
  constructor
  · rintro ⟨a, ha, rfl⟩
    obtain ⟨k, hk⟩ := Catalogue.mem_values_iff.1 ha
    obtain ⟨h, hn, -⟩ := DeclarationIndex.get?_aliases_iff.1 hk
    rwa [hn]
  · intro h
    obtain ⟨spec, -, rfl, primitive, hp⟩ := DeclarationIndex.exists_primitiveKind? h (.inr rfl)
    obtain ⟨-, -, -, -, hu⟩ := DeclarationIndex.primitiveKind?_eq_some_iff.1 hp
    have ha : ((DeclarationIndex.ofFiles files).toModel scope registry).aliases.get? spec.name =
        some ⟨spec.name, primitive⟩ :=
      DeclarationIndex.get?_aliases_iff.2 ⟨h, rfl, hu⟩
    exact ⟨_, Catalogue.mem_values_iff.2 ⟨_, ha⟩, rfl⟩

theorem defaultEnumValue?_isSome_iff {values : List String} :
    (defaultEnumValue? values).isSome ↔ ¬ ∀ value ∈ values, value ∈ reservedEnumValues := by
  simp [defaultEnumValue?, List.find?_isSome]

/-- A value stands for the enumeration of a name that denotes one, as soon as one of its constants is not
reserved. -/
theorem exists_enumeration_iff :
    (∃ e ∈ ((DeclarationIndex.ofFiles files).toModel scope registry).enumerations.values, e.name = x ∧
      (defaultEnumValue? e.values).isSome) ↔
    (DeclarationIndex.ofFiles files).kindOf? x = some .enumeration ∧
      ¬ ∀ value ∈ ((DeclarationIndex.ofFiles files).enumValues.get? x).getD [], value ∈ reservedEnumValues := by
  rw [← defaultEnumValue?_isSome_iff]
  constructor
  · rintro ⟨e, he, rfl, hv⟩
    obtain ⟨k, hk⟩ := Catalogue.mem_values_iff.1 he
    obtain ⟨h, rfl⟩ := DeclarationIndex.get?_enumerations_iff.1 hk
    exact ⟨h, hv⟩
  · rintro ⟨h, hv⟩
    have he : ((DeclarationIndex.ofFiles files).toModel scope registry).enumerations.get? x = some _ :=
      DeclarationIndex.get?_enumerations_iff.2 ⟨h, rfl⟩
    exact ⟨_, Catalogue.mem_values_iff.2 ⟨_, he⟩, rfl, hv⟩

theorem exists_record_iff :
    (∃ r ∈ ((DeclarationIndex.ofFiles files).toModel scope registry).records.values, r.name = x) ↔
    x ∈ ((DeclarationIndex.ofFiles files).toModel scope registry).records.keys := by
  rw [Catalogue.mem_keys_iff]
  constructor
  · rintro ⟨r, hr, rfl⟩
    obtain ⟨k, hk⟩ := Catalogue.mem_values_iff.1 hr
    obtain ⟨-, -, -, rfl⟩ := DeclarationIndex.exists_recordOf? hk
    exact ⟨r, hk⟩
  · rintro ⟨r, hr⟩
    obtain ⟨-, -, -, rfl⟩ := DeclarationIndex.exists_recordOf? hr
    exact ⟨r, Catalogue.mem_values_iff.2 ⟨_, hr⟩, rfl⟩

/-- A name that denotes an enumeration for which there is no function: all constants of the type are reserved,
and no exported struct is declared under the name as well. -/
def DeclarationIndex.LacksFixture (index : DeclarationIndex) (x : String) : Prop :=
  index.kindOf? x = some .enumeration ∧
    (∀ value ∈ (index.enumValues.get? x).getD [], value ∈ reservedEnumValues) ∧
    ∀ spec ∈ index.specs, spec.name = x → spec.isGeneric = false → isExported x →
      ∀ fields, spec.type ≠ .struct fields

theorem not_mem_functionNames_iff {package : String} {file : FixtureFile}
    (h : FixtureFile.ofModel (.ofPackage registry files) package o registry = .ok file)
    (hx : (TypeModel.ofPackage registry files).Mentions x) :
    o.fixtureName x ∉ file.functionNames o ↔ (DeclarationIndex.ofFiles files).LacksFixture x := by
  have hkind := kindOf?_of_mentions hx
  unfold TypeModel.ofPackage at h
  have hrecords :
    x ∉ ((DeclarationIndex.ofFiles files).toModel (packageScope (.ofFiles files)) registry).records.keys ↔
      ∀ spec ∈ (DeclarationIndex.ofFiles files).specs,
        spec.name = x → spec.isGeneric = false → isExported x → ∀ fields, spec.type ≠ .struct fields := by
    rw [DeclarationIndex.mem_records_iff]
    simp only [not_exists, not_and]
  rw [FixtureFile.mem_functionNames_iff h, exists_alias_iff, exists_enumeration_iff, exists_record_iff,
    DeclarationIndex.LacksFixture, ← hrecords]
  rcases hkind with hk | hk | hk
  · have hr :
        x ∈ ((DeclarationIndex.ofFiles files).toModel (packageScope (.ofFiles files)) registry).records.keys :=
      DeclarationIndex.mem_records_of_kindOf? hk
    simp [hk, hr]
  · simp [hk]
  · simp [hk]

end Package

/-- **Calls without a function.** When the fixture file of a package is written, every field of every record
has a value, and a call in it is that of a function which the file defines, unless it is of an enumeration
that lacks one. -/
theorem call_undefined_iff (files : List SourceFile) (registry : ExternalRegistry) (o : Options)
    (package : String)
    {text : String} (h : generate (.ofPackage registry files) package o registry = .ok text) :
    ∃ file, FixtureFile.ofModel (.ofPackage registry files) package o registry = .ok file ∧ text = file.render o ∧
      ∀ r ∈ (TypeModel.ofPackage registry files).records.values, ∀ f ∈ r.fields,
        ∃ v, valueOf (.ofPackage registry files) o registry f.name r.name f.type = .ok v ∧
          ∀ x ∈ v.calls, (o.fixtureName x ∉ file.functionNames o ↔
            (DeclarationIndex.ofFiles files).LacksFixture x) := by
  obtain ⟨file, hfile, rfl⟩ := map_eq_ok_iff.1 h
  refine ⟨file, hfile, rfl, fun r hr f hf => ?_⟩
  -- the file has a function for `r`, and that has a value for `f`
  obtain ⟨fs, hfs, -⟩ := bind_eq_ok_iff.1 hfile
  obtain ⟨_, -, hrf⟩ := exists_right_of_forall₂ (mapM_eq_ok_iff.1 hfs) (Catalogue.mem_sortedValues_iff.2 hr)
  obtain ⟨vs, hvs, -⟩ := map_eq_ok_iff.1 hrf
  obtain ⟨⟨_, v⟩, -, -, hv⟩ := exists_right_of_forall₂ (Value.ofFields_eq_ok_iff.1 hvs) hf
  exact ⟨v, hv, fun x hx => not_mem_functionNames_iff hfile (Value.mentions_of_mem_calls hr hf hv hx)⟩

/-- A package with a car whose paint is of an enumeration that has the blank name alone. -/
def paintedCar : SourceFile where
  package := "p"
  types := [⟨"Color", .name "int", 3, false, false⟩,
    ⟨"Car", .struct [⟨["Paint"], .name "Color", none⟩], 7, false, false⟩]
  constGroups := [[⟨["_"], some (.name "Color"), true, 5⟩]]

/-- The fixture file of the painted car: it calls `FixtureColor` and has `FixtureCar` alone. -/
def paintedCarFixtures : String :=
  "package fixtures\n\nfunc ptr[T any](v T) *T \x7b return &v \x7d\n\nfunc FixtureCar() Car \x7b\n\treturn Car\x7b\n"
    ++ "\t\tPaint: FixtureColor(),\n\t\x7d\n\x7d\n\n"

theorem call_undefined_iff_paintedCar :
    generate (.ofPackage .standard [paintedCar]) "fixtures" ⟨"", "", .plain⟩ .standard = .ok paintedCarFixtures ∧
    ∃ file, FixtureFile.ofModel (.ofPackage .standard [paintedCar]) "fixtures" ⟨"", "", .plain⟩ .standard =
      .ok file ∧
      paintedCarFixtures = file.render ⟨"", "", .plain⟩ ∧
      ∀ r ∈ (TypeModel.ofPackage .standard [paintedCar]).records.values, ∀ f ∈ r.fields,
        ∃ v, valueOf (.ofPackage .standard [paintedCar]) ⟨"", "", .plain⟩ .standard f.name r.name f.type = .ok v ∧
          ∀ x ∈ v.calls, ("Fixture" ++ "" ++ x ∉ file.functionNames ⟨"", "", .plain⟩ ↔
            (DeclarationIndex.ofFiles [paintedCar]).LacksFixture x) :=
  have h : generate (.ofPackage .standard [paintedCar]) "fixtures" ⟨"", "", .plain⟩ .standard =
      .ok paintedCarFixtures := by decide +kernel
  ⟨h, call_undefined_iff [paintedCar] .standard ⟨"", "", .plain⟩ "fixtures" h⟩

/-- **A call without a function.** The value of the car's paint calls a function that its file does not define. -/
theorem paintedCar_calls_undefined :
    ∃ file, FixtureFile.ofModel (.ofPackage .standard [paintedCar]) "fixtures" {} .standard = .ok file ∧
      ∃ r ∈ (TypeModel.ofPackage .standard [paintedCar]).records.values, ∃ f ∈ r.fields,
        ∃ v, valueOf (.ofPackage .standard [paintedCar]) {} .standard f.name r.name f.type = .ok v ∧
          ∃ x ∈ v.calls, ({} : Options).fixtureName x ∉ file.functionNames {} := by
  have hnames : (FixtureFile.ofModel (.ofPackage .standard [paintedCar]) "fixtures" {} .standard).map
      (FixtureFile.functionNames {}) = .ok ["FixtureCar"] := by decide +kernel
  obtain ⟨file, hfile, hnames⟩ := map_eq_ok_iff.1 hnames
  have hr : (⟨"Car", [⟨"Paint", .enumeration "Color"⟩]⟩ : Record) ∈
      (TypeModel.ofPackage .standard [paintedCar]).records.values := by decide +kernel
  refine ⟨file, hfile, _, hr, _, List.mem_singleton_self _, .fixture "Color", rfl, "Color", ?_, ?_⟩
  · exact List.mem_singleton_self _
  · rw [hnames]
    decide

end GoFixtures
