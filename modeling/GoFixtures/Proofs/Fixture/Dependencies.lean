import GoFixtures.Fixture.FixtureFile
import GoFixtures.Proofs.Expansion
import GoFixtures.Proofs.Catalogue
import Mathlib.Data.List.Sort
import Mathlib.Data.String.Basic

/-!
# What a fixture file depends on

The file of a model is made with names and a registry. Of the model only what each name stands for matters, of
the options only the qualifier, and of the registry only the required imports and the external types that
fields refer to.

* `TypeModel.UsesExternal`: a field of some record refers to an external type, at whatever depth.
* `mem_collectImports_iff`, `pairwise_collectImports`: the imports, as a set and in their order.
* `Value.ofRef_congr`, `Value.expand_congr`: a value depends on the sum type or the external type that its
  reference ends in, and an expansion on the records that stand for members and on the external types in their
  fields.
* `FixtureFile.ofModel_congr`: and so does the file.
-/

namespace GoFixtures

/-- A reference is to an external type, at whatever depth. -/
def TypeRef.HasExternal (n : String) : TypeRef → Prop
  | external k => k = n
  | pointer e | sequence e => e.HasExternal n
  | _ => False

/-- A field of some record is of an external type, at whatever depth. -/
def TypeModel.UsesExternal (m : TypeModel) (n : String) : Prop :=
  ∃ r ∈ m.records.values, ∃ f ∈ r.fields, f.type.HasExternal n

/-- Each name stands for the same in both models. -/
structure TypeModel.Equiv (m m' : TypeModel) : Prop where
  records : m.records.Equiv m'.records
  enumerations : m.enumerations.Equiv m'.enumerations
  aliases : m.aliases.Equiv m'.aliases
  sumTypes : m.sumTypes.Equiv m'.sumTypes

variable {m m' : TypeModel} {o o' : Options} {registry registry' : ExternalRegistry} {n : String}

theorem TypeModel.Equiv.refl (m : TypeModel) : m.Equiv m := ⟨.refl _, .refl _, .refl _, .refl _⟩

/-- The external type of a reference is the one that its leaf names. -/
theorem TypeRef.hasExternal_iff {t : TypeRef} : t.HasExternal n ↔ t.leaf = .external n := by
  induction t with
  | pointer e ih | sequence e ih => exact ih
  | external k => exact (external.injEq k n).symm ▸ Iff.rfl
  | _ => simp [HasExternal, leaf]

/-! ### Imports -/

/-- The external type of a field, if there is one. -/
theorem externalOf?_eq_some_iff {f : Field} : externalOf? f = some n ↔ f.type.HasExternal n := by
  rw [TypeRef.hasExternal_iff]
  unfold externalOf?
  split
  · rename_i k hk
    rw [hk, Option.some.injEq, TypeRef.external.injEq]
  · rename_i hk
    simp only [reduceCtorEq, false_iff]
    exact hk n

/-- The external types that are collected are those that are used. -/
theorem mem_usedExternals_iff : n ∈ usedExternals m ↔ m.UsesExternal n := by
  simp only [usedExternals, List.mem_flatMap, List.mem_filterMap, externalOf?_eq_some_iff, TypeModel.UsesExternal]

/-- Of sorted strings the first of each is kept, and they are strictly increasing. -/
theorem pairwise_eraseDups {ss : List String} (h : ss.Pairwise (· ≤ ·)) : ss.eraseDups.Pairwise (· < ·) := by
  induction hn : ss.length using Nat.strong_induction_on generalizing ss with
  | _ k ih =>
    cases ss with
    | nil => simp
    | cons s ss =>
      obtain ⟨hs, hss⟩ := List.pairwise_cons.1 h
      have hlen : (ss.filter fun b => !b == s).length < k := by
        have hle := List.length_filter_le (fun b => !b == s) ss
        rw [List.length_cons] at hn
        omega
      rw [List.eraseDups_cons, List.pairwise_cons]
      refine ⟨fun t ht => ?_, ih _ hlen (hss.filter _) rfl⟩
      -- what is left behind `s` is not less than it, and not equal to it
      obtain ⟨ht, hne⟩ := List.mem_filter.1 (List.mem_eraseDups.1 ht)
      have hne : t ≠ s := by simpa using hne
      exact lt_of_le_of_ne (hs t ht) hne.symm

/-- Sorting and dropping repetitions changes no member. -/
theorem mem_sortedDistinct {ss : List String} {s : String} : s ∈ sortedDistinct ss ↔ s ∈ ss := by
  rw [sortedDistinct, List.mem_eraseDups, List.mem_mergeSort]

/-- What is sorted without repetitions is in strict order. -/
theorem pairwise_sortedDistinct {ss : List String} : (sortedDistinct ss).Pairwise (· < ·) :=
  pairwise_eraseDups (pairwise_mergeSort_key id ss)

/-- **The imports**: if an external type is used at all, those that are required and those of the external
types that are used. -/
theorem mem_collectImports_iff {i : String} : i ∈ collectImports m registry ↔ (∃ n, m.UsesExternal n) ∧
    (i ∈ registry.requiredImports ∨
      ∃ n, m.UsesExternal n ∧ ∃ x, registry.get? n = some x ∧ x.importSpec = i) := by
  simp only [← mem_usedExternals_iff]
  unfold collectImports
  cases usedExternals m with
  | nil => simp
  | cons k ks =>
    rw [mem_sortedDistinct, List.mem_append, List.mem_filterMap]
    simp only [Option.map_eq_some_iff]
    exact ⟨fun h => ⟨⟨k, List.mem_cons_self⟩, h⟩, And.right⟩

/-- Imports are in strict order. -/
theorem pairwise_collectImports : (collectImports m registry).Pairwise (· < ·) := by
  unfold collectImports
  split
  · exact List.Pairwise.nil
  · exact pairwise_sortedDistinct

/-- Which external types are used does not depend on the order of the records. -/
theorem usesExternal_congr (hm : m.records.Equiv m'.records) : m.UsesExternal n ↔ m'.UsesExternal n := by
  simp only [TypeModel.UsesExternal, hm.mem_values_iff]

/-- Imports depend on the records, the required imports and the external types that are used. -/
theorem collectImports_congr (hm : m.records.Equiv m'.records)
    (hi : registry.requiredImports = registry'.requiredImports)
    (hr : ∀ n, m.UsesExternal n → registry.get? n = registry'.get? n) :
    collectImports m registry = collectImports m' registry' := by
  refine pairwise_collectImports.eq_of_mem_iff pairwise_collectImports fun i => ?_
  have huse : ∀ n, m.UsesExternal n ↔ m'.UsesExternal n := fun n => usesExternal_congr hm
  rw [mem_collectImports_iff, mem_collectImports_iff, hi]
  simp only [← huse]
  refine and_congr_right fun _ => or_congr_right (exists_congr fun n => and_congr_right fun hn => ?_)
  rw [hr n hn]

/-! ### Values -/

theorem Options.qualify_congr (hq : o.qualifier = o'.qualifier) : o.qualify n = o'.qualify n := by
  unfold Options.qualify
  rw [hq]

/-- The name of a type depends on the qualifier and on one external type at most. -/
theorem typeName_congr (hq : o.qualifier = o'.qualifier) {t : TypeRef}
    (hr : ∀ n, t.leaf = .external n → registry.get? n = registry'.get? n) :
    typeName o registry t = typeName o' registry' t := by
  induction t with
  | pointer e ih | sequence e ih => rw [typeName, typeName, ih hr]
  | external k => rw [typeName, typeName, hr k rfl]
  | record k | enumeration k | typeAlias k => exact Options.qualify_congr hq
  | _ => rfl

namespace Value

variable {expand expand' : String → Except CyclicExpansion Value} {field enclosing : String} {t : TypeRef}

/-- The value of an external type depends on its own entry only. -/
theorem ofExternal_congr (hr : registry.get? n = registry'.get? n) :
    ofExternal registry n = ofExternal registry' n := by
  unfold ofExternal
  rw [hr]

/-- The value of a reference depends on the expansion of the sum type, or on the external type, that it ends
in. -/
theorem ofRef_congr (hq : o.qualifier = o'.qualifier) (hx : ∀ s, t.leaf = .sumType s → expand s = expand' s)
    (hr : ∀ n, t.leaf = .external n → registry.get? n = registry'.get? n) :
    ofRef o registry expand field enclosing t = ofRef o' registry' expand' field enclosing t := by
  fun_induction ofRef o registry expand field enclosing t with
  | case5 s => exact hx s rfl
  | case7 n hc | case8 n hc =>
    have hn := hr n rfl
    have hc' : registry'.contains n = registry.contains n := congrArg Option.isSome hn.symm
    simp [ofRef, hc', hc, ofExternal_congr hn]
  | case9 t hu he ih =>
    rw [ih hx hr, ofRef]
    · exact hu
    · exact he
  | case10 t ih => rw [ih hx hr, ofRef, typeName_congr (t := t) hq hr]
  | case11 n => rw [ofRef, ofExternal_congr (hr n rfl)]
  | _ => rfl

/-- The values of fields depend on the sum types and external types of these fields. -/
theorem ofFields_congr (hq : o.qualifier = o'.qualifier) {fs : List Field}
    (hx : ∀ f ∈ fs, ∀ s, f.type.leaf = .sumType s → expand s = expand' s)
    (hr : ∀ f ∈ fs, ∀ n, f.type.leaf = .external n → registry.get? n = registry'.get? n) :
    ofFields o registry expand enclosing fs = ofFields o' registry' expand' enclosing fs := by
  induction fs with
  | nil => rfl
  | cons f fs ih =>
    rw [List.forall_mem_cons] at hx hr
    rw [ofFields, ofFields, ofRef_congr hq hx.1 hr.1, ih hx.2 hr.2]

/-- A sum type without a member stands for nothing. -/
theorem ofSumType_none {budget : Nat} {s : String} (h : m.member? s = none) :
    ofSumType m o registry budget s = .ok nothing := by
  rw [ofSumType, h]

/-- Without a budget only a member without fields has a value. -/
theorem ofSumType_zero {s name : String} (h : m.member? s = some name) : ofSumType m o registry 0 s =
    if fieldsOf m name = [] then .ok (member (o.qualify name) []) else .error ⟨s⟩ := by
  rw [ofSumType, h]
  cases hf : fieldsOf m name <;> simp [hf]

/-- An expansion uses one unit of its budget for the fields of the member. -/
theorem ofSumType_succ {budget : Nat} {s name : String} (h : m.member? s = some name) :
    ofSumType m o registry (budget + 1) s =
      (ofFields o registry (ofSumType m o registry budget) name (fieldsOf m name)).map
        (member (o.qualify name)) := by
  rw [ofSumType, h]
  cases hf : fieldsOf m name with
  | nil => simp only [hf]; rfl
  | cons f fs => simp only [hf]

/-- **Expansions.** They depend on the records that stand for the members of sum types, on the external types
in the fields of these, and on how many sum types there are. -/
theorem expand_congr (hq : o.qualifier = o'.qualifier) (hlen : m.sumTypes.keys.length = m'.sumTypes.keys.length)
    (hm : ∀ s, m.member? s = m'.member? s)
    (hf : ∀ s name, m.member? s = some name → fieldsOf m name = fieldsOf m' name)
    (hr : ∀ s name, m.member? s = some name → ∀ f ∈ fieldsOf m name, ∀ n, f.type.leaf = .external n →
      registry.get? n = registry'.get? n) (s : String) : Value.expand m o registry s =
        Value.expand m' o' registry' s := by
  have hbudget : ∀ budget s, ofSumType m o registry budget s = ofSumType m' o' registry' budget s := by
    intro budget
    induction budget with
    | zero =>
      intro s
      cases hs : m.member? s with
      | none => rw [ofSumType_none hs, ofSumType_none (hm s ▸ hs)]
      | some name => rw [ofSumType_zero hs, ofSumType_zero (hm s ▸ hs), hf s name hs, Options.qualify_congr hq]
    | succ budget ih =>
      intro s
      cases hs : m.member? s with
      | none => rw [ofSumType_none hs, ofSumType_none (hm s ▸ hs)]
      | some name =>
        have hfields : ofFields o registry (ofSumType m o registry budget) name (fieldsOf m name) =
            ofFields o' registry' (ofSumType m' o' registry' budget) name (fieldsOf m name) :=
          ofFields_congr hq (fun _ _ s _ => ih s) (hr s name hs)
        rw [ofSumType_succ hs, ofSumType_succ (hm s ▸ hs), hfields, hf s name hs, Options.qualify_congr hq]
  rw [Value.expand, Value.expand, hlen, hbudget]

end Value

/-- A field of a record of the model uses its external type. -/
theorem usesExternal_of_mem_fieldsOf {name : String} {f : Field} (hf : f ∈ Value.fieldsOf m name)
    (ht : f.type.leaf = .external n) :
    m.UsesExternal n := by
  obtain ⟨r, hr, hf⟩ := Value.mem_fieldsOf.1 hf
  exact ⟨r, Catalogue.mem_values_iff.2 ⟨name, hr⟩, f, hf, TypeRef.hasExternal_iff.2 ht⟩

/-- An expansion is the same in models that differ in their order only. -/
theorem TypeModel.Equiv.expand_eq (hm : m.Equiv m') (hq : o.qualifier = o'.qualifier)
    (hr : ∀ n, m.UsesExternal n → registry.get? n = registry'.get? n) (s : String) :
    Value.expand m o registry s = Value.expand m' o' registry' s := by
  refine Value.expand_congr hq hm.sumTypes.length_keys_eq (fun s => ?_) (fun _ name _ => ?_)
    (fun _ name _ f hf n hn => ?_) s
  · unfold member?
    rw [hm.sumTypes s]
  · unfold Value.fieldsOf
    rw [hm.records name]
  · exact hr n (usesExternal_of_mem_fieldsOf hf hn)

namespace FixtureFile

/-- The file of a model, by the functions of its records. -/
theorem ofModel_eq_ok_iff {package : String} {file : FixtureFile} : ofModel m package o registry = .ok file ↔
    ∃ records, m.records.sortedValues.mapM (FixtureFunction.ofRecord m o registry) = .ok records ∧
      file = ⟨package, collectImports m registry, m.aliases.sortedValues.map (FixtureFunction.ofAlias o)
        ++ m.enumerations.sortedValues.filterMap (FixtureFunction.ofEnumeration? o) ++ records⟩ := by
  rw [ofModel, bind_eq_ok_iff]
  constructor
  · rintro ⟨records, hrecords, hfile⟩
    exact ⟨records, hrecords, (Except.ok.inj hfile).symm⟩
  · rintro ⟨records, hrecords, rfl⟩
    exact ⟨records, hrecords, rfl⟩

/-- **A file in full**: the package clause, an import declaration with a line for each import if there is one,
the helper, and the functions one behind the other. -/
theorem render_eq (f : FixtureFile) : f.render o = "package " ++ f.package ++ "\n\n" ++
    (if f.imports = [] then "" else "import (\n" ++
      String.join (f.imports.map fun i => "\t" ++ i ++ "\n") ++ ")\n\n") ++
    "func ptr[T any](v T) *T \x7b return &v \x7d\n\n" ++
      String.join (f.functions.map (FixtureFunction.render o)) := by
  have himports : importBlock f.imports = if f.imports = [] then "" else
      "import (\n" ++ String.join (f.imports.map fun i => "\t" ++ i ++ "\n") ++ ")\n\n" := by
    cases f.imports <;> rfl
  have hhelper : "func ptr[T any](v T) *T \x7b return &v \x7d\n\n" = pointerHelper ++ "\n\n" := by decide
  rw [render, himports, hhelper]
  simp only [String.append_assoc]

/-- The imports of a file do not depend on its functions. -/
theorem exists_functions_of_ofModel {package : String} {file : FixtureFile}
    (h : ofModel m package o registry = .ok file) :
    ∃ functions, file = ⟨package, collectImports m registry, functions⟩ := by
  obtain ⟨records, -, rfl⟩ := ofModel_eq_ok_iff.1 h
  exact ⟨_, rfl⟩

/-- The function of a record is the same in such models, too. -/
theorem ofRecord_congr (hm : m.Equiv m') (hq : o.qualifier = o'.qualifier)
    (hr : ∀ n, m.UsesExternal n → registry.get? n = registry'.get? n) {r : Record} (hrec : r ∈ m.records.values) :
    FixtureFunction.ofRecord m o registry r = FixtureFunction.ofRecord m' o' registry' r := by
  rw [FixtureFunction.ofRecord, FixtureFunction.ofRecord,
    Value.ofFields_congr hq (fun _ _ s _ => hm.expand_eq hq hr s) fun f hf n hn => ?_]
  exact hr n ⟨r, hrec, f, hf, TypeRef.hasExternal_iff.2 hn⟩

/-- **The file of a model** depends on what each name stands for, on the qualifier, and on the external types
that are used. -/
theorem ofModel_congr (hm : m.Equiv m') (hq : o.qualifier = o'.qualifier)
    (hi : registry.requiredImports = registry'.requiredImports)
    (hr : ∀ n, m.UsesExternal n → registry.get? n = registry'.get? n) (package : String) :
    ofModel m package o registry = ofModel m' package o' registry' := by
  have hrecords : m.records.sortedValues.mapM (FixtureFunction.ofRecord m o registry) =
      m'.records.sortedValues.mapM (FixtureFunction.ofRecord m' o' registry') := by
    rw [← hm.records.sortedValues_eq]
    exact mapM_congr_left fun r hrec => ofRecord_congr hm hq hr (Catalogue.mem_sortedValues_iff.1 hrec)
  have halias : FixtureFunction.ofAlias o = FixtureFunction.ofAlias o' := by
    funext a
    rw [FixtureFunction.ofAlias, FixtureFunction.ofAlias, Options.qualify_congr hq]
  have henum : FixtureFunction.ofEnumeration? o = FixtureFunction.ofEnumeration? o' := by
    funext e
    simp only [FixtureFunction.ofEnumeration?, Options.qualify_congr hq]
  rw [ofModel, ofModel, hrecords, collectImports_congr hm.records hi hr, halias, henum,
    hm.aliases.sortedValues_eq,
    hm.enumerations.sortedValues_eq]

end FixtureFile

end GoFixtures
