import GoFixtures.Proofs.Declared

/-!
# The members of sum types

Sum types are entered before all other declarations, and then each record that is declared becomes the member
of those it matches, unless they have one. So the member of a sum type is the first record that matches it,
and nothing else of the declarations matters.

* `get?_resolveSumTypes`: what becomes of a sum type when records are assigned one after the other.
* `sumTypes_toModel`, `get?_sumTypes_toModel`: the sum types of a model.
-/

namespace GoFixtures

open Go

/-- Whether a declaration is that of a record: an exported struct that is not generic. -/
def declaresRecord (spec : TypeSpec) : Bool :=
  match spec.type with
  | .struct _ => !spec.isGeneric && isExported spec.name
  | _ => false

theorem declaresRecord_iff {spec : TypeSpec} :
    declaresRecord spec ↔ spec.isGeneric = false ∧ isExported spec.name ∧
      ∃ fields, spec.type = .struct fields := by
  unfold declaresRecord
  cases spec.type <;> simp

theorem isSome_recordOf? {scope : Scope} {registry : ExternalRegistry} {spec : TypeSpec} :
    (recordOf? scope registry spec).isSome = declaresRecord spec := by
  unfold recordOf? declaresRecord
  cases spec.type <;> cases spec.isGeneric <;> cases isExported spec.name <;> rfl

namespace TypeModel

variable {m m' : TypeModel} {record s : String} {records sums : List String}

theorem sumTypes_assignMember_congr (h : m.sumTypes = m'.sumTypes) :
    (m.assignMember record).sumTypes = (m'.assignMember record).sumTypes := by
  rw [assignMember, assignMember, h]

theorem get?_assignMember : (m.assignMember record).sumTypes.get? s =
    (m.sumTypes.get? s).map fun member => member.or (if matchesMember s record then some record else none) := by
  rw [assignMember, Catalogue.get?_mapWithKey]
  cases m.sumTypes.get? s with
  | none => rfl
  | some member => cases member <;> simp [takesMember]

/-- **Assigning records.** A sum type without a member gets the first record that matches it. -/
theorem get?_resolveSumTypes : (m.resolveSumTypes records).sumTypes.get? s =
    (m.sumTypes.get? s).map fun member => member.or (records.find? fun record => matchesMember s record) := by
  induction records generalizing m with
  | nil => simp [resolveSumTypes]
  | cons record records ih =>
    have hstep : m.resolveSumTypes (record :: records) = (m.assignMember record).resolveSumTypes records := rfl
    rw [hstep, ih, get?_assignMember, Option.map_map]
    congr 1
    funext member
    cases member <;> cases h : matchesMember s record <;> simp [h]

theorem get?_registerSumType : (m.registerSumType record).sumTypes.get? s =
    (m.sumTypes.get? s).or (if record = s then some none else none) := by
  unfold registerSumType
  by_cases hc : m.sumTypes.contains record
  · rw [if_pos hc]
    by_cases hs : record = s
    · subst hs
      obtain ⟨member, hm⟩ := Option.isSome_iff_exists.1 hc
      rw [hm, Option.some_or]
    · rw [if_neg hs, Option.or_none]
  · rw [if_neg hc, Catalogue.get?_put]
    by_cases hs : record = s
    · subst hs
      have hm : m.sumTypes.get? record = none := Option.not_isSome_iff_eq_none.1 hc
      rw [if_pos rfl, if_pos rfl, hm, Option.none_or]
    · rw [if_neg hs, if_neg hs, Option.or_none]

theorem get?_registered : (sums.foldl registerSumType m).sumTypes.get? s =
    (m.sumTypes.get? s).or (if s ∈ sums then some none else none) := by
  induction sums generalizing m with
  | nil => simp
  | cons t sums ih =>
    rw [List.foldl_cons, ih, get?_registerSumType, Option.or_assoc]
    congr 1
    by_cases ht : t = s
    · simp [ht]
    · simp [ht, Ne.symm ht]

end TypeModel

namespace DeclarationIndex

variable {index : DeclarationIndex} {scope : Scope} {registry : ExternalRegistry}

/-- Only the records among the declarations matter to the sum types. -/
theorem sumTypes_foldl_addSpec {specs : List TypeSpec} {m m' : TypeModel} (h : m.sumTypes = m'.sumTypes) :
    (specs.foldl (index.addSpec scope registry) m).sumTypes =
      (m'.resolveSumTypes ((specs.filter declaresRecord).map TypeSpec.name)).sumTypes := by
  induction specs generalizing m m' with
  | nil => exact h
  | cons spec specs ih =>
    have hadd : (index.addSpec scope registry m spec).sumTypes =
        if declaresRecord spec then (m.assignMember spec.name).sumTypes else m.sumTypes := by
      rw [sumTypes_addSpec, isSome_recordOf?]
    rw [List.foldl_cons, List.filter_cons]
    cases hd : declaresRecord spec with
    | true =>
      rw [hd, if_pos rfl] at hadd
      rw [if_pos rfl, List.map_cons]
      exact ih (hadd.trans (TypeModel.sumTypes_assignMember_congr h))
    | false =>
      rw [hd, if_neg Bool.false_ne_true] at hadd
      rw [if_neg Bool.false_ne_true]
      exact ih (hadd.trans h)

variable (index scope registry)

/-- **The sum types of a model** are those that are declared, with records assigned in the order of their
declarations. -/
theorem sumTypes_toModel : (index.toModel scope registry).sumTypes =
    ((((index.specs.filter declaresSumType).map TypeSpec.name).foldl
      TypeModel.registerSumType .empty).resolveSumTypes
      ((index.specs.filter declaresRecord).map TypeSpec.name)).sumTypes :=
  sumTypes_foldl_addSpec rfl

/-- **The member of a sum type** is the first record that matches it. -/
theorem get?_sumTypes_toModel (s : String) : (index.toModel scope registry).sumTypes.get? s =
    if s ∈ (index.specs.filter declaresSumType).map TypeSpec.name then
      some (((index.specs.filter declaresRecord).map TypeSpec.name).find? fun record => matchesMember s record)
    else none := by
  have hempty : TypeModel.empty.sumTypes.get? s = none := rfl
  rw [sumTypes_toModel, TypeModel.get?_resolveSumTypes, TypeModel.get?_registered, hempty, Option.none_or]
  split <;> simp

end DeclarationIndex

end GoFixtures
