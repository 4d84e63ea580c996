import GoFixtures.Declarations.SingleText
import GoFixtures.Proofs.Declared
import GoFixtures.Proofs.Go.Names

/-!
# The names in a model

A model is made of the names in its files. All of them are names, so they can be written without quotes
wherever a name can stand.

* `DeclarationIndex.named_toModel`: the names in the model of an index.
* `TypeModel.named_ofSource`: those in the model of a text.
-/

namespace GoFixtures

open Go

/-- A reference to a name; a spelling that could be resolved to nothing does not count. -/
def TypeRef.Named : TypeRef → Prop
  | primitive n | record n | enumeration n | typeAlias n | sumType n | external n => IsName n
  | pointer e | sequence e => e.Named
  | unresolved _ => True

theorem named_classifyName {scope : Scope} {registry : ExternalRegistry} {n : String} (h : IsName n) :
    (classifyName scope registry n).Named := by
  unfold classifyName
  repeat' split
  all_goals first | exact h | exact trivial

theorem named_classify {scope : Scope} {registry : ExternalRegistry} {e : TypeExpr} (h : e.Named) :
    (classify scope registry e).Named := by
  induction h with
  | name h => exact named_classifyName h
  | qualified p h =>
    rw [classify]
    split
    · exact h
    · trivial
  | pointer _ ih | slice _ ih => exact ih
  | _ => trivial

/-- The names in a model, as far as they reach the fixtures. -/
structure TypeModel.Named (m : TypeModel) : Prop where
  records : ∀ r ∈ m.records.values, IsName r.name ∧ ∀ f ∈ r.fields, IsName f.name ∧ f.type.Named
  enumerations : ∀ e ∈ m.enumerations.values, IsName e.name ∧ ∀ v ∈ e.values, IsName v
  aliases : ∀ a ∈ m.aliases.values, IsName a.name
  members : ∀ s name, m.sumTypes.get? s = some (some name) → IsName name

namespace DeclarationIndex

variable {index : DeclarationIndex} {scope : Scope} {registry : ExternalRegistry} {files : List SourceFile}

/-! ### Constants -/

/-- The constants of each type are names. -/
def ValuesNamed (values : Catalogue (List String)) : Prop :=
  ∀ type names, values.get? type = some names → ∀ n ∈ names, IsName n

theorem valuesNamed_addValues {values : Catalogue (List String)} {type : String} {names : List String}
    (h : ValuesNamed values)
    (hn : ∀ n ∈ names, IsName n) : ValuesNamed (addValues values type names) := by
  intro t ns ht n hns
  rw [addValues, Catalogue.get?_put] at ht
  split at ht
  · obtain rfl := Option.some.inj ht
    rcases List.mem_append.1 hns with hns | hns
    · cases hold : values.get? type with
      | none => simp [hold] at hns
      | some old =>
        rw [hold, Option.getD_some] at hns
        exact h type old hold n hns
    · exact hn n hns
  · exact h t ns ht n hns

theorem valuesNamed_ofFiles (h : ∀ file ∈ files, file.Named) : ValuesNamed (ofFiles files).enumValues := by
  refine enumValues_induction (fun _ _ ht => by cases ht) fun values type spec hv ⟨file, hf, group, hg, hs⟩ => ?_
  exact valuesNamed_addValues hv ((h file hf).constants group hg spec hs)

/-! ### The model -/

theorem specs_ofFiles (h : ∀ file ∈ files, file.Named) {spec : TypeSpec} (hs : spec ∈ (ofFiles files).specs) :
    IsName spec.name ∧ spec.type.Named := by
  obtain ⟨file, hf, hs⟩ := List.mem_flatMap.1 hs
  exact (h file hf).types spec hs

/-- **All names in the model of files are names.** -/
theorem named_toModel (h : ∀ file ∈ files, file.Named) : ((ofFiles files).toModel scope registry).Named where
  records := by
    intro r hr
    obtain ⟨name, hr⟩ := Catalogue.mem_values_iff.1 hr
    -- the fields are those of the struct that was declared
    obtain ⟨spec, hs, hr, -⟩ := exists_recordOf? hr
    obtain ⟨-, -, fields, htype, rfl⟩ := recordOf?_eq_some_iff.1 hr
    obtain ⟨hname, hn⟩ := specs_ofFiles h hs
    rw [htype] at hn
    cases hn with
    | struct names types =>
      refine ⟨hname, fun f hf => ?_⟩
      obtain ⟨d, hd, hfn, -, ht⟩ := mem_recordFields_iff.1 hf
      exact ⟨names d hd f.name hfn, ht ▸ named_classify (types d hd)⟩
  enumerations := by
    intro e he
    obtain ⟨name, he⟩ := Catalogue.mem_values_iff.1 he
    obtain ⟨hk, rfl⟩ := get?_enumerations_iff.1 he
    obtain ⟨spec, hs, rfl, -⟩ := exists_primitiveKind? hk (.inl rfl)
    refine ⟨(specs_ofFiles h hs).1, fun v hv => ?_⟩
    -- the values are the constants of the type, if there are any
    cases hvalues : (ofFiles files).enumValues.get? spec.name with
    | none => simp [hvalues] at hv
    | some names =>
      rw [hvalues, Option.getD_some] at hv
      exact valuesNamed_ofFiles h _ _ hvalues v hv
  aliases := by
    intro a ha
    obtain ⟨name, ha⟩ := Catalogue.mem_values_iff.1 ha
    obtain ⟨hk, rfl, -⟩ := get?_aliases_iff.1 ha
    obtain ⟨spec, hs, hname, -⟩ := exists_primitiveKind? hk (.inr rfl)
    exact hname ▸ (specs_ofFiles h hs).1
  members := by
    intro s member hm
    -- a member is a record of the model, and so it was declared
    obtain ⟨hr, -⟩ := membersMatch_toModel s member hm
    obtain ⟨spec, hs, rfl, -⟩ := mem_records_iff.1 hr
    exact (specs_ofFiles h hs).1

end DeclarationIndex

theorem TypeModel.named_ofSource {registry : ExternalRegistry} {source : String} {m : TypeModel}
    (h : TypeModel.ofSource registry source = .ok m) : m.Named := by
  unfold ofSource at h
  cases hp : SourceFile.parse source with
  | error e => simp [hp, Except.map] at h
  | ok file =>
    simp only [hp, Except.map, Except.ok.injEq] at h
    have hfile : ∀ f ∈ [file], f.Named := by simpa using SourceFile.named_of_parse hp
    exact h ▸ DeclarationIndex.named_toModel hfile

end GoFixtures
