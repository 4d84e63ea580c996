import GoFixtures.Proofs.Calls
import GoFixtures.Proofs.ModelNames

/-!
# Models of packages are closed

The model of a package refers to nothing that it does not hold. References come from the index, which knows
the last declaration of each name, and declarations are entered one by one; `TypeModel.Closed` is where the
two agree.

* `TypeModel.Resolves`: what a reference names is there.
* `TypeModel.Closed`: names and keys, fields, values, and members of sum types are as they have to be.
* `closed_ofPackage`: the model of files that were parsed.
-/

namespace GoFixtures

open Go

/-- Whether all names in a reference are there: those of declarations in the model, those of external types in
the registry. -/
def TypeModel.Resolves (m : TypeModel) (registry : ExternalRegistry) : TypeRef → Prop
  | .primitive n => isPrimitiveName n
  | .record n => n ∈ m.records.keys
  | .enumeration n => n ∈ m.enumerations.keys
  | .typeAlias n => n ∈ m.aliases.keys
  | .sumType n => n ∈ m.sumTypes.keys
  | .external n => registry.contains n
  | .pointer e | .sequence e => m.Resolves registry e
  | .unresolved _ => True

/-- **Closed models.**

* `records`, `enumerations`, `aliases`: a declaration has the name that it is found under, and that is
  exported. An enumeration has values, and an alias stands for a primitive type.
* `fields`: the fields of records are exported, none is reserved, and their types resolve.
* `sumTypes`: sum types are called like one, and a record that stands for the members of one is there and
  matches it. -/
structure TypeModel.Closed (m : TypeModel) (registry : ExternalRegistry) : Prop where
  records : ∀ k r, m.records.get? k = some r → r.name = k ∧ isExported k
  enumerations : ∀ k e, m.enumerations.get? k = some e → e.name = k ∧ isExported k ∧ e.values ≠ []
  aliases : ∀ k a, m.aliases.get? k = some a → a.name = k ∧ isExported k ∧ isPrimitiveName a.underlying
  fields : ∀ k r, m.records.get? k = some r →
    ∀ f ∈ r.fields, isExported f.name ∧ f.name ∉ reservedFields ∧ m.Resolves registry f.type
  sumTypes : ∀ s member, m.sumTypes.get? s = some member →
    isSumTypeName s ∧ ∀ r ∈ member, r ∈ m.records.keys ∧ matchesMember s r

namespace DeclarationIndex

variable {index : DeclarationIndex} {files : List SourceFile} {scope : Scope} {registry : ExternalRegistry}
    {name primitive : String}

/-! ### What the index follows and collects -/

theorem isPrimitiveName_of_underlyingWithin {steps : Nat}
    (h : index.underlyingWithin steps name = some primitive) :
    isPrimitiveName primitive := by
  induction steps generalizing name with
  | zero => cases h
  | succ steps ih =>
    rw [underlyingWithin] at h
    split at h
    · rename_i target _
      by_cases hp : isPrimitiveName target
      · rw [if_pos hp] at h
        exact Option.some.inj h ▸ hp
      · rw [if_neg hp] at h
        exact ih h
    · cases h

/-- No type has an empty list of constants. -/
def ValuesNonempty (values : Catalogue (List String)) : Prop :=
  ∀ type names, values.get? type = some names → names ≠ []

theorem valuesNonempty_ofFiles (h : ∀ file ∈ files, ∀ group ∈ file.constGroups, ∀ spec ∈ group, spec.names ≠ []) :
    ValuesNonempty (ofFiles files).enumValues := by
  have hempty : ValuesNonempty .empty := by
    intro type names ht
    cases ht
  refine enumValues_induction hempty fun values type spec hv ⟨file, hf, group, hg, hs⟩ t names ht => ?_
  rw [addValues, Catalogue.get?_put] at ht
  split at ht
  · -- the names of the line come behind those that are there
    obtain rfl := Option.some.inj ht
    exact List.append_ne_nil_of_right_ne_nil _ (h file hf group hg spec hs)
  · exact hv t names ht

/-! ### What references name -/

theorem isExported_of_kindOf? {kind : DeclarationKind} (h : index.kindOf? name = some kind)
    (hk : kind ≠ .interface) :
    isExported name := by
  obtain ⟨spec, -, -, hspec⟩ := kindOf?_eq_some_iff.1 h
  cases kind with
  | interface => exact absurd rfl hk
  | record | enumeration | typeAlias => exact hspec.1

/-- A name that denotes an interface and is called like a sum type is one of the model. -/
theorem mem_sumTypes_of_kindOf? (h : (ofFiles files).kindOf? name = some .interface) (hs : isSumTypeName name) :
    name ∈ ((ofFiles files).toModel scope registry).sumTypes.keys := by
  obtain ⟨spec, hb, hg, methods, ht⟩ := kindOf?_eq_some_iff.1 h
  obtain ⟨hspec, rfl⟩ := mem_specs_of_byName hb
  refine mem_sumTypes_iff.2 ⟨spec, hspec, ?_, rfl⟩
  simp [declaresSumType, ht, hg, hs]

/-- **References.** What the scope of a package admits resolves in its model. -/
theorem resolves_of_admitted {t : TypeRef} (h : t.Admitted (packageScope (ofFiles files)) registry) :
    (TypeModel.ofPackage registry files).Resolves registry t := by
  induction t with
  | primitive n => exact h
  | external n => exact h
  | unresolved => trivial
  | pointer e ih => exact ih h
  | sequence e ih => exact ih h
  | record n => exact mem_records_of_kindOf? h
  | enumeration n => exact Catalogue.mem_keys_iff.2 ⟨_, get?_enumerations_iff.2 ⟨h, rfl⟩⟩
  | sumType n => exact mem_sumTypes_of_kindOf? h.1 h.2
  | typeAlias n =>
    -- the alias has a primitive type, since the name denotes one
    obtain ⟨spec, -, rfl, primitive, hp⟩ := exists_primitiveKind? h (.inr rfl)
    have hu := (primitiveKind?_eq_some_iff.1 hp).2.2.2.2
    exact Catalogue.mem_keys_iff.2 ⟨⟨_, primitive⟩, get?_aliases_iff.2 ⟨h, rfl, hu⟩⟩

end DeclarationIndex

open DeclarationIndex

/-- **The model of a package is closed**, whatever its files declare: the same name more than once, generic
types, types that are not exported, and chains of named types. -/
theorem closed_ofPackage {files : List SourceFile}
    (h : ∀ file ∈ files, ∃ source, SourceFile.parse source = .ok file)
    (registry : ExternalRegistry) : (TypeModel.ofPackage registry files).Closed registry where
  records := by
    intro k r hr
    obtain ⟨spec, -, hspec, rfl⟩ := exists_recordOf? hr
    obtain ⟨-, hx, fields, -, rfl⟩ := recordOf?_eq_some_iff.1 hspec
    exact ⟨rfl, hx⟩
  enumerations := by
    intro k e he
    obtain ⟨hk, rfl⟩ := get?_enumerations_iff.1 he
    have hnames : ∀ file ∈ files, ∀ group ∈ file.constGroups, ∀ spec ∈ group, spec.names ≠ [] := by
      intro file hf
      obtain ⟨source, hs⟩ := h file hf
      exact SourceFile.names_ne_nil_of_parse hs
    refine ⟨rfl, isExported_of_kindOf? hk (by decide), ?_⟩
    -- the name denotes an enumeration because it has constants
    obtain ⟨spec, -, -, -, -, -, -, hc⟩ := kindOf?_eq_some_iff.1 hk
    cases hv : (ofFiles files).enumValues.get? k with
    | none => simp [Catalogue.contains, hv] at hc
    | some names => exact valuesNonempty_ofFiles hnames k names hv
  aliases := by
    intro k a ha
    obtain ⟨hk, hn, hu⟩ := get?_aliases_iff.1 ha
    exact ⟨hn, isExported_of_kindOf? hk (by decide), isPrimitiveName_of_underlyingWithin hu⟩
  fields := by
    intro k r hr f hf
    obtain ⟨spec, -, hspec, -⟩ := exists_recordOf? hr
    obtain ⟨-, -, fields, -, rfl⟩ := recordOf?_eq_some_iff.1 hspec
    obtain ⟨d, -, -, hkeep, ht⟩ := mem_recordFields_iff.1 hf
    simp only [keepsField, Bool.and_eq_true, Bool.not_eq_true', List.contains_eq_mem,
      decide_eq_false_iff_not] at hkeep
    rw [ht]
    exact ⟨hkeep.2, hkeep.1, resolves_of_admitted (admitted_classify _ registry d.type)⟩
  sumTypes := by
    intro s member hs
    have hkey : s ∈ (TypeModel.ofPackage registry files).sumTypes.keys := Catalogue.mem_keys_iff.2 ⟨member, hs⟩
    obtain ⟨spec, -, hsum, rfl⟩ := mem_sumTypes_iff.1 hkey
    refine ⟨?_, fun r hr => ?_⟩
    · unfold declaresSumType at hsum
      split at hsum
      · exact (Bool.and_eq_true_iff.1 hsum).2
      · cases hsum
    · rw [Option.mem_def.1 hr] at hs
      exact membersMatch_toModel spec.name r hs

/-- Two files of one package. `Color` is declared three times, once as a struct, `Shade` stands for `int` by
way of it, `Box` is generic, and the sum type `isCar_Part` is not exported. -/
def garageSources : List String :=
  ["package p\n\ntype Color int\n\ntype Shade Color\n\nconst (\n\tRed Color = iota\n\tBlue\n)\n\ntype Box[T any] struct \x7b\n\tV T\n\x7d\n"
    ++ "\ntype isCar_Part interface \x7b\n\tisCar_Part()\n\x7d\n\ntype Car_Wheel struct \x7b\n\tSize int\n\x7d\n",
   "package p\n\ntype Car struct \x7b\n\tstate int\n\tPaint *Color\n\tTones []Shade\n\tPart isCar_Part\n\tLid Box\n"
    ++ "\tBuilt time.Time\n\x7d\n\ntype Color struct \x7b\n\x7d\n\ntype Color int\n"]

/-- Their model. -/
def garageModel : TypeModel where
  records := .ofList [("Car_Wheel", ⟨"Car_Wheel", [⟨"Size", .primitive "int"⟩]⟩),
    ("Car", ⟨"Car", [⟨"Paint", .pointer (.enumeration "Color")⟩, ⟨"Tones", .sequence (.typeAlias "Shade")⟩,
      ⟨"Part", .sumType "isCar_Part"⟩, ⟨"Lid", .unresolved "Box"⟩, ⟨"Built", .external "Time"⟩]⟩),
    ("Color", ⟨"Color", []⟩)]
  enumerations := .ofList [("Color", ⟨"Color", ["Red", "Blue"]⟩)]
  aliases := .ofList [("Shade", ⟨"Shade", "int"⟩)]
  sumTypes := .ofList [("isCar_Part", some "Car_Wheel")]

theorem closed_ofPackage_garage :
    (garageSources.mapM SourceFile.parse).map (TypeModel.ofPackage .standard) = .ok garageModel ∧
      garageModel.Closed .standard := by
  have h : (garageSources.mapM SourceFile.parse).map (TypeModel.ofPackage .standard) = .ok garageModel := by
    decide +kernel
  obtain ⟨files, hfiles, hmodel⟩ := map_eq_ok_iff.1 h
  have hparsed : ∀ file ∈ files, ∃ source, SourceFile.parse source = .ok file := by
    intro file hf
    obtain ⟨source, -, hs⟩ := exists_left_of_forall₂ (mapM_eq_ok_iff.1 hfiles) hf
    exact ⟨source, hs⟩
  exact ⟨h, hmodel ▸ closed_ofPackage hparsed .standard⟩

end GoFixtures
