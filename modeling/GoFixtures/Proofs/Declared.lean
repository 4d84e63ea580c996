import GoFixtures.Declarations.Model
import GoFixtures.Proofs.Catalogue

/-!
# What a model holds of an index

`DeclarationIndex.toModel` goes through the declarations one by one. Each enters at most one record,
enumeration or alias, and which one can be said without the model it goes into: `recordOf?`, `enumerationOf?`,
`aliasOf?`.

* `records_toModel`, `enumerations_toModel`, `aliases_toModel`: so each catalogue is that of all the
  declarations.
* `mem_records_of_kindOf?`, `get?_enumerations_iff`, `get?_aliases_iff`: what the index says a name denotes is
  in the model under that name.
* `mem_sumTypes_iff`, `membersMatch_toModel`: the sum types are the interfaces that are called like one, and a
  record that stands for the members of one matches it.
* `admitted_classify`: and a reference in a field names a declaration only where the scope knows it.
-/

namespace GoFixtures

open Go

/-- The entries of what is there, under its name. -/
def entryOf {α : Type} (name : α → String) (a? : Option α) : Entries α := a?.toList.map fun a => (name a, a)

/-- The record that a declaration enters: that of a struct, if the declaration is exported and not generic. -/
def recordOf? (scope : Scope) (registry : ExternalRegistry) (spec : TypeSpec) : Option Record :=
  if spec.isGeneric || !isExported spec.name then none else
    match spec.type with
    | .struct fields => some ⟨spec.name, recordFields scope registry fields⟩
    | _ => none

namespace DeclarationIndex

/-- What a declaration that is no struct is entered as, with the primitive type that it stands for. -/
def primitiveKind? (index : DeclarationIndex) (spec : TypeSpec) : Option (DeclarationKind × String) :=
  if spec.isGeneric || !isExported spec.name then none else
    match spec.type with
    | .struct _ => none
    | _ =>
      match index.kindOf? spec.name, index.underlyingPrimitive? spec.name with
      | some kind, some primitive => some (kind, primitive)
      | _, _ => none

/-- The enumeration that a declaration enters. -/
def enumerationOf? (index : DeclarationIndex) (spec : TypeSpec) : Option Enumeration :=
  match index.primitiveKind? spec with
  | some (.enumeration, _) => some ⟨spec.name, (index.enumValues.get? spec.name).getD []⟩
  | _ => none

/-- The alias that a declaration enters. -/
def aliasOf? (index : DeclarationIndex) (spec : TypeSpec) : Option Alias :=
  match index.primitiveKind? spec with
  | some (.typeAlias, primitive) => some ⟨spec.name, primitive⟩
  | _ => none

end DeclarationIndex

/-- What the scope and the external types say of the names in a reference. -/
def TypeRef.Admitted (scope : Scope) (registry : ExternalRegistry) : TypeRef → Prop
  | primitive n => isPrimitiveName n
  | record n => scope n = some .record
  | enumeration n => scope n = some .enumeration
  | typeAlias n => scope n = some .typeAlias
  | sumType n => scope n = some .interface ∧ isSumTypeName n
  | external n => registry.contains n
  | pointer e | sequence e => e.Admitted scope registry
  | unresolved _ => True

section Classify

variable (scope : Scope) (registry : ExternalRegistry)

/-- The reference for a name refers to what is declared under it, or to nothing. -/
theorem admitted_classifyName (n : String) : (classifyName scope registry n).Admitted scope registry := by
  unfold classifyName
  split
  · assumption
  · split
    · assumption
    · split
      · assumption
      · assumption
      · assumption
      · split
        · exact ⟨‹_›, ‹_›⟩
        · trivial
      · trivial

/-- **A reference is what it says.** Classification names a record only where the scope knows one, and
likewise for all kinds of references. -/
theorem admitted_classify (e : TypeExpr) : (classify scope registry e).Admitted scope registry := by
  fun_induction classify scope registry e with
  | case1 n => exact admitted_classifyName scope registry n
  | case2 p n hn => exact hn
  | case4 e ih | case5 e ih => exact ih
  | _ => trivial

variable {scope registry}

/-- What is admitted of a reference is admitted of its leaf. -/
theorem TypeRef.Admitted.leaf {t : TypeRef} (h : t.Admitted scope registry) : t.leaf.Admitted scope registry := by
  induction t with
  | pointer e ih | sequence e ih => exact ih h
  | _ => exact h

/-- Where a field of a record comes from. -/
theorem mem_recordFields_iff {fields : List (FieldDecl TypeExpr)} {f : Field} :
    f ∈ recordFields scope registry fields ↔
    ∃ d ∈ fields, f.name ∈ d.names ∧ keepsField f.name ∧ f.type = classify scope registry d.type := by
  simp only [recordFields, List.mem_flatMap, List.mem_map, List.mem_filter]
  constructor
  · rintro ⟨d, hd, n, ⟨hn, hk⟩, rfl⟩; exact ⟨d, hd, hn, hk, rfl⟩
  · rintro ⟨d, hd, hn, hk, ht⟩; exact ⟨d, hd, f.name, ⟨hn, hk⟩, by rw [← ht]⟩

end Classify

namespace Catalogue

variable {σ τ α : Type}

theorem putAll_append {c : Catalogue α} {es fs : Entries α} : c.putAll (es ++ fs) = (c.putAll es).putAll fs :=
  List.foldl_append

/-- A part of a state that each step puts entries into holds in the end the entries of all steps. -/
theorem foldl_putAll (part : σ → Catalogue α) {step : σ → τ → σ} {entries : τ → Entries α}
    (h : ∀ s t, part (step s t) = (part s).putAll (entries t)) (ts : List τ) (s : σ) :
    part (ts.foldl step s) = (part s).putAll (ts.flatMap entries) := by
  induction ts generalizing s with
  | nil => rfl
  | cons t ts ih => rw [List.foldl_cons, ih, h, List.flatMap_cons, putAll_append]

variable {name : α → String} {f : τ → Option α} {ts : List τ} {k : String} {a : α}

/-- An entry comes from something that has one. -/
theorem mem_entriesOf : (k, a) ∈ ts.flatMap (fun t => entryOf name (f t)) ↔ ∃ t ∈ ts, f t = some a ∧
    name a = k := by
  simp only [entryOf, List.mem_flatMap, List.mem_map, Option.mem_toList, Prod.mk.injEq]
  constructor
  · rintro ⟨t, ht, a', ha, hk, rfl⟩; exact ⟨t, ht, ha, hk⟩
  · rintro ⟨t, ht, ha, hk⟩; exact ⟨t, ht, a, ha, hk, rfl⟩

/-- What such a catalogue finds comes from something that has an entry. -/
theorem get?_ofEntriesOf (h : (ofList (ts.flatMap fun t => entryOf name (f t))).get? k = some a) :
    ∃ t ∈ ts, f t = some a ∧ name a = k :=
  mem_entriesOf.1 (mem_of_get?_ofList h)

theorem mem_keys_ofEntriesOf :
    k ∈ (ofList (ts.flatMap fun t => entryOf name (f t))).keys ↔ ∃ t ∈ ts, ∃ a, f t = some a ∧ name a = k := by
  rw [mem_keys_ofList, Entries.keys, List.mem_map]
  constructor
  · rintro ⟨⟨_, a⟩, he, rfl⟩
    obtain ⟨t, ht, ha⟩ := mem_entriesOf.1 he
    exact ⟨t, ht, a, ha⟩
  · rintro ⟨t, ht, a, ha⟩
    exact ⟨(k, a), mem_entriesOf.2 ⟨t, ht, ha⟩, rfl⟩

end Catalogue

namespace TypeModel

variable {m : TypeModel} {s record name : String}

/-- The records that stand for the members of sum types are in the model and match them. -/
def MembersMatch (m : TypeModel) : Prop :=
  ∀ s r, m.sumTypes.get? s = some (some r) → r ∈ m.records.keys ∧ matchesMember s r

/-- Registering a sum type adds its name. -/
theorem mem_keys_registerSumType : name ∈ (m.registerSumType s).sumTypes.keys ↔ name = s ∨
    name ∈ m.sumTypes.keys := by
  unfold registerSumType
  by_cases hs : m.sumTypes.contains s
  · rw [if_pos hs, or_iff_right_of_imp]
    rintro rfl
    exact Catalogue.contains_iff_mem_keys.1 hs
  · rw [if_neg hs]
    have hkey : s ∉ m.sumTypes.keys := fun h => hs (Catalogue.contains_iff_mem_keys.2 h)
    rw [Catalogue.keys_put, if_neg hkey, List.mem_append, List.mem_singleton, or_comm]

/-- A member that is looked up for a new sum type matches it. -/
theorem membersMatch_registerSumType (h : m.MembersMatch) : (m.registerSumType s).MembersMatch := by
  intro t r ht
  unfold registerSumType at ht ⊢
  by_cases hs : m.sumTypes.contains s
  · rw [if_pos hs] at ht ⊢
    exact h t r ht
  · rw [if_neg hs] at ht ⊢
    rw [Catalogue.get?_put] at ht
    split at ht
    · cases ht
    · exact h t r ht

/-- A member is an old one, or the record that has been assigned, which matches the sum type. -/
theorem mem_assignMember (h : (m.assignMember record).sumTypes.get? s = some (some name)) :
    m.sumTypes.get? s = some (some name) ∨ name = record ∧ matchesMember s record := by
  rw [assignMember, Catalogue.get?_mapWithKey] at h
  obtain ⟨member, hm, hn⟩ := Option.map_eq_some_iff.1 h
  split at hn
  · rename_i htakes
    have hmatch : matchesMember s record := (Bool.and_eq_true_iff.1 htakes).2
    exact .inr ⟨(Option.some.inj hn).symm, hmatch⟩
  · rw [hn] at hm
    exact .inl hm

end TypeModel

namespace DeclarationIndex

section Enter

variable (index : DeclarationIndex) (scope : Scope) (registry : ExternalRegistry)

/-- A declaration puts into each catalogue the entry that it has there, if it has one. -/
theorem addSpec_eq (m : TypeModel) (spec : TypeSpec) : (index.addSpec scope registry m spec).records =
      m.records.putAll (entryOf Record.name (recordOf? scope registry spec)) ∧
    (index.addSpec scope registry m spec).enumerations =
      m.enumerations.putAll (entryOf Enumeration.name (index.enumerationOf? spec)) ∧
    (index.addSpec scope registry m spec).aliases =
      m.aliases.putAll (entryOf Alias.name (index.aliasOf? spec)) := by
  unfold addSpec recordOf? enumerationOf? aliasOf? primitiveKind?
  -- a declaration enters at most one thing
  split
  · exact ⟨rfl, rfl, rfl⟩
  · cases spec.type with
    | struct fields => exact ⟨rfl, rfl, rfl⟩
    | _ =>
      cases index.underlyingPrimitive? spec.name with
      | none => cases index.kindOf? spec.name <;> exact ⟨rfl, rfl, rfl⟩
      | some primitive =>
        rcases index.kindOf? spec.name with _ | _ | _ | _ | _ <;> exact ⟨rfl, rfl, rfl⟩

/-- Entering sum types leaves the other catalogues empty. -/
theorem registered_eq (sums : List String) (m : TypeModel) :
    (sums.foldl TypeModel.registerSumType m).records = m.records ∧
      (sums.foldl TypeModel.registerSumType m).enumerations = m.enumerations ∧
      (sums.foldl TypeModel.registerSumType m).aliases = m.aliases := by
  induction sums generalizing m with
  | nil => exact ⟨rfl, rfl, rfl⟩
  | cons s sums ih =>
    obtain ⟨hr, he, ha⟩ := ih (m.registerSumType s)
    rw [List.foldl_cons, hr, he, ha]
    unfold TypeModel.registerSumType
    split <;> exact ⟨rfl, rfl, rfl⟩

/-- The records of a model are those that the declarations enter, one after the other. -/
theorem records_toModel : (index.toModel scope registry).records =
    .ofList (index.specs.flatMap fun spec => entryOf Record.name (recordOf? scope registry spec)) := by
  rw [toModel, Catalogue.foldl_putAll TypeModel.records
    (fun m spec => (addSpec_eq index scope registry m spec).1), (registered_eq _ _).1]
  rfl

/-- The enumerations of a model are those that the declarations enter. -/
theorem enumerations_toModel : (index.toModel scope registry).enumerations =
    .ofList (index.specs.flatMap fun spec => entryOf Enumeration.name (index.enumerationOf? spec)) := by
  rw [toModel, Catalogue.foldl_putAll TypeModel.enumerations
    (fun m spec => (addSpec_eq index scope registry m spec).2.1), (registered_eq _ _).2.1]
  rfl

/-- The aliases of a model are those that the declarations enter. -/
theorem aliases_toModel : (index.toModel scope registry).aliases =
    .ofList (index.specs.flatMap fun spec => entryOf Alias.name (index.aliasOf? spec)) := by
  rw [toModel, Catalogue.foldl_putAll TypeModel.aliases
    (fun m spec => (addSpec_eq index scope registry m spec).2.2), (registered_eq _ _).2.2]
  rfl

end Enter

variable {index : DeclarationIndex} {scope : Scope} {registry : ExternalRegistry} {spec : TypeSpec}
    {name : String}

/-- When a declaration makes up a record, and which one. -/
theorem recordOf?_eq_some_iff {r : Record} : recordOf? scope registry spec = some r ↔
    spec.isGeneric = false ∧ isExported spec.name ∧
      ∃ fields, spec.type = .struct fields ∧ r = ⟨spec.name, recordFields scope registry fields⟩ := by
  unfold recordOf?
  cases spec.isGeneric <;> cases isExported spec.name <;> cases spec.type <;> simp [eq_comm]

/-- What the index says a name denotes, by the declaration that the name stands for. -/
theorem kindOf?_eq_some_iff {kind : DeclarationKind} : index.kindOf? name = some kind ↔
    ∃ spec, index.byName.get? name = some spec ∧ spec.isGeneric = false ∧
      match kind with
      | .interface => ∃ methods, spec.type = .interface methods
      | .record => isExported name ∧ ∃ fields, spec.type = .struct fields
      | kind =>
        isExported name ∧ (∀ fields, spec.type ≠ .struct fields) ∧ (∀ methods, spec.type ≠ .interface methods) ∧
          (index.underlyingPrimitive? name).isSome ∧
          kind = if index.enumValues.contains name then .enumeration else .typeAlias := by
  unfold kindOf?
  cases index.byName.get? name with
  | none => simp
  | some spec =>
    simp only [Option.some.injEq, exists_eq_left']
    cases spec.isGeneric with
    | true => simp
    | false =>
      cases spec.type <;> cases isExported name <;> cases index.underlyingPrimitive? name <;>
        cases index.enumValues.contains name <;> cases kind <;> simp

/-- A record of the model is that of a declaration with its name. -/
theorem exists_recordOf? {r : Record} (h : (index.toModel scope registry).records.get? name = some r) :
    ∃ spec ∈ index.specs, recordOf? scope registry spec = some r ∧ r.name = name := by
  rw [records_toModel] at h
  exact Catalogue.get?_ofEntriesOf h

/-- The records of a model are the structures that are declared and exported. -/
theorem mem_records_iff :
    name ∈ (index.toModel scope registry).records.keys ↔
      ∃ spec ∈ index.specs, spec.name = name ∧ spec.isGeneric = false ∧ isExported name ∧
        ∃ fields, spec.type = .struct fields := by
  rw [records_toModel, Catalogue.mem_keys_ofEntriesOf]
  simp only [recordOf?_eq_some_iff]
  constructor
  · rintro ⟨spec, hs, _, ⟨hg, hx, fields, ht, rfl⟩, rfl⟩; exact ⟨spec, hs, rfl, hg, hx, fields, ht⟩
  · rintro ⟨spec, hs, rfl, hg, hx, fields, ht⟩; exact ⟨spec, hs, _, ⟨hg, hx, fields, ht, rfl⟩, rfl⟩

/-- When a declaration has a primitive type underneath, and what kind it is of. -/
theorem primitiveKind?_eq_some_iff {kind : DeclarationKind} {primitive : String} :
    index.primitiveKind? spec = some (kind, primitive) ↔ spec.isGeneric = false ∧ isExported spec.name ∧
      (∀ fields, spec.type ≠ .struct fields) ∧ index.kindOf? spec.name = some kind ∧
      index.underlyingPrimitive? spec.name = some primitive := by
  unfold primitiveKind?
  cases spec.isGeneric <;> cases isExported spec.name <;> cases spec.type <;> cases index.kindOf? spec.name <;>
    cases index.underlyingPrimitive? spec.name <;> simp

/-- When a declaration makes up an enumeration, and which one. -/
theorem enumerationOf?_eq_some_iff {e : Enumeration} : index.enumerationOf? spec = some e ↔
    (∃ primitive, index.primitiveKind? spec = some (.enumeration, primitive)) ∧
      e = ⟨spec.name, (index.enumValues.get? spec.name).getD []⟩ := by
  unfold enumerationOf?
  rcases index.primitiveKind? spec with _ | ⟨_ | _ | _ | _, _⟩ <;> simp [eq_comm]

/-- When a declaration makes up an alias, and which one. -/
theorem aliasOf?_eq_some_iff {a : Alias} : index.aliasOf? spec = some a ↔
    ∃ primitive, index.primitiveKind? spec = some (.typeAlias, primitive) ∧ a = ⟨spec.name, primitive⟩ := by
  unfold aliasOf?
  rcases index.primitiveKind? spec with _ | ⟨_ | _ | _ | _, _⟩ <;> simp [eq_comm]

/-! ### Sum types -/

/-- The sum types of a model are left as they are by all declarations but those of records, which become
members. -/
theorem sumTypes_addSpec (m : TypeModel) : (index.addSpec scope registry m spec).sumTypes =
    if (recordOf? scope registry spec).isSome then (m.assignMember spec.name).sumTypes else m.sumTypes := by
  unfold addSpec recordOf?
  split
  · rfl
  · cases spec.type with
    | struct fields => rfl
    | _ =>
      cases index.underlyingPrimitive? spec.name with
      | none => rfl
      | some primitive => rcases index.kindOf? spec.name with _ | _ | _ | _ | _ <;> rfl

/-- Adding a declaration leaves members that match their sum types. -/
theorem membersMatch_addSpec {m : TypeModel} (h : m.MembersMatch) :
    (index.addSpec scope registry m spec).MembersMatch := by
  intro s r hs
  rw [sumTypes_addSpec] at hs
  rw [(addSpec_eq index scope registry m spec).1, Catalogue.mem_keys_putAll]
  cases hrecord : recordOf? scope registry spec with
  | none =>
    rw [hrecord] at hs
    have hold := h s r hs
    exact ⟨.inr hold.1, hold.2⟩
  | some record =>
    -- the record is entered before it becomes a member
    have hname : record.name = spec.name := by
      obtain ⟨-, -, fields, -, rfl⟩ := recordOf?_eq_some_iff.1 hrecord
      rfl
    rw [hrecord] at hs
    rcases TypeModel.mem_assignMember hs with hold | ⟨rfl, hmatch⟩
    · have hold := h s r hold
      exact ⟨.inr hold.1, hold.2⟩
    · exact ⟨.inl (by simp [entryOf, Entries.keys, hname]), hmatch⟩

/-- **Members of sum types.** The record that stands for the members of a sum type is in the model and matches
it. -/
theorem membersMatch_toModel : (index.toModel scope registry).MembersMatch := by
  have hempty : TypeModel.empty.MembersMatch := by
    intro s r hs
    cases hs
  refine List.foldlRecOn _ _ (List.foldlRecOn _ _ hempty ?_) ?_
  · exact fun m hm s _ => TypeModel.membersMatch_registerSumType hm
  · exact fun m hm spec _ => membersMatch_addSpec hm

/-- **Sum types.** They are the interfaces that are called like one. -/
theorem mem_sumTypes_iff : name ∈ (index.toModel scope registry).sumTypes.keys ↔
    ∃ spec ∈ index.specs, declaresSumType spec ∧ spec.name = name := by
  -- declarations of other kinds enter none
  have hspecs (specs : List TypeSpec) (m : TypeModel) :
      (specs.foldl (index.addSpec scope registry) m).sumTypes.keys = m.sumTypes.keys := by
    induction specs generalizing m with
    | nil => rfl
    | cons spec specs ih =>
      rw [List.foldl_cons, ih, sumTypes_addSpec]
      split
      · exact Catalogue.keys_mapWithKey
      · rfl
  have hsums (sums : List String) (m : TypeModel) :
      name ∈ (sums.foldl TypeModel.registerSumType m).sumTypes.keys ↔ name ∈ sums ∨ name ∈ m.sumTypes.keys := by
    induction sums generalizing m with
    | nil => simp
    | cons s sums ih =>
      rw [List.foldl_cons, ih, TypeModel.mem_keys_registerSumType, List.mem_cons, or_left_comm, or_assoc]
  have hempty : name ∉ TypeModel.empty.sumTypes.keys := List.not_mem_nil
  rw [toModel, hspecs, hsums, or_iff_left hempty, List.mem_map]
  simp only [List.mem_filter, and_assoc]

section Files

variable {files : List SourceFile}

/-! ### Constants -/

/-- Induction on the lines of a group: each one that adds values keeps what holds of them. -/
theorem addGroup_induction {P : Catalogue (List String) → Prop} {current : Option TypeExpr}
    {values : Catalogue (List String)}
    {group : List ConstSpec} (hp : P values)
    (step : ∀ values type, ∀ spec ∈ group, P values → P (addValues values type spec.names)) :
    P (addGroup current values group) := by
  fun_induction addGroup current values group with
  | case1 => exact hp
  | case2 =>
    rename_i ih
    exact ih (step _ _ _ List.mem_cons_self hp) fun values type spec hs =>
      step values type spec (List.mem_cons_of_mem _ hs)
  | case3 =>
    rename_i ih
    exact ih hp fun values type spec hs => step values type spec (List.mem_cons_of_mem _ hs)

/-- The constants of all types come from the lines of the files, one line after the other. -/
theorem enumValues_induction {P : Catalogue (List String) → Prop} (hempty : P .empty)
    (step : ∀ values type spec, P values → (∃ file ∈ files, ∃ group ∈ file.constGroups, spec ∈ group) →
      P (addValues values type spec.names)) : P (ofFiles files).enumValues := by
  refine List.foldlRecOn _ _ hempty fun values hv group hg =>
    addGroup_induction hv fun values type spec hs hp => ?_
  obtain ⟨file, hf, hg⟩ := List.mem_flatMap.1 hg
  exact step values type spec hp ⟨file, hf, group, hg, hs⟩

/-! ### Names and what they denote -/

/-- The declaration that a name stands for is one of the declarations, and has that name. -/
theorem mem_specs_of_byName (h : (ofFiles files).byName.get? name = some spec) :
    spec ∈ (ofFiles files).specs ∧ spec.name = name := by
  obtain ⟨s, hs, heq⟩ := List.mem_map.1 (Catalogue.mem_of_get?_ofList h)
  obtain ⟨rfl, rfl⟩ := Prod.mk.inj heq
  exact ⟨hs, rfl⟩

/-- A declared name is in the index. -/
theorem mem_keys_byName (hs : spec ∈ (ofFiles files).specs) : spec.name ∈ (ofFiles files).byName.keys := by
  rw [ofFiles, Catalogue.mem_keys_ofList, Entries.keys, List.map_map]
  exact List.mem_map.2 ⟨spec, hs, rfl⟩

/-- A type that is told to be a record is one of the model. -/
theorem mem_records_of_kindOf? (h : (ofFiles files).kindOf? name = some .record) :
    name ∈ ((ofFiles files).toModel scope registry).records.keys := by
  obtain ⟨spec, hb, hg, hx, fields, ht⟩ := kindOf?_eq_some_iff.1 h
  obtain ⟨hs, rfl⟩ := mem_specs_of_byName hb
  exact mem_records_iff.2 ⟨spec, hs, rfl, hg, hx, fields, ht⟩

/-- A name that denotes an enumeration or an alias is declared as something that stands for a primitive type. -/
theorem exists_primitiveKind? {kind : DeclarationKind} (h : (ofFiles files).kindOf? name = some kind)
    (hk : kind = .enumeration ∨ kind = .typeAlias) :
    ∃ spec ∈ (ofFiles files).specs, spec.name = name ∧
      ∃ primitive, (ofFiles files).primitiveKind? spec = some (kind, primitive) := by
  obtain ⟨spec, hb, hg, hx⟩ := kindOf?_eq_some_iff.1 h
  obtain ⟨hs, rfl⟩ := mem_specs_of_byName hb
  obtain ⟨hx, hn, hu⟩ : isExported spec.name ∧ (∀ fields, spec.type ≠ .struct fields) ∧
      ((ofFiles files).underlyingPrimitive? spec.name).isSome := by
    rcases hk with rfl | rfl <;> exact ⟨hx.1, hx.2.1, hx.2.2.2.1⟩
  obtain ⟨primitive, hp⟩ := Option.isSome_iff_exists.1 hu
  exact ⟨spec, hs, rfl, primitive, primitiveKind?_eq_some_iff.2 ⟨hg, hx, hn, h, hp⟩⟩

/-- **Enumerations.** The model has an enumeration under a name exactly if the name denotes one. -/
theorem get?_enumerations_iff {e : Enumeration} :
    ((ofFiles files).toModel scope registry).enumerations.get? name = some e ↔
      (ofFiles files).kindOf? name = some .enumeration ∧
        e = ⟨name, ((ofFiles files).enumValues.get? name).getD []⟩ := by
  -- an enumeration that is found is that of a declaration
  have hto : ∀ e, ((ofFiles files).toModel scope registry).enumerations.get? name = some e →
      (ofFiles files).kindOf? name = some .enumeration ∧
        e = ⟨name, ((ofFiles files).enumValues.get? name).getD []⟩ := by
    intro e h
    rw [enumerations_toModel] at h
    obtain ⟨spec, -, he, rfl⟩ := Catalogue.get?_ofEntriesOf h
    obtain ⟨⟨_, hp⟩, rfl⟩ := enumerationOf?_eq_some_iff.1 he
    exact ⟨(primitiveKind?_eq_some_iff.1 hp).2.2.2.1, rfl⟩
  refine ⟨hto e, ?_⟩
  rintro ⟨hk, rfl⟩
  obtain ⟨spec, hs, rfl, hp⟩ := exists_primitiveKind? hk (.inl rfl)
  -- and a name that denotes one is found
  have hm : spec.name ∈ ((ofFiles files).toModel scope registry).enumerations.keys := by
    rw [enumerations_toModel, Catalogue.mem_keys_ofEntriesOf]
    exact ⟨spec, hs, _, enumerationOf?_eq_some_iff.2 ⟨hp, rfl⟩, rfl⟩
  obtain ⟨e, he⟩ := Catalogue.mem_keys_iff.1 hm
  rw [he, (hto e he).2]

/-- **Aliases.** The model has an alias under a name exactly if the name denotes one. -/
theorem get?_aliases_iff {a : Alias} :
    ((ofFiles files).toModel scope registry).aliases.get? name = some a ↔
      (ofFiles files).kindOf? name = some .typeAlias ∧ a.name = name ∧
        (ofFiles files).underlyingPrimitive? name = some a.underlying := by
  have hto : ∀ a, ((ofFiles files).toModel scope registry).aliases.get? name = some a →
      (ofFiles files).kindOf? name = some .typeAlias ∧ a.name = name ∧
        (ofFiles files).underlyingPrimitive? name = some a.underlying := by
    intro a h
    rw [aliases_toModel] at h
    obtain ⟨spec, -, ha, rfl⟩ := Catalogue.get?_ofEntriesOf h
    obtain ⟨primitive, hp, rfl⟩ := aliasOf?_eq_some_iff.1 ha
    obtain ⟨-, -, -, hk, hu⟩ := primitiveKind?_eq_some_iff.1 hp
    exact ⟨hk, rfl, hu⟩
  refine ⟨hto a, ?_⟩
  rintro ⟨hk, rfl, hu⟩
  obtain ⟨spec, hs, hn, primitive, hp⟩ := exists_primitiveKind? hk (.inr rfl)
  have hm : a.name ∈ ((ofFiles files).toModel scope registry).aliases.keys := by
    rw [aliases_toModel, Catalogue.mem_keys_ofEntriesOf]
    exact ⟨spec, hs, _, aliasOf?_eq_some_iff.2 ⟨primitive, hp, rfl⟩, hn⟩
  obtain ⟨b, hb⟩ := Catalogue.mem_keys_iff.1 hm
  obtain ⟨-, hbn, hbu⟩ := hto b hb
  rw [hu] at hbu
  rw [hb]
  cases a; cases b
  simp_all

end Files

end DeclarationIndex

end GoFixtures
