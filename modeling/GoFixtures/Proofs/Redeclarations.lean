import GoFixtures.Declarations.SingleText
import GoFixtures.Proofs.Calls
import GoFixtures.Proofs.Members
import Mathlib.Data.List.Nodup

/-!
# Names that are declared again

An index knows the last declaration of a name, while a model is entered one declaration after the other.
Enumerations and aliases are entered only where the index says that the name denotes one. A struct is entered
as a record whatever comes behind it, and a later declaration of the name does not take it back.

* `get?_byName_iff_last`: a name stands for its last declaration.
* `DeclarationIndex.LeavesRecord`: a record is declared under a name, and its last declaration is something
  else.
* `kinds_agree_iff`: the model agrees with the index on all other names, and on no such name. Only such a name
  can have two functions.
-/

namespace GoFixtures

open Go

/-- A value that is looked up by a key of its own stands once in the order of the keys. -/
theorem Catalogue.nodup_map_sortedValues {α : Type} {c : Catalogue α} {key : α → String}
    (h : ∀ k a, c.get? k = some a → key a = k) : (c.sortedValues.map key).Nodup := by
  have hkeys : c.values.map key = c.keys := by
    rw [values, keys, Entries.keys, List.map_map]
    exact List.map_congr_left fun e he => h e.1 e.2 (mem_entries_iff.1 he)
  have hperm : c.sortedValues.Perm c.values := (List.mergeSort_perm c.entries _).map Prod.snd
  rw [(hperm.map key).nodup_iff, hkeys]
  exact c.nodup

/-- Among entries under names of their own the first one under a name is the first one with that name. -/
theorem Entries.get?_map_eq_find? {α : Type} {key : α → String} {as : List α} {name : String} :
    get? (as.map fun a => (key a, a)) name = as.find? fun a => key a = name := by
  induction as with
  | nil => rfl
  | cons a as ih =>
    rw [List.map_cons, get?, List.find?_cons, ih]
    by_cases h : key a = name <;> simp [h]

namespace DeclarationIndex

variable {files : List SourceFile} {index : DeclarationIndex} {scope : Scope} {registry : ExternalRegistry}
    {name : String}
  {last : TypeSpec}

/-- The last declaration of a name. -/
structure LastOf (index : DeclarationIndex) (name : String) (before : List TypeSpec) (last : TypeSpec)
    (after : List TypeSpec) :
    Prop where
  specs : index.specs = before ++ last :: after
  named : last.name = name
  isLast : ∀ spec ∈ after, spec.name ≠ name

/-- The last declaration of a name is not that of a record, but one before it is. -/
def LeavesRecord (index : DeclarationIndex) (name : String) : Prop :=
  ∃ before last after, index.LastOf name before last after ∧ declaresRecord last = false ∧
    ∃ spec ∈ before, spec.name = name ∧ declaresRecord spec

/-- The model holds a name as what it denotes in the index. -/
structure AgreesOn (index : DeclarationIndex) (m : TypeModel) (name : String) : Prop where
  records : name ∈ m.records.keys ↔ index.kindOf? name = some .record
  enumerations : name ∈ m.enumerations.keys ↔ index.kindOf? name = some .enumeration
  aliases : name ∈ m.aliases.keys ↔ index.kindOf? name = some .typeAlias

/-- **A name stands for its last declaration.** -/
theorem get?_byName_iff_last :
    (ofFiles files).byName.get? name = some last ↔
      ∃ before after, (ofFiles files).LastOf name before last after := by
  rw [ofFiles, Catalogue.get?_ofList, ← List.map_reverse, Entries.get?_map_eq_find?,
    List.find?_eq_some_iff_append]
  constructor
  · rintro ⟨hname, after, before, hspecs, hafter⟩
    have hspecs := List.reverse_eq_iff.1 hspecs
    rw [List.reverse_append, List.reverse_cons, List.append_assoc, List.singleton_append] at hspecs
    exact ⟨before.reverse, after.reverse, hspecs,
      by simpa using hname, fun spec hs => by simpa using hafter spec (by simpa using hs)⟩
  · rintro ⟨before, after, hspecs, hname, hafter⟩
    have hspecs : files.flatMap SourceFile.types = before ++ last :: after := hspecs
    refine ⟨by simpa using hname, after.reverse, before.reverse, ?_, fun spec hs => ?_⟩
    · rw [hspecs, List.reverse_append, List.reverse_cons, List.append_assoc, List.singleton_append]
    · simpa using hafter spec (List.mem_reverse.1 hs)

/-- A name denotes a record if its last declaration is that of one. -/
theorem kindOf?_record_iff : (ofFiles files).kindOf? name = some .record ↔
    ∃ before last after, (ofFiles files).LastOf name before last after ∧ declaresRecord last := by
  rw [kindOf?_eq_some_iff]
  simp only [get?_byName_iff_last, declaresRecord_iff]
  constructor
  · rintro ⟨last, ⟨before, after, hlast⟩, hg, hx, hstruct⟩
    exact ⟨before, last, after, hlast, hg, by rwa [hlast.named], hstruct⟩
  · rintro ⟨before, last, after, hlast, hg, hx, hstruct⟩
    exact ⟨last, ⟨before, after, hlast⟩, hg, by rwa [← hlast.named], hstruct⟩

theorem mem_records_iff_declaresRecord : name ∈ (index.toModel scope registry).records.keys ↔
    ∃ spec ∈ index.specs, spec.name = name ∧ declaresRecord spec := by
  rw [mem_records_iff]
  simp only [declaresRecord_iff]
  constructor
  · rintro ⟨spec, hs, rfl, h⟩; exact ⟨spec, hs, rfl, h⟩
  · rintro ⟨spec, hs, rfl, h⟩; exact ⟨spec, hs, rfl, h⟩

/-- A name that leaves a record does not denote it any more. -/
theorem LeavesRecord.kindOf?_ne (h : (ofFiles files).LeavesRecord name) :
    (ofFiles files).kindOf? name ≠ some .record := by
  obtain ⟨before, last, after, hlast, hrecord, -⟩ := h
  intro hk
  obtain ⟨before', last', after', hlast', hrecord'⟩ := kindOf?_record_iff.1 hk
  -- a name has one last declaration
  have hget := get?_byName_iff_last.2 ⟨before, after, hlast⟩
  rw [get?_byName_iff_last.2 ⟨before', after', hlast'⟩] at hget
  obtain rfl := Option.some.inj hget
  rw [hrecord] at hrecord'
  cases hrecord'

/-- **Records of a model.** A name is that of a record if it denotes one, or if it leaves one. -/
theorem mem_records_iff_kindOf? : name ∈ ((ofFiles files).toModel scope registry).records.keys ↔
    (ofFiles files).kindOf? name = some .record ∨ (ofFiles files).LeavesRecord name := by
  constructor
  · intro h
    obtain ⟨spec, hs, hname, hrecord⟩ := mem_records_iff_declaresRecord.1 h
    -- the name is declared, so it has a last declaration
    obtain ⟨last, hget⟩ := Catalogue.mem_keys_iff.1 (hname ▸ mem_keys_byName hs)
    obtain ⟨before, after, hlast⟩ := get?_byName_iff_last.1 hget
    cases hl : declaresRecord last with
    | true => exact .inl (kindOf?_record_iff.2 ⟨before, last, after, hlast, hl⟩)
    | false =>
      refine .inr ⟨before, last, after, hlast, hl, spec, ?_, hname, hrecord⟩
      rw [hlast.specs, List.mem_append, List.mem_cons] at hs
      rcases hs with hs | rfl | hs
      · exact hs
      · rw [hl] at hrecord
        cases hrecord
      · exact absurd hname (hlast.isLast spec hs)
  · rintro (h | ⟨before, last, after, hlast, -, spec, hs, hname, hrecord⟩)
    · exact mem_records_of_kindOf? h
    · refine mem_records_iff_declaresRecord.2 ⟨spec, ?_, hname, hrecord⟩
      rw [hlast.specs]
      exact List.mem_append_left _ hs

theorem mem_enumerations_iff : name ∈ ((ofFiles files).toModel scope registry).enumerations.keys ↔
    (ofFiles files).kindOf? name = some .enumeration := by
  rw [Catalogue.mem_keys_iff]
  simp only [get?_enumerations_iff, exists_and_left, exists_eq, and_true]

theorem mem_aliases_iff : name ∈ ((ofFiles files).toModel scope registry).aliases.keys ↔
    (ofFiles files).kindOf? name = some .typeAlias := by
  rw [Catalogue.mem_keys_iff]
  constructor
  · rintro ⟨a, ha⟩
    exact (get?_aliases_iff.1 ha).1
  · intro h
    obtain ⟨spec, -, rfl, primitive, hp⟩ := exists_primitiveKind? h (.inr rfl)
    obtain ⟨-, -, -, -, hu⟩ := primitiveKind?_eq_some_iff.1 hp
    exact ⟨⟨spec.name, primitive⟩, get?_aliases_iff.2 ⟨h, rfl, hu⟩⟩

theorem agreesOn_iff : (ofFiles files).AgreesOn ((ofFiles files).toModel scope registry) name ↔
    ¬ (ofFiles files).LeavesRecord name := by
  constructor
  · intro h hleaves
    exact hleaves.kindOf?_ne (h.records.1 (mem_records_iff_kindOf?.2 (.inr hleaves)))
  · intro h
    exact ⟨by rw [mem_records_iff_kindOf?, or_iff_left h], mem_enumerations_iff, mem_aliases_iff⟩

/-! ### Functions -/

section Functions

variable {package : String} {o : Options} {file : FixtureFile}

theorem mem_sortedAliases_iff :
    name ∈ ((ofFiles files).toModel scope registry).aliases.sortedValues.map Alias.name ↔
    (ofFiles files).kindOf? name = some .typeAlias := by
  simp only [List.mem_map, Catalogue.mem_sortedValues_iff, exists_alias_iff]

theorem mem_sortedEnumerations_iff :
    name ∈ (((ofFiles files).toModel scope registry).enumerations.sortedValues.filter
        fun e => (defaultEnumValue? e.values).isSome).map Enumeration.name ↔
      (ofFiles files).kindOf? name = some .enumeration ∧
        ¬ ∀ value ∈ ((ofFiles files).enumValues.get? name).getD [], value ∈ reservedEnumValues := by
  simp only [List.mem_map, List.mem_filter, Catalogue.mem_sortedValues_iff, and_assoc,
    and_comm (a := (defaultEnumValue? _).isSome)]
  exact exists_enumeration_iff

theorem mem_sortedRecords_iff :
    name ∈ ((ofFiles files).toModel scope registry).records.sortedValues.map Record.name ↔
    (ofFiles files).kindOf? name = some .record ∨ (ofFiles files).LeavesRecord name := by
  simp only [List.mem_map, Catalogue.mem_sortedValues_iff, exists_record_iff, mem_records_iff_kindOf?]

/-- **Functions of one name.** A file defines a function twice exactly if a name that leaves a record denotes
an alias, or an enumeration that a value can stand for. -/
theorem nodup_functionNames_iff
    (h : FixtureFile.ofModel ((ofFiles files).toModel scope registry) package o registry = .ok file) :
    (file.functionNames o).Nodup ↔ ∀ name, (ofFiles files).LeavesRecord name →
      (ofFiles files).kindOf? name ≠ some .typeAlias ∧
      ((ofFiles files).kindOf? name = some .enumeration →
        ∀ value ∈ ((ofFiles files).enumValues.get? name).getD [], value ∈ reservedEnumValues) := by
  have hnames : file.functionNames o = (file.functions.map FixtureFunction.type).map o.fixtureName := by
    rw [FixtureFile.functionNames, List.map_map]
    rfl
  -- the names of each group are distinct
  have haliases : (((ofFiles files).toModel scope registry).aliases.sortedValues.map Alias.name).Nodup :=
    Catalogue.nodup_map_sortedValues fun k a ha => (get?_aliases_iff.1 ha).2.1
  have henums :
      (((ofFiles files).toModel scope registry).enumerations.sortedValues.map Enumeration.name).Nodup := by
    refine Catalogue.nodup_map_sortedValues fun k e he => ?_
    rw [(get?_enumerations_iff.1 he).2]
  have hrecords : (((ofFiles files).toModel scope registry).records.sortedValues.map Record.name).Nodup := by
    refine Catalogue.nodup_map_sortedValues fun k r hr => ?_
    obtain ⟨-, -, -, hname⟩ := exists_recordOf? hr
    exact hname
  rw [hnames, List.nodup_map_iff fun _ _ =>
    FixtureFile.fixtureName_inj.1, FixtureFile.types_ofModel h, List.nodup_append,
    List.nodup_append]
  constructor
  · rintro ⟨-, -, hapart⟩ name hleaves
    have hrecord : name ∈ ((ofFiles files).toModel scope registry).records.sortedValues.map Record.name :=
      mem_sortedRecords_iff.2 (.inr hleaves)
    refine ⟨fun hk => ?_, fun hk => ?_⟩
    · exact hapart name (List.mem_append_left _ (mem_sortedAliases_iff.2 hk)) name hrecord rfl
    · by_contra hvalue
      exact hapart name (List.mem_append_right _ (mem_sortedEnumerations_iff.2 ⟨hk, hvalue⟩)) name hrecord rfl
  · intro hleaves
    refine ⟨⟨haliases, henums.sublist (List.filter_sublist.map _), ?_⟩, hrecords, ?_⟩
    · rintro x hx _ hy rfl
      -- an alias is no enumeration
      have hk := mem_sortedAliases_iff.1 hx
      rw [(mem_sortedEnumerations_iff.1 hy).1] at hk
      cases hk
    · rintro x hx _ hy rfl
      rcases List.mem_append.1 hx with hx | hx
      · have hk := mem_sortedAliases_iff.1 hx
        rcases mem_sortedRecords_iff.1 hy with hy | hy
        · rw [hk] at hy
          cases hy
        · exact (hleaves x hy).1 hk
      · obtain ⟨hk, hvalue⟩ := mem_sortedEnumerations_iff.1 hx
        rcases mem_sortedRecords_iff.1 hy with hy | hy
        · rw [hk] at hy
          cases hy
        · exact hvalue ((hleaves x hy).2 hk)

end Functions

end DeclarationIndex

/-- **Models and names.** In any scope the model of files agrees with their index on a name exactly if the
name leaves no record. All names of enumerations and aliases are those that denote one; a name that leaves a
record is still that of one. A file of fixtures defines each function once exactly if all names that leave a
record denote neither an alias nor an enumeration with a value that can stand for it. -/
theorem kinds_agree_iff (files : List SourceFile) (scope : Scope) (registry : ExternalRegistry) :
    (∀ name,
      ((DeclarationIndex.ofFiles files).AgreesOn ((DeclarationIndex.ofFiles files).toModel scope registry) name ↔
        ¬ (DeclarationIndex.ofFiles files).LeavesRecord name) ∧
      ((DeclarationIndex.ofFiles files).LeavesRecord name →
        name ∈ ((DeclarationIndex.ofFiles files).toModel scope registry).records.keys) ∧
      (name ∈ ((DeclarationIndex.ofFiles files).toModel scope registry).enumerations.keys ↔
        (DeclarationIndex.ofFiles files).kindOf? name = some .enumeration) ∧
      (name ∈ ((DeclarationIndex.ofFiles files).toModel scope registry).aliases.keys ↔
        (DeclarationIndex.ofFiles files).kindOf? name = some .typeAlias)) ∧
    ∀ package o file,
      FixtureFile.ofModel ((DeclarationIndex.ofFiles files).toModel scope registry) package o registry =
        .ok file →
      ((file.functionNames o).Nodup ↔ ∀ name, (DeclarationIndex.ofFiles files).LeavesRecord name →
        (DeclarationIndex.ofFiles files).kindOf? name ≠ some .typeAlias ∧
        ((DeclarationIndex.ofFiles files).kindOf? name = some .enumeration →
          ∀ value ∈ ((DeclarationIndex.ofFiles files).enumValues.get? name).getD [], value ∈
            reservedEnumValues)) := by
  refine ⟨fun name => ⟨DeclarationIndex.agreesOn_iff, fun hleaves => ?_, DeclarationIndex.mem_enumerations_iff,
    DeclarationIndex.mem_aliases_iff⟩, fun package o file hfile => DeclarationIndex.nodup_functionNames_iff hfile⟩
  exact DeclarationIndex.mem_records_iff_kindOf?.2 (.inr hleaves)

/-- A boat is a struct at first, and a number in the end. -/
def boatSource : String := "package p\n\ntype Boat struct\x7b\x7d\n\ntype Boat int\n"

/-- The file of the boat. -/
def boat : SourceFile where
  package := "p"
  types := [⟨"Boat", .struct [], 3, false, false⟩, ⟨"Boat", .name "int", 5, false, false⟩]
  constGroups := []

theorem kinds_agree_iff_boat :
    (DeclarationIndex.ofFiles [boat]).LeavesRecord "Boat" ∧
      ¬ (DeclarationIndex.ofFiles [boat]).AgreesOn
        ((DeclarationIndex.ofFiles [boat]).toModel (packageScope (.ofFiles [boat])) .standard) "Boat" ∧
      ∃ file, FixtureFile.ofModel
        ((DeclarationIndex.ofFiles [boat]).toModel (packageScope (.ofFiles [boat])) .standard) "fixtures" {}
        .standard = .ok file ∧ ¬ (file.functionNames {}).Nodup := by
  have hleaves : (DeclarationIndex.ofFiles [boat]).LeavesRecord "Boat" :=
    ⟨[⟨"Boat", .struct [], 3, false, false⟩], ⟨"Boat", .name "int", 5, false, false⟩, [],
      ⟨rfl, rfl, List.forall_mem_nil _⟩, rfl, _,
      List.mem_singleton_self _, rfl, by decide⟩
  have hfile :
    (FixtureFile.ofModel ((DeclarationIndex.ofFiles [boat]).toModel (packageScope (.ofFiles [boat])) .standard)
      "fixtures" {}
      .standard).isOk := by decide +kernel
  obtain ⟨hnames, hfunctions⟩ := kinds_agree_iff [boat] (packageScope (.ofFiles [boat])) .standard
  refine ⟨hleaves, fun hagrees => (hnames "Boat").1.1 hagrees hleaves, ?_⟩
  cases hf : FixtureFile.ofModel
    ((DeclarationIndex.ofFiles [boat]).toModel (packageScope (.ofFiles [boat])) .standard) "fixtures" {}
      .standard with
  | error e =>
    rw [hf] at hfile
    cases hfile
  | ok file =>
    refine ⟨file, rfl, fun hnodup => ?_⟩
    have hkind : (DeclarationIndex.ofFiles [boat]).kindOf? "Boat" = some .typeAlias := by decide +kernel
    exact ((hfunctions "fixtures" {} file hf).1 hnodup "Boat" hleaves).1 hkind

/-- **A name in two catalogues.** The boat denotes an alias, and its record stays in the model: its fixture
function is defined twice. -/
theorem boat_defined_twice :
    TypeModel.ofSource .standard boatSource =
      .ok ((DeclarationIndex.ofFiles [boat]).toModel (lexicalScope (.ofFiles [boat])) .standard) ∧
      (DeclarationIndex.ofFiles [boat]).kindOf? "Boat" = some .typeAlias ∧
      "Boat" ∈ ((DeclarationIndex.ofFiles [boat]).toModel
        (packageScope (.ofFiles [boat])) .standard).records.keys ∧
      "Boat" ∈ ((DeclarationIndex.ofFiles [boat]).toModel
        (packageScope (.ofFiles [boat])) .standard).aliases.keys ∧
      (FixtureFile.ofModel
        ((DeclarationIndex.ofFiles [boat]).toModel (packageScope (.ofFiles [boat])) .standard) "fixtures" {}
        .standard).map (FixtureFile.functionNames {}) = .ok ["FixtureBoat", "FixtureBoat"] := by
  refine ⟨?_, ?_, ?_, ?_, ?_⟩
  all_goals decide +kernel

end GoFixtures
