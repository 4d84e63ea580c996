import GoFixtures.Proofs.Calls
import GoFixtures.Proofs.Fixture.Styles

/-!
# One more record

A record that is added to a model gets a function of its own, at its place among those of the records. Every
other function is made as before: of the records of a model its values depend only on those that stand for the
members of sum types, and the new record is not one of them. The imports are collected from all records, so
there can be more of them.

* `collectImports_subset_addRecord`: no import is lost.
* `Value.expand_addRecord`, `FixtureFunction.ofRecord_addRecord`: expansions and functions are as before.
* `TypeModel.FunctionsAround`: the functions of a model, cut at the place of a name among the records.
* `generate_addRecord`: the text of the model with the record is that of the model without it, with more
  imports and one more function.
-/

namespace GoFixtures

variable {m : TypeModel} {r : Record} {o : Options} {registry : ExternalRegistry}

/-! ### Imports -/

theorem mem_values_addRecord {s : Record} (hnew : r.name ∉ m.records.keys) (hs : s ∈ m.records.values) :
    s ∈ (m.addRecord r).records.values := by
  obtain ⟨name, hs⟩ := Catalogue.mem_values_iff.1 hs
  have hne : r.name ≠ name := by
    rintro rfl
    exact hnew (Catalogue.mem_keys_iff.2 ⟨s, hs⟩)
  refine Catalogue.mem_values_iff.2 ⟨name, ?_⟩
  rw [TypeModel.addRecord, Catalogue.get?_put, if_neg hne, hs]

theorem usesExternal_addRecord {n : String} (hnew : r.name ∉ m.records.keys) (h : m.UsesExternal n) :
    (m.addRecord r).UsesExternal n := by
  obtain ⟨s, hs, hf⟩ := h
  exact ⟨s, mem_values_addRecord hnew hs, hf⟩

/-- **Imports.** What is imported for a model is imported for the model with one more record. -/
theorem collectImports_subset_addRecord (hnew : r.name ∉ m.records.keys) :
    collectImports m registry ⊆ collectImports (m.addRecord r) registry := by
  intro i hi
  obtain ⟨⟨n, hn⟩, himport⟩ := mem_collectImports_iff.1 hi
  refine mem_collectImports_iff.2 ⟨⟨n, usesExternal_addRecord hnew hn⟩, himport.imp_right ?_⟩
  rintro ⟨k, hk, x, hx, rfl⟩
  exact ⟨k, usesExternal_addRecord hnew hk, x, hx, rfl⟩

/-! ### Functions -/

/-- **Expansions.** They do not come to a record that stands for the members of no sum type. -/
theorem Value.expand_addRecord (hmember : ∀ s, m.sumTypes.get? s ≠ some (some r.name)) :
    Value.expand (m.addRecord r) o registry = Value.expand m o registry := by
  have hmembers : ∀ s, m.member? s = (m.addRecord r).member? s := fun _ => rfl
  have hcount : m.sumTypes.keys.length = (m.addRecord r).sumTypes.keys.length := rfl
  have hfields : ∀ s name, m.member? s = some name → fieldsOf m name = fieldsOf (m.addRecord r) name := by
    intro s name hs
    have hne : r.name ≠ name := by
      rintro rfl
      exact hmember s (TypeModel.member?_eq_some_iff.1 hs).1
    rw [fieldsOf, fieldsOf, TypeModel.addRecord, Catalogue.get?_put, if_neg hne]
  funext s
  exact (Value.expand_congr rfl hcount hmembers hfields (fun _ _ _ _ _ _ _ => rfl) s).symm

theorem FixtureFunction.ofRecord_addRecord (hmember : ∀ s, m.sumTypes.get? s ≠ some (some r.name)) :
    ofRecord (m.addRecord r) o registry = ofRecord m o registry := by
  funext s
  rw [ofRecord, ofRecord, Value.expand_addRecord hmember]

/-- The functions of a model, cut at the place of a name among those of the records: in front are the
functions of the aliases and of the enumerations, then come those of the records with smaller names, and after
the place those of the records with greater names. -/
structure TypeModel.FunctionsAround (m : TypeModel) (o : Options) (registry : ExternalRegistry) (name : String)
    (front before after : List FixtureFunction) : Prop where
  front : front = m.aliases.sortedValues.map (FixtureFunction.ofAlias o)
    ++ m.enumerations.sortedValues.filterMap (FixtureFunction.ofEnumeration? o)
  records : m.records.sortedValues.mapM (FixtureFunction.ofRecord m o registry) = .ok (before ++ after)
  smaller : ∀ f ∈ before, f.type < name
  greater : ∀ f ∈ after, name < f.type

/-- The functions of records have the names of the records. -/
theorem type_of_mem_ofRecords {rs : List Record} {fs : List FixtureFunction} {f : FixtureFunction}
    (h : rs.mapM (FixtureFunction.ofRecord m o registry) = .ok fs) (hf : f ∈ fs) : ∃ s ∈ rs, s.name = f.type := by
  have htypes : f.type ∈ fs.map FixtureFunction.type := List.mem_map_of_mem hf
  rw [FixtureFile.types_ofRecords h] at htypes
  exact List.mem_map.1 htypes

/-- **A record more is a function more.** A record that stands for the members of no sum type is added to a
model under a new name, and there is a text of the model with it. Then there is a text of the model without
it. Both texts are the package clause, the lines of their imports, the helper and the functions one behind the
other, each of which begins with its own name. The new text has the function of the record at its place and
all the others as they were, and its imports contain the old ones. -/
theorem generate_addRecord {m : TypeModel} {r : Record} {package : String} {o : Options}
    {registry : ExternalRegistry} {text : String}
    (hkeys : ∀ name s, m.records.get? name = some s → s.name = name) (hnew : r.name ∉ m.records.keys)
    (hmember : ∀ s, m.sumTypes.get? s ≠ some (some r.name))
    (h : generate (m.addRecord r) package o registry = .ok text) :
    ∃ front before own after,
      m.FunctionsAround o registry r.name front before after ∧ FixtureFunction.ofRecord m o registry r = .ok own ∧
      generate m package o registry = .ok ("package " ++ package ++ "\n\n" ++
        (if collectImports m registry = [] then "" else
          "import (\n" ++ String.join ((collectImports m registry).map fun i => "\t" ++ i ++ "\n") ++ ")\n\n") ++
        "func ptr[T any](v T) *T \x7b return &v \x7d\n\n" ++
        String.join ((front ++ (before ++ after)).map (FixtureFunction.render o))) ∧
      text = "package " ++ package ++ "\n\n" ++
        (if collectImports (m.addRecord r) registry = [] then "" else
          "import (\n" ++ String.join ((collectImports (m.addRecord r) registry).map fun i =>
            "\t" ++ i ++ "\n") ++ ")\n\n") ++
        "func ptr[T any](v T) *T \x7b return &v \x7d\n\n" ++
        String.join ((front ++ (before ++ own :: after)).map (FixtureFunction.render o)) ∧
      (∀ f ∈ front ++ (before ++ own :: after), ∃ rest, f.render o = "func " ++ o.fixtureName f.type ++
        "(" ++ rest) ∧
      collectImports m registry ⊆ collectImports (m.addRecord r) registry := by
  obtain ⟨file, hfile, rfl⟩ := map_eq_ok_iff.1 h
  obtain ⟨records, hrecords, rfl⟩ := FixtureFile.ofModel_eq_ok_iff.1 hfile
  -- the new record is sorted between those with smaller and those with greater names
  obtain ⟨smaller, greater, hold, hput, hsmaller, hgreater⟩ := Catalogue.exists_sortedValues_put r hnew
  have hsorted : (m.addRecord r).records.sortedValues = smaller ++ r :: greater := hput
  rw [hsorted, FixtureFunction.ofRecord_addRecord hmember, mapM_append_eq_ok_iff] at hrecords
  obtain ⟨before, _, hbefore, hback, rfl⟩ := hrecords
  obtain ⟨own, after, hown, hafter, rfl⟩ := mapM_cons_eq_ok_iff.1 hback
  have hrecords :
      m.records.sortedValues.mapM (FixtureFunction.ofRecord m o registry) = .ok (before ++ after) := by
    rw [hold]
    exact mapM_append_eq_ok_iff.2 ⟨before, after, hbefore, hafter, rfl⟩
  refine ⟨_, before, own, after, ⟨rfl, hrecords, fun f hf => ?_, fun f hf => ?_⟩, hown, ?_,
    FixtureFile.render_eq _,
    fun f _ => FixtureFunction.exists_render_eq, collectImports_subset_addRecord hnew⟩
  · obtain ⟨s, hs, hname⟩ := type_of_mem_ofRecords hbefore hf
    obtain ⟨k, hk, hlt⟩ := hsmaller s hs
    rwa [← hname, hkeys k s hk]
  · obtain ⟨s, hs, hname⟩ := type_of_mem_ofRecords hafter hf
    obtain ⟨k, hk, hlt⟩ := hgreater s hs
    rwa [← hname, hkeys k s hk]
  · exact map_eq_ok_iff.2 ⟨_, FixtureFile.ofModel_eq_ok_iff.2 ⟨_, hrecords, rfl⟩, FixtureFile.render_eq _⟩

/-- An ant, and a cow whose feed expands into hay. -/
def meadowRecords : Entries Record :=
  [("Ant", ⟨"Ant", [⟨"Name", .primitive "string"⟩]⟩),
    ("Cow", ⟨"Cow", [⟨"Feed", .pointer (.sumType "isCow_Feed")⟩]⟩),
    ("Cow_Hay", ⟨"Cow_Hay", [⟨"Dry", .primitive "bool"⟩]⟩)]

/-- The model of the meadow. -/
def meadowModel : TypeModel where
  records := .ofList meadowRecords
  enumerations := .empty
  aliases := .ofList [("Zone", ⟨"Zone", "int"⟩)]
  sumTypes := .ofList [("isCow_Feed", some "Cow_Hay")]

/-- A bee that comes to the meadow, and needs an import. -/
def bee : Record := ⟨"Bee", [⟨"Born", .external "Time"⟩, ⟨"Meets", .sumType "isCow_Feed"⟩]⟩

theorem collectImports_bee : collectImports (meadowModel.addRecord bee) .standard = ["\"time\""] := by
  have hused : usedExternals (meadowModel.addRecord bee) = ["Time"] := by decide
  have himports : ExternalRegistry.standard.requiredImports ++ ["Time"].filterMap
      (fun n => (ExternalRegistry.standard.get? n).map ExternalType.importSpec) = ["\"time\"", "\"time\""] := by
        decide
  rw [collectImports, hused]
  simp only [himports]
  rw [sortedDistinct, List.mergeSort_of_pairwise (by decide)]
  rfl

/-- The block of the bee. -/
def beeText : String :=
  "func FixtureBee(mods ...func(*Bee)) *Bee \x7b\n\tvalue := &Bee\x7b\n"
    ++ "\t\tBorn: time.Date(2000, 1, 1, 0, 0, 0, 0, time.UTC),\n"
    ++ "\t\tMeets: &Cow_Hay\x7b\n\t\t\tDry: true,\n\t\t\x7d,\n"
    ++ "\t\x7d\n\tfor _, mod := range mods \x7b\n\t\tmod(value)\n\t\x7d\n\treturn value\n\x7d\n\n"

theorem render_ofRecord_bee :
    (FixtureFunction.ofRecord meadowModel {} .standard bee).map (FixtureFunction.render {}) = .ok beeText := by
  decide +kernel

/-- The function of the bee takes its place between those of the ant and of the cow. There was no import
before. -/
theorem generate_addRecord_bee :
    (∀ name s, meadowModel.records.get? name = some s → s.name = name) ∧ bee.name ∉ meadowModel.records.keys ∧
      (∀ s, meadowModel.sumTypes.get? s ≠ some (some bee.name)) ∧
      ∃ front before own after,
        meadowModel.FunctionsAround {} .standard bee.name front before after ∧
        FixtureFunction.ofRecord meadowModel {} .standard bee = .ok own ∧ own.render {} = beeText ∧
        generate meadowModel "p" {} .standard =
          .ok ("package p\n\n" ++ "func ptr[T any](v T) *T \x7b return &v \x7d\n\n" ++
          String.join ((front ++ (before ++ after)).map (FixtureFunction.render {}))) ∧
        generate (meadowModel.addRecord bee) "p" {} .standard =
          .ok ("package p\n\n" ++ "import (\n\t\"time\"\n)\n\n" ++
          "func ptr[T any](v T) *T \x7b return &v \x7d\n\n" ++
          String.join ((front ++ (before ++ own :: after)).map (FixtureFunction.render {}))) ∧
        (∀ f ∈ front ++ (before ++ own :: after), ∃ rest, f.render {} = "func Fixture" ++ f.type ++
          "(" ++ rest) := by
  have hkeys : ∀ name s, meadowModel.records.get? name = some s → s.name = name := by
    intro name s hs
    have hall : ∀ e ∈ meadowModel.records.entries, e.2.name = e.1 := by decide
    exact hall (name, s) (Catalogue.mem_entries_iff.2 hs)
  have hmember : ∀ s, meadowModel.sumTypes.get? s ≠ some (some bee.name) := by
    intro s hs
    have hall : ∀ e ∈ meadowModel.sumTypes.entries, e.2 ≠ some bee.name := by decide
    exact hall (s, some bee.name) (Catalogue.mem_entries_iff.2 hs) rfl
  have hequiv : (meadowModel.addRecord bee).records.Equiv (.ofList (meadowRecords.insertIdx 1 ("Bee", bee))) := by
    have hput : (meadowModel.addRecord bee).records = .ofList (meadowRecords ++ [("Bee", bee)]) := by decide
    rw [hput]
    exact .of_perm (by decide) (by decide)
  have hok : (generate (meadowModel.addRecord bee) "p" {} .standard).isOk := by
    rw [generate, FixtureFile.ofModel, hequiv.sortedValues_eq, Catalogue.sortedValues,
      List.mergeSort_of_pairwise (by decide)]
    decide +kernel
  cases h : generate (meadowModel.addRecord bee) "p" {} .standard with
  | error e =>
    rw [h] at hok
    cases hok
  | ok text =>
    obtain ⟨front, before, own, after, haround, hown, hold, rfl, hnames, -⟩ :=
      generate_addRecord hkeys (by decide) hmember h
    have himports : collectImports meadowModel .standard = [] := by decide
    have hbee : own.render {} = beeText := by
      have hrender := render_ofRecord_bee
      rw [hown] at hrender
      exact Except.ok.inj hrender
    refine ⟨hkeys, by decide, hmember, front, before, own, after, haround, hown, hbee, ?_, ?_, fun f hf => ?_⟩
    · rw [hold, himports]
      rfl
    · rw [collectImports_bee]
      rfl
    · obtain ⟨rest, hrest⟩ := hnames f hf
      refine ⟨rest, hrest.trans ?_⟩
      have hname : (Options.mk "" "" .mutable).fixtureName f.type = "Fixture" ++ f.type := by
        simp [Options.fixtureName]
      rw [hname, ← String.append_assoc]
      rfl

end GoFixtures
