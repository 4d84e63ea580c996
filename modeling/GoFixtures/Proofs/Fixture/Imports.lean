import GoFixtures.Proofs.Fixture.Dependencies

/-!
# The imports cover what is used

Imports are collected from the fields of all records, and values are made along another way, through the
expansion of sum types. But an expansion only goes through fields of records, so each external type that it
comes to has been seen.

* `imports_cover_externals`: the external types that no field refers to do not matter, the imports are those
  of the others, and what can be seen of an external type in the file is imported.
-/

namespace GoFixtures

variable {m : TypeModel} {o : Options} {registry registry' : ExternalRegistry} {package : String}

/-- Two registries that agree on the external types in fields give the same text, or none. -/
theorem generate_congr_registry (hi : registry'.requiredImports = registry.requiredImports)
    (hr : ∀ n, m.UsesExternal n → registry'.get? n = registry.get? n) :
    generate m package o registry' = generate m package o registry := by
  rw [generate, generate, FixtureFile.ofModel_congr (.refl m) rfl hi hr]

theorem importSpec_mem_collectImports {n : String} {x : ExternalType} (hn : m.UsesExternal n)
    (hx : registry.get? n = some x) :
    x.importSpec ∈ collectImports m registry :=
  mem_collectImports_iff.2 ⟨⟨n, hn⟩, .inr ⟨n, hn, x, hx, rfl⟩⟩

/-- Before the functions the text has the package clause, the imports and the helper. -/
theorem exists_functions_of_generate {text : String} (h : generate m package o registry = .ok text) :
    ∃ functions, text = "package " ++ package ++ "\n\n" ++
      (if collectImports m registry = [] then "" else
        "import (\n" ++ String.join ((collectImports m registry).map fun i => "\t" ++ i ++ "\n") ++ ")\n\n") ++
      "func ptr[T any](v T) *T \x7b return &v \x7d\n\n" ++ functions := by
  obtain ⟨file, hfile, rfl⟩ := map_eq_ok_iff.1 h
  obtain ⟨functions, rfl⟩ := FixtureFile.exists_functions_of_ofModel hfile
  exact ⟨_, FixtureFile.render_eq _⟩

/-- **The imports cover the external types that reach the text.**

* Registries with the same required imports that agree on the external types in fields give the same result.
* The imports are strictly increasing. There are none if no field is of an external type, and else they are
  those that are required and those of the external types in fields that the registry has. The text has them
  behind its package clause, each on a line of its own.
* If a change of a registered type under one name changes the result, then the import of that type is among
  them. -/
theorem imports_cover_externals (m : TypeModel) (registry : ExternalRegistry) :
    (∀ registry' : ExternalRegistry, registry'.requiredImports = registry.requiredImports →
      (∀ n, m.UsesExternal n → registry'.get? n = registry.get? n) →
      ∀ package o, generate m package o registry' = generate m package o registry) ∧
    (collectImports m registry).Pairwise (· < ·) ∧
    ((∀ n, ¬ m.UsesExternal n) → collectImports m registry = []) ∧
    ((∃ n, m.UsesExternal n) → ∀ i, i ∈ collectImports m registry ↔ i ∈ registry.requiredImports ∨
      ∃ n, m.UsesExternal n ∧ ∃ x, registry.get? n = some x ∧ x.importSpec = i) ∧
    (∀ package o text, generate m package o registry = .ok text →
      ∃ functions, text = "package " ++ package ++ "\n\n" ++
        (if collectImports m registry = [] then "" else
          "import (\n" ++ String.join ((collectImports m registry).map fun i => "\t" ++ i ++ "\n") ++ ")\n\n") ++
        "func ptr[T any](v T) *T \x7b return &v \x7d\n\n" ++ functions) ∧
    ∀ n x, registry.get? n = some x → ∀ registry' : ExternalRegistry, registry'.requiredImports =
      registry.requiredImports →
      (∀ k, k ≠ n → registry'.get? k = registry.get? k) →
      ∀ package o, generate m package o registry' ≠ generate m package o registry →
        x.importSpec ∈ collectImports m registry := by
  refine ⟨fun registry' hi hr package o =>
    generate_congr_registry hi hr, pairwise_collectImports, fun hnone => ?_,
    fun hsome i => ?_, fun package o text => exists_functions_of_generate, ?_⟩
  · refine List.eq_nil_iff_forall_not_mem.2 fun i hi => ?_
    obtain ⟨⟨n, hn⟩, -⟩ := mem_collectImports_iff.1 hi
    exact hnone n hn
  · exact mem_collectImports_iff.trans (and_iff_right hsome)
  · intro n x hx registry' hi hr package o hne
    -- a type that no field is of would change nothing
    by_cases hn : m.UsesExternal n
    · exact importSpec_mem_collectImports hn hx
    · refine absurd (generate_congr_registry hi fun k hk => hr k ?_) hne
      rintro rfl
      exact hn hk

/-- A trip that has legs: the time is found below a pointer, in the record that a sum type expands into. -/
def tripModel : TypeModel where
  records := .ofList [("Trip", ⟨"Trip", [⟨"Legs", .sequence (.sumType "isTrip_Leg")⟩]⟩),
    ("Trip_Flight", ⟨"Trip_Flight", [⟨"Start", .pointer (.external "Time")⟩]⟩)]
  enumerations := .empty
  aliases := .empty
  sumTypes := .ofList [("isTrip_Leg", some "Trip_Flight")]

theorem usesExternal_tripModel {n : String} : tripModel.UsesExternal n ↔ n = "Time" := by
  have hused : usedExternals tripModel = ["Time"] := by decide
  rw [← mem_usedExternals_iff, hused, List.mem_singleton]

/-- External types with the given values. -/
def clockRegistry (time stamp : String) : ExternalRegistry where
  types := (Catalogue.empty.put "Stamp" ⟨"\"clock/stamp\"", stamp, ""⟩).put "Time"
    ⟨"\"clock\"", time, "clock.Time"⟩
  requiredImports := []

theorem get?_clockRegistry {time stamp n : String} (h : n ≠ "Time") :
    (clockRegistry time stamp).get? n = (Catalogue.empty.put "Stamp" ⟨"\"clock/stamp\"", stamp, ""⟩).get? n :=
  Catalogue.get?_put.trans (if_neg h.symm)

theorem collectImports_tripModel {time stamp : String} :
    collectImports tripModel (clockRegistry time stamp) = ["\"clock\""] := by
  have hused : usedExternals tripModel = ["Time"] := by decide
  have hspecs : (["Time"].filterMap fun n => ((clockRegistry time stamp).get? n).map ExternalType.importSpec) =
    ["\"clock\""] := rfl
  have hrequired : (clockRegistry time stamp).requiredImports = [] := rfl
  simp only [collectImports, hused, hspecs, hrequired, List.nil_append]
  rw [sortedDistinct, List.mergeSort_of_pairwise (by decide)]
  rfl

/-- Another value for the stamp does not matter to the trip; one for the time does, and its import is there. -/
theorem imports_cover_externals_trip :
    ((clockRegistry "clock.Now()" "stamp.New()").requiredImports =
      (clockRegistry "clock.Now()" "nil").requiredImports ∧
      (∀ n, tripModel.UsesExternal n →
        (clockRegistry "clock.Now()" "stamp.New()").get? n = (clockRegistry "clock.Now()" "nil").get? n) ∧
      generate tripModel "p" {} (clockRegistry "clock.Now()" "stamp.New()") =
        generate tripModel "p" {} (clockRegistry "clock.Now()" "nil")) ∧
    (∃ functions, generate tripModel "p" {} (clockRegistry "clock.Now()" "nil") = .ok ("package p\n\n" ++
      "import (\n\t\"clock\"\n)\n\n" ++ "func ptr[T any](v T) *T \x7b return &v \x7d\n\n" ++ functions)) ∧
    generate tripModel "p" {} (clockRegistry "clock.Zero" "nil") ≠
      generate tripModel "p" {} (clockRegistry "clock.Now()" "nil") ∧
      "\"clock\"" ∈ collectImports tripModel (clockRegistry "clock.Now()" "nil") := by
  obtain ⟨hsame, -, -, -, htext, hseen⟩ := imports_cover_externals tripModel (clockRegistry "clock.Now()" "nil")
  have hagree : ∀ n, tripModel.UsesExternal n →
      (clockRegistry "clock.Now()" "stamp.New()").get? n = (clockRegistry "clock.Now()" "nil").get? n := by
    intro n hn
    rw [usesExternal_tripModel.1 hn]
    decide
  have hsorted : tripModel.records.sortedValues =
      [⟨"Trip", [⟨"Legs", .sequence (.sumType "isTrip_Leg")⟩]⟩,
        ⟨"Trip_Flight", [⟨"Start", .pointer (.external "Time")⟩]⟩] := by
    rw [Catalogue.sortedValues, List.mergeSort_of_pairwise (by decide)]
    rfl
  have hok : (generate tripModel "p" {} (clockRegistry "clock.Now()" "nil")).isOk := by
    rw [generate, FixtureFile.ofModel, hsorted, collectImports_tripModel]
    decide +kernel
  have hfunctions : ∃ functions, generate tripModel "p" {} (clockRegistry "clock.Now()" "nil") =
    .ok ("package p\n\n" ++
      "import (\n\t\"clock\"\n)\n\n" ++ "func ptr[T any](v T) *T \x7b return &v \x7d\n\n" ++ functions) := by
    cases h : generate tripModel "p" {} (clockRegistry "clock.Now()" "nil") with
    | error e =>
      rw [h] at hok
      cases hok
    | ok text =>
      obtain ⟨functions, rfl⟩ := htext "p" {} text h
      refine ⟨functions, ?_⟩
      rw [collectImports_tripModel]
      rfl
  have hne : generate tripModel "p" {} (clockRegistry "clock.Zero" "nil") ≠
      generate tripModel "p" {} (clockRegistry "clock.Now()" "nil") := by
    rw [generate, generate, FixtureFile.ofModel, FixtureFile.ofModel, hsorted]
    decide +kernel
  exact ⟨⟨rfl, hagree, hsame (clockRegistry "clock.Now()" "stamp.New()") rfl hagree "p" {}⟩, hfunctions, hne,
    hseen "Time" _ rfl (clockRegistry "clock.Zero" "nil") rfl
      (fun k hk => (get?_clockRegistry hk).trans (get?_clockRegistry hk).symm) "p" {} hne⟩

end GoFixtures
