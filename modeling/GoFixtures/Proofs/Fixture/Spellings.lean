import GoFixtures.Proofs.Fixture.Dependencies

/-!
# Spellings do not reach the text

A reference that has no rule for its values keeps its spelling, so that messages can name it. Its value is
`nil` and its type is the empty interface, whatever the spelling is, and neither the imports nor the
expansions of sum types look at it.

* `TypeModel.withoutSpellings`: a model with all these spellings blank.
* `Value.ofRef_withoutSpelling`, `Value.expand_withoutSpellings`: values and expansions are the same in it.
* `FixtureFile.ofModel_withoutSpellings`: and so is the file.
* `generate_congr_spellings`: two models that differ in spellings and in the order of their names have the
  same text, or none.
-/

namespace GoFixtures

/-- The reference with a blank for the spelling of what has no rule. -/
def TypeRef.withoutSpelling : TypeRef → TypeRef
  | unresolved _ => unresolved ""
  | pointer e => pointer e.withoutSpelling
  | sequence e => sequence e.withoutSpelling
  | t => t

/-- The field with a blank for the spelling in its type. -/
def Field.withoutSpelling (f : Field) : Field := { f with type := f.type.withoutSpelling }

/-- The record with blanks for the spellings in its fields. -/
def Record.withoutSpellings (r : Record) : Record := { r with fields := r.fields.map Field.withoutSpelling }

/-- The model with blanks for all spellings. -/
def TypeModel.withoutSpellings (m : TypeModel) : TypeModel :=
  { m with records := m.records.mapWithKey fun _ r => r.withoutSpellings }

variable {m : TypeModel} {o : Options} {registry : ExternalRegistry}

/-! ### References -/

namespace TypeRef

variable {t : TypeRef}

theorem leaf_withoutSpelling : t.withoutSpelling.leaf = t.leaf.withoutSpelling := by
  induction t with
  | pointer e ih | sequence e ih => exact ih
  | _ => rfl

theorem withoutSpelling_eq_external {n : String} (h : t.withoutSpelling = external n) : t = external n := by
  cases t <;> simp_all [withoutSpelling]

theorem exists_of_withoutSpelling_eq_unresolved {s : String} (h : t.withoutSpelling = unresolved s) :
    ∃ s, t = unresolved s := by
  cases t <;> simp_all [withoutSpelling]

end TypeRef

theorem typeName_withoutSpelling {t : TypeRef} :
    typeName o registry t.withoutSpelling = typeName o registry t := by
  induction t with
  | pointer e ih | sequence e ih => rw [TypeRef.withoutSpelling, typeName, typeName, ih]
  | _ => rfl

theorem externalOf?_withoutSpelling {f : Field} : externalOf? f.withoutSpelling = externalOf? f := by
  have hleaf : f.withoutSpelling.type.leaf = f.type.leaf.withoutSpelling := TypeRef.leaf_withoutSpelling
  rw [externalOf?, externalOf?, hleaf]
  cases f.type.leaf <;> rfl

/-! ### Values -/

namespace Value

variable {expand : String → Except CyclicExpansion Value} {field enclosing : String} {t : TypeRef}
    {fs : List Field}

/-- **The value of a reference does not depend on spellings.** -/
theorem ofRef_withoutSpelling :
    ofRef o registry expand field enclosing t.withoutSpelling = ofRef o registry expand field enclosing t := by
  fun_induction ofRef o registry expand field enclosing t with
  | case7 n hc | case8 n hc => simp [TypeRef.withoutSpelling, ofRef, hc]
  | case9 e hu he ih =>
    -- below the pointer there is still neither a spelling nor an external type
    rw [TypeRef.withoutSpelling, ofRef, ih]
    · intro s hs
      obtain ⟨s', rfl⟩ := TypeRef.exists_of_withoutSpelling_eq_unresolved hs
      exact hu s' rfl
    · intro n hn
      exact he n (TypeRef.withoutSpelling_eq_external hn)
  | case10 e ih => rw [TypeRef.withoutSpelling, ofRef, ih, typeName_withoutSpelling]
  | _ => rfl

theorem ofFields_withoutSpellings : ofFields o registry expand enclosing (fs.map Field.withoutSpelling) =
    ofFields o registry expand enclosing fs := by
  induction fs with
  | nil => rfl
  | cons f fs ih =>
    have hvalue : ofRef o registry expand f.withoutSpelling.name enclosing f.withoutSpelling.type =
        ofRef o registry expand f.name enclosing f.type := ofRef_withoutSpelling
    rw [List.map_cons, ofFields, ofFields, hvalue, ih]
    rfl

theorem fieldsOf_withoutSpellings {name : String} :
    fieldsOf m.withoutSpellings name = (fieldsOf m name).map Field.withoutSpelling := by
  have hget : m.withoutSpellings.records.get? name = (m.records.get? name).map Record.withoutSpellings :=
    Catalogue.get?_mapWithKey
  rw [fieldsOf, fieldsOf, hget]
  cases m.records.get? name <;> rfl

/-- **Expansions do not depend on spellings.** -/
theorem expand_withoutSpellings : Value.expand m.withoutSpellings o registry = Value.expand m o registry := by
  have hbudget : ∀ budget, ofSumType m.withoutSpellings o registry budget = ofSumType m o registry budget := by
    intro budget
    induction budget with
    | zero =>
      funext s
      have hmember : m.withoutSpellings.member? s = m.member? s := rfl
      cases hs : m.member? s with
      | none => rw [ofSumType_none hs, ofSumType_none (hmember.trans hs)]
      | some name =>
        rw [ofSumType_zero hs, ofSumType_zero (hmember.trans hs), fieldsOf_withoutSpellings]
        simp only [List.map_eq_nil_iff]
    | succ budget ih =>
      funext s
      have hmember : m.withoutSpellings.member? s = m.member? s := rfl
      cases hs : m.member? s with
      | none => rw [ofSumType_none hs, ofSumType_none (hmember.trans hs)]
      | some name =>
        rw [ofSumType_succ hs, ofSumType_succ (hmember.trans hs), ih, fieldsOf_withoutSpellings,
          ofFields_withoutSpellings]
  exact hbudget m.sumTypes.keys.length

end Value

/-! ### Files -/

theorem usedExternals_withoutSpellings : usedExternals m.withoutSpellings = usedExternals m := by
  have hfields : ∀ r : Record, r.withoutSpellings.fields.filterMap externalOf? =
      r.fields.filterMap externalOf? := by
    intro r
    rw [Record.withoutSpellings, List.filterMap_map]
    exact List.filterMap_congr fun f _ => externalOf?_withoutSpelling
  have hvalues : m.withoutSpellings.records.values = m.records.values.map Record.withoutSpellings :=
    Catalogue.values_mapWithKey
  rw [usedExternals, usedExternals, hvalues, List.flatMap_map]
  exact List.flatMap_congr fun r _ => hfields r

theorem FixtureFunction.ofRecord_withoutSpellings {r : Record} :
    ofRecord m.withoutSpellings o registry r.withoutSpellings = ofRecord m o registry r := by
  have hfields : r.withoutSpellings.fields = r.fields.map Field.withoutSpelling := rfl
  rw [ofRecord, ofRecord, Value.expand_withoutSpellings, hfields, Value.ofFields_withoutSpellings]
  rfl

/-- **The file of a model does not depend on spellings.** -/
theorem FixtureFile.ofModel_withoutSpellings {package : String} :
    ofModel m.withoutSpellings package o registry = ofModel m package o registry := by
  have himports : collectImports m.withoutSpellings registry = collectImports m registry := by
    rw [collectImports, collectImports, usedExternals_withoutSpellings]
  have hsorted : m.withoutSpellings.records.sortedValues = m.records.sortedValues.map Record.withoutSpellings :=
    Catalogue.sortedValues_mapWithKey
  have hrecords :
    m.withoutSpellings.records.sortedValues.mapM (FixtureFunction.ofRecord m.withoutSpellings o registry) =
      m.records.sortedValues.mapM (FixtureFunction.ofRecord m o registry) := by
    rw [hsorted, List.mapM_map]
    exact mapM_congr_left fun r _ => FixtureFunction.ofRecord_withoutSpellings
  rw [ofModel, ofModel, hrecords, himports]
  rfl

/-- **Spellings and the order of names do not reach the text.** Two models are the same but for the spellings
of what has no rule, at whatever depth of their fields, and but for the order in which their names came in.
Then they have the same text in every package, with all options and external types, or both have none because
they come upon the same cyclic expansion. -/
theorem generate_congr_spellings {m m' : TypeModel} (h : m.withoutSpellings.Equiv m'.withoutSpellings)
    (package : String)
    (o : Options) (registry : ExternalRegistry) :
    generate m package o registry = generate m' package o registry := by
  have hfile : FixtureFile.ofModel m.withoutSpellings package o registry =
      FixtureFile.ofModel m'.withoutSpellings package o registry :=
    FixtureFile.ofModel_congr h rfl rfl (fun _ _ => rfl) package
  rw [FixtureFile.ofModel_withoutSpellings, FixtureFile.ofModel_withoutSpellings] at hfile
  rw [generate, generate, hfile]

/-- The records of a pier, with the given spellings for its chart, below a pointer and a sequence, and for the
signal of a quay. -/
def pierRecords (chart signal : String) : Entries Record :=
  [("Pier", ⟨"Pier", [⟨"Chart", .pointer (.sequence (.unresolved chart))⟩, ⟨"Berth", .sumType "isPier_Berth"⟩,
      ⟨"Depth", .typeAlias "Depth"⟩]⟩),
    ("Pier_Quay", ⟨"Pier_Quay", [⟨"Signal", .unresolved signal⟩]⟩)]

/-- The model of the pier. -/
def pierModel (chart signal : String) : TypeModel where
  records := .ofList (pierRecords chart signal)
  enumerations := .empty
  aliases := .ofList [("Depth", ⟨"Depth", "int"⟩), ("Length", ⟨"Length", "int"⟩)]
  sumTypes := .ofList [("isPier_Berth", some "Pier_Quay"), ("isPier_Light", none)]

/-- The model of the pier with all names in the opposite order. -/
def turnedPier (chart signal : String) : TypeModel where
  records := .ofList (pierRecords chart signal).reverse
  enumerations := .empty
  aliases := .ofList [("Length", ⟨"Length", "int"⟩), ("Depth", ⟨"Depth", "int"⟩)]
  sumTypes := .ofList [("isPier_Light", none), ("isPier_Berth", some "Pier_Quay")]

/-- Neither the order nor the spellings matter to the pier. -/
theorem generate_congr_spellings_pier :
    (pierModel "map[...]int" "func(...)").withoutSpellings.Equiv
      (turnedPier "Chart" "chan int").withoutSpellings ∧
      generate (pierModel "map[...]int" "func(...)") "p" {} .standard =
        generate (turnedPier "Chart" "chan int") "p" {} .standard := by
  have hpier :
      (pierModel "map[...]int" "func(...)").withoutSpellings.records = .ofList (pierRecords "" "") := by decide
  have hturned : (turnedPier "Chart" "chan int").withoutSpellings.records =
    .ofList (pierRecords "" "").reverse := by decide
  have h : (pierModel "map[...]int" "func(...)").withoutSpellings.Equiv
      (turnedPier "Chart" "chan int").withoutSpellings := by
    refine ⟨?_, .refl _, .of_perm (.swap _ _ _) (by decide), .of_perm (.swap _ _ _) (by decide)⟩
    rw [hpier, hturned]
    exact .of_perm (List.reverse_perm _).symm (by decide)
  exact ⟨h, generate_congr_spellings h "p" {} .standard⟩

end GoFixtures
