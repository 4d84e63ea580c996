import GoFixtures.Proofs.Members
import Mathlib.Data.List.Forall2

/-!
# The scopes agree up to guesses

The scope of a single text differs from that of a package only at names that are not declared: it guesses what
they are by their looks. So the two models of the same declarations differ only where a field ends in such a
name.

* `DeclarationIndex.Guessed`: the two references that a type expression is, the second with guesses.
* `DeclarationIndex.AgreesUpToGuesses`: two models that differ in guesses alone.
* `scopes_agree`: so do the models in the two scopes, and they are the same if no name has to be guessed.
-/

namespace GoFixtures

open Go

/-- A type expression ends in a name without a package, below pointers and slices. -/
def Go.TypeExpr.EndsIn (n : String) : TypeExpr → Prop
  | name k => k = n
  | pointer e | slice e => e.EndsIn n
  | _ => False

namespace DeclarationIndex

/-- **References with guesses.** They have the same pointers and sequences, and below them they are the same,
except where a name without a package is not declared and is left unresolved: it is guessed to be a sum type
if it is called like one, and else to be a record if it is exported and not predeclared. -/
inductive Guessed (index : DeclarationIndex) : TypeExpr → TypeRef → TypeRef → Prop
  | pointer {e : TypeExpr} {t t' : TypeRef} (h : Guessed index e t t') :
      Guessed index (.pointer e) (.pointer t) (.pointer t')
  | slice {e : TypeExpr} {t t' : TypeRef} (h : Guessed index e t t') :
      Guessed index (.slice e) (.sequence t) (.sequence t')
  | sumType {n : String} (hn : n ∉ index.byName.keys) (hs : isSumTypeName n) :
      Guessed index (.name n) (.unresolved n) (.sumType n)
  | record {n : String} (hn : n ∉ index.byName.keys) (hs : ¬ isSumTypeName n) (hp : n ∉ predeclaredNames)
      (hx : isExported n) :
      Guessed index (.name n) (.unresolved n) (.record n)
  | same {e : TypeExpr} {t : TypeRef} (hleaf : t.leaf = t)
      (h : ∀ n, e = .name n → t = .unresolved n → n ∉ index.byName.keys →
        ¬ isSumTypeName n ∧ (n ∈ predeclaredNames ∨ ¬ isExported n)) : Guessed index e t t

/-- Records with the same fields in the same order, each with the two references of the type that it is
declared with. -/
def GuessedRecord (index : DeclarationIndex) (r r' : Record) : Prop :=
  r.name = r'.name ∧ ∃ spec ∈ index.specs, spec.name = r.name ∧ ∃ fields, spec.type = .struct fields ∧
    List.Forall₂ (fun f f' => f.name = f'.name ∧ ∃ d ∈ fields, f.name ∈ d.names ∧
      index.Guessed d.type f.type f'.type)
      r.fields r'.fields

/-- **Models that differ in guesses alone.**

* `enumerations`, `aliases`, `sumTypes`: these are the same.
* `records`: the records have the same names in the same order, and the fields of the second model have
  guesses in them. -/
structure AgreesUpToGuesses (index : DeclarationIndex) (m m' : TypeModel) : Prop where
  enumerations : m.enumerations = m'.enumerations
  aliases : m.aliases = m'.aliases
  sumTypes : m.sumTypes = m'.sumTypes
  records : List.Forall₂ (fun e e' => e.1 = e'.1 ∧ index.GuessedRecord e.2 e'.2) m.records.entries
    m'.records.entries

/-- No name has to be guessed: each name without a package that a field of a record ends in is primitive,
registered or declared. -/
def KnowsNames (index : DeclarationIndex) (registry : ExternalRegistry) : Prop :=
  ∀ spec ∈ index.specs, declaresRecord spec → ∀ fields, spec.type = .struct fields →
    ∀ d ∈ fields, (∃ f ∈ d.names, keepsField f) →
      ∀ n, d.type.EndsIn n → isPrimitiveName n ∨ registry.contains n ∨ n ∈ index.byName.keys

variable {index : DeclarationIndex} {registry : ExternalRegistry} {n : String} {e : TypeExpr}

/-! ### Names -/

theorem lexicalScope_of_mem (h : n ∈ index.byName.keys) : lexicalScope index n = packageScope index n := by
  rw [lexicalScope, if_pos (Catalogue.contains_iff_mem_keys.2 h), packageScope]

theorem packageScope_of_not_mem (h : n ∉ index.byName.keys) : packageScope index n = none := by
  have hget : index.byName.get? n = none := Entries.get?_eq_none_iff.2 h
  rw [packageScope, kindOf?, hget]

theorem leaf_classifyName {scope : Scope} :
    (classifyName scope registry n).leaf = classifyName scope registry n := by
  unfold classifyName
  repeat' split
  all_goals rfl

theorem classifyName_of_known (h : isPrimitiveName n ∨ registry.contains n ∨ n ∈ index.byName.keys) :
    classifyName (lexicalScope index) registry n = classifyName (packageScope index) registry n := by
  unfold classifyName
  rcases h with h | h | h
  · rw [if_pos h, if_pos h]
  · rw [if_pos h, if_pos h]
  · rw [lexicalScope_of_mem h]

/-- A name that is known is the same in both scopes, and of the others the looks decide. -/
theorem guessed_classifyName : index.Guessed (.name n) (classifyName (packageScope index) registry n)
    (classifyName (lexicalScope index) registry n) := by
  by_cases hknown : isPrimitiveName n ∨ registry.contains n ∨ n ∈ index.byName.keys
  · rw [classifyName_of_known hknown]
    refine .same leaf_classifyName fun k hk ht hn => ?_
    cases hk
    -- a known name that is not declared does not stay unresolved
    unfold classifyName at ht
    rcases hknown with h | h | h
    · rw [if_pos h] at ht
      cases ht
    · rw [if_pos h] at ht
      split at ht <;> cases ht
    · exact absurd h hn
  · simp only [not_or] at hknown
    obtain ⟨hp, hr, hd⟩ := hknown
    have hc : ¬ index.byName.contains n := fun h => hd (Catalogue.contains_iff_mem_keys.1 h)
    simp only [classifyName, if_neg hp, if_neg hr, packageScope_of_not_mem hd, lexicalScope, if_neg hc]
    by_cases hs : isSumTypeName n
    · simp only [if_pos hs]
      exact .sumType hd hs
    · simp only [if_neg hs]
      by_cases hpre : predeclaredNames.contains n
      · rw [if_pos hpre]
        refine .same rfl fun k hk _ _ => ?_
        cases hk
        exact ⟨hs, .inl (List.contains_iff_mem.1 hpre)⟩
      · rw [if_neg hpre]
        by_cases hx : isExported n
        · rw [if_pos hx]
          exact .record hd hs (fun h => hpre (List.contains_iff_mem.2 h)) hx
        · rw [if_neg hx]
          refine .same rfl fun k hk _ _ => ?_
          cases hk
          exact ⟨hs, .inr hx⟩

/-! ### Type expressions -/

theorem guessed_classify (index : DeclarationIndex) (registry : ExternalRegistry) (e : TypeExpr) :
    index.Guessed e (classify (packageScope index) registry e) (classify (lexicalScope index) registry e) := by
  fun_induction classify (packageScope index) registry e with
  | case1 n =>
    rw [classify]
    exact guessed_classifyName
  | case2 p n hn =>
    rw [classify, if_pos hn]
    exact .same rfl fun k hk => by cases hk
  | case3 p n hn =>
    rw [classify, if_neg hn]
    exact .same rfl fun k hk => by cases hk
  | case4 e ih =>
    rw [classify]
    exact .pointer ih
  | case5 e ih =>
    rw [classify]
    exact .slice ih
  | case6 e hname hqualified hpointer hslice =>
    rw [classify]
    · exact .same rfl fun k hk => absurd hk (hname k)
    all_goals assumption

theorem classify_of_known
    (h : ∀ n, e.EndsIn n → isPrimitiveName n ∨ registry.contains n ∨ n ∈ index.byName.keys) :
    classify (lexicalScope index) registry e = classify (packageScope index) registry e := by
  fun_induction classify (packageScope index) registry e with
  | case1 n =>
    rw [classify]
    exact classifyName_of_known (h n rfl)
  | case4 e ih | case5 e ih => rw [classify, ih h]
  | case2 p n hn => rw [classify, if_pos hn]
  | case3 p n hn => rw [classify, if_neg hn]
  | case6 e hname hqualified hpointer hslice =>
    rw [classify]
    all_goals assumption

end DeclarationIndex

/-! ### Records -/

section Entries

variable {α τ : Type} {R : α → α → Prop}

theorem forall₂_put {es fs : Entries α} {k : String} {v w : α}
    (h : List.Forall₂ (fun e e' => e.1 = e'.1 ∧ R e.2 e'.2) es fs) (hv : R v w) :
    List.Forall₂ (fun e e' => e.1 = e'.1 ∧ R e.2 e'.2) (Entries.put es k v) (Entries.put fs k w) := by
  induction h with
  | nil => exact .cons ⟨rfl, hv⟩ .nil
  | @cons e f es fs hef h ih =>
    obtain ⟨name, a⟩ := e
    obtain ⟨other, b⟩ := f
    obtain rfl : name = other := hef.1
    rw [Entries.put, Entries.put]
    split
    · exact .cons ⟨rfl, hv⟩ h
    · exact .cons hef ih

theorem forall₂_putAll {c d : Catalogue α} {es fs : Entries α}
    (hc : List.Forall₂ (fun e e' => e.1 = e'.1 ∧ R e.2 e'.2) c.entries d.entries)
    (h : List.Forall₂ (fun e e' => e.1 = e'.1 ∧ R e.2 e'.2) es fs) :
    List.Forall₂ (fun e e' => e.1 = e'.1 ∧ R e.2 e'.2) (c.putAll es).entries (d.putAll fs).entries := by
  induction h generalizing c d with
  | nil => exact hc
  | @cons e f es fs hef _ ih =>
    rw [Catalogue.putAll_cons, Catalogue.putAll_cons, ← hef.1]
    exact ih (forall₂_put hc hef.2)

theorem forall₂_flatMap {S : τ → τ → Prop} {ts : List α} {f g : α → List τ}
    (h : ∀ t ∈ ts, List.Forall₂ S (f t) (g t)) :
    List.Forall₂ S (ts.flatMap f) (ts.flatMap g) := by
  induction ts with
  | nil => exact .nil
  | cons t ts ih =>
    rw [List.forall_mem_cons] at h
    rw [List.flatMap_cons, List.flatMap_cons]
    exact List.rel_append h.1 (ih h.2)

end Entries

namespace DeclarationIndex

variable (index : DeclarationIndex) (registry : ExternalRegistry)

theorem guessed_recordFields (fields : List (FieldDecl TypeExpr)) :
    List.Forall₂ (fun f f' => f.name = f'.name ∧ ∃ d ∈ fields, f.name ∈ d.names ∧
      index.Guessed d.type f.type f'.type)
      (recordFields (packageScope index) registry fields)
      (recordFields (lexicalScope index) registry fields) := by
  refine forall₂_flatMap fun d hd => ?_
  rw [List.forall₂_map_left_iff, List.forall₂_map_right_iff, List.forall₂_same]
  exact fun name hname => ⟨rfl, d, hd, (List.mem_filter.1 hname).1, guessed_classify index registry d.type⟩

/-- The record of a declaration in both scopes. -/
theorem guessed_entryOf {spec : TypeSpec} (hs : spec ∈ index.specs) :
    List.Forall₂ (fun e e' => e.1 = e'.1 ∧ index.GuessedRecord e.2 e'.2)
      (entryOf Record.name (recordOf? (packageScope index) registry spec))
      (entryOf Record.name (recordOf? (lexicalScope index) registry spec)) := by
  unfold recordOf?
  split
  · exact .nil
  · split
    · rename_i fields htype
      exact .cons ⟨rfl, rfl, spec, hs, rfl, fields, htype, guessed_recordFields index registry fields⟩ .nil
    · exact .nil

theorem recordOf?_of_known (h : index.KnowsNames registry) {spec : TypeSpec} (hs : spec ∈ index.specs) :
    recordOf? (lexicalScope index) registry spec = recordOf? (packageScope index) registry spec := by
  cases hrecord : declaresRecord spec with
  | false =>
    have hnone : ∀ scope, recordOf? scope registry spec = none := by
      intro scope
      rw [← Option.not_isSome_iff_eq_none, isSome_recordOf?, hrecord]
      exact Bool.false_ne_true
    rw [hnone, hnone]
  | true =>
    obtain ⟨-, -, fields, htype⟩ := declaresRecord_iff.1 hrecord
    have hfields : recordFields (lexicalScope index) registry fields =
        recordFields (packageScope index) registry fields := by
      refine List.flatMap_congr fun d hd => List.map_congr_left fun name hname => ?_
      obtain ⟨hname, hkeep⟩ := List.mem_filter.1 hname
      rw [classify_of_known (h spec hs hrecord fields htype d hd ⟨name, hname, hkeep⟩)]
    simp only [recordOf?, htype, hfields]

end DeclarationIndex

/-- **The scopes agree up to guesses.** The models of the same declarations in the scope of a package and in
that of a single text differ in guesses alone, and they are the same if no name has to be guessed. -/
theorem scopes_agree (index : DeclarationIndex) (registry : ExternalRegistry) :
    index.AgreesUpToGuesses (index.toModel (packageScope index) registry)
      (index.toModel (lexicalScope index) registry) ∧
      (index.KnowsNames registry →
        index.toModel (lexicalScope index) registry = index.toModel (packageScope index) registry) := by
  have henumerations : (index.toModel (packageScope index) registry).enumerations =
      (index.toModel (lexicalScope index) registry).enumerations := by
    rw [DeclarationIndex.enumerations_toModel, DeclarationIndex.enumerations_toModel]
  have haliases : (index.toModel (packageScope index) registry).aliases =
      (index.toModel (lexicalScope index) registry).aliases := by
    rw [DeclarationIndex.aliases_toModel, DeclarationIndex.aliases_toModel]
  have hsums : (index.toModel (packageScope index) registry).sumTypes =
      (index.toModel (lexicalScope index) registry).sumTypes := by
    rw [DeclarationIndex.sumTypes_toModel, DeclarationIndex.sumTypes_toModel]
  refine ⟨⟨henumerations, haliases, hsums, ?_⟩, fun hknown => ?_⟩
  · rw [DeclarationIndex.records_toModel, DeclarationIndex.records_toModel]
    exact forall₂_putAll .nil (forall₂_flatMap fun spec hs => index.guessed_entryOf registry hs)
  · have hrecords : (index.toModel (lexicalScope index) registry).records =
        (index.toModel (packageScope index) registry).records := by
      rw [DeclarationIndex.records_toModel, DeclarationIndex.records_toModel]
      refine congrArg Catalogue.ofList (List.flatMap_congr fun spec hs => ?_)
      rw [index.recordOf?_of_known registry hknown hs]
    exact TypeModel.mk.injEq .. ▸ ⟨hrecords, henumerations.symm, haliases.symm, hsums.symm⟩

/-- A ship with a flag, cargo and a crew, all of which are declared; the crew is not exported. -/
def harbor : SourceFile where
  package := "p"
  types := [⟨"Flag", .name "string", 3, false, false⟩,
    ⟨"isShip_Cargo", .interface ["isShip_Cargo"], 5, false, false⟩,
    ⟨"sailor", .struct [], 7, false, false⟩,
    ⟨"Ship", .struct [⟨["Flag"], .pointer (.name "Flag"), none⟩, ⟨["Cargo"], .name "isShip_Cargo", none⟩,
      ⟨["Crew"], .slice (.name "sailor"), none⟩, ⟨["note"], .name "Note", none⟩], 9, false, false⟩]
  constGroups := []

/-- In the harbor no name has to be guessed: that of the note does not matter, since its field is not exported. -/
theorem scopes_agree_harbor : (DeclarationIndex.ofFiles [harbor]).KnowsNames .standard ∧
    (DeclarationIndex.ofFiles [harbor]).toModel (lexicalScope (.ofFiles [harbor])) .standard =
      (DeclarationIndex.ofFiles [harbor]).toModel (packageScope (.ofFiles [harbor])) .standard := by
  have hknown : (DeclarationIndex.ofFiles [harbor]).KnowsNames .standard := by
    intro spec hs hr fields htype d hd hkeep n hn
    simp only [DeclarationIndex.ofFiles, harbor, List.flatMap_cons, List.flatMap_nil, List.append_nil,
      List.mem_cons,
      List.not_mem_nil, or_false] at hs
    rcases hs with rfl | rfl | rfl | rfl
    · cases htype
    · cases htype
    · obtain ⟨-, hx, -⟩ := declaresRecord_iff.1 hr
      exact absurd hx (by decide)
    · cases htype
      simp only [List.mem_cons, List.not_mem_nil, or_false] at hd
      rcases hd with rfl | rfl | rfl | rfl
      · cases hn
        exact .inr (.inr (by decide))
      · cases hn
        exact .inr (.inr (by decide))
      · cases hn
        exact .inr (.inr (by decide))
      · obtain ⟨f, hf, hkeep⟩ := hkeep
        rw [List.mem_singleton.1 hf] at hkeep
        exact absurd hkeep (by decide)
  exact ⟨hknown, (scopes_agree _ .standard).2 hknown⟩

end GoFixtures
