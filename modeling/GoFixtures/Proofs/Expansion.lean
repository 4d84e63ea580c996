import GoFixtures.Fixture.Synthesis
import GoFixtures.Proofs.Outcome
import Mathlib.Logic.Relation

/-!
# Which expansions end

A sum type expands into its member with all fields, and a field expands a sum type again if that is what its
type ends in below pointers and sequences. These steps are the edges of a graph on the names of sum types,
`TypeModel.Expands`.

* `endless_of_error`: where the budget runs out, the path to that place closes a cycle.
* `error_of_endless`: on a cycle no budget is enough, since every field has its value built.
* `synthesize_error_iff_reachesCycle`: so a reference has no value exactly if a cycle is reached from it, and
  every other one has a text.
-/

namespace GoFixtures

open Relation (ReflTransGen TransGen)

/-- The expansion of one sum type contains that of another: its member is a record, and a field of that is of
the other below pointers and sequences. -/
def TypeModel.Expands (m : TypeModel) (s s' : String) : Prop :=
  ∃ name r f, m.sumTypes.get? s = some (some name) ∧ name ≠ "" ∧ m.records.get? name = some r ∧ f ∈ r.fields ∧
    f.type.leaf = .sumType s'

/-- A cycle is reached from a sum type. -/
def TypeModel.Endless (m : TypeModel) (s : String) : Prop :=
  ∃ c, ReflTransGen m.Expands s c ∧ TransGen m.Expands c c

/-- A cycle is reached from a reference. -/
def TypeModel.ReachesCycle (m : TypeModel) (t : TypeRef) : Prop :=
  ∃ s, t.leaf = .sumType s ∧ m.Endless s

variable {m : TypeModel} {o : Options} {registry : ExternalRegistry} {s s' : String}

namespace TypeModel

/-- What expands into something endless is endless. -/
theorem Endless.of_expands (h : m.Expands s s') (hs : m.Endless s') : m.Endless s := by
  obtain ⟨c, hc, hcc⟩ := hs
  exact ⟨c, .head h hc, hcc⟩

/-- Something endless expands into something endless. -/
theorem Endless.exists_expands (h : m.Endless s) : ∃ s', m.Expands s s' ∧ m.Endless s' := by
  obtain ⟨c, hc, hcc⟩ := h
  rcases hc.cases_head with rfl | ⟨b, hb, hbc⟩
  · obtain ⟨b, hb, hbs⟩ := TransGen.head'_iff.1 hcc
    exact ⟨b, hb, s, hbs, hcc⟩
  · exact ⟨b, hb, c, hbc, hcc⟩

theorem member?_eq_some_iff {name : String} :
    m.member? s = some name ↔ m.sumTypes.get? s = some (some name) ∧ name ≠ "" := by
  unfold member?
  split
  · rename_i n hn
    by_cases he : n = ""
    · subst he
      simp only [hn, Option.some.injEq]
      constructor
      · intro h; simp at h
      · rintro ⟨rfl, h⟩; exact absurd rfl h
    · simp only [hn, String.isEmpty_iff, he, if_false, Option.some.injEq]
      constructor
      · rintro rfl; exact ⟨rfl, he⟩
      · exact And.left
  · rename_i hn
    constructor
    · intro h; cases h
    · rintro ⟨h, -⟩; exact absurd h (hn name)

end TypeModel

namespace Value

section Fields

variable {expand : String → Except CyclicExpansion Value} {field enclosing : String} {t : TypeRef}
    {fs : List Field}

/-- Only the sum type at the end of a reference can fail to have a value. -/
theorem ofRef_eq_error_iff {e : CyclicExpansion} :
    ofRef o registry expand field enclosing t = .error e ↔ ∃ s, t.leaf = .sumType s ∧ expand s = .error e := by
  fun_induction ofRef o registry expand field enclosing t with
  | case9 t _ _ ih => rw [map_eq_error_iff, ih, TypeRef.leaf]
  | case10 t ih => rw [map_eq_error_iff, ih, TypeRef.leaf]
  | _ => simp [TypeRef.leaf]

/-- If the fields have no value, one of them has none. -/
theorem ofFields_error_mem {e : CyclicExpansion} (h : ofFields o registry expand enclosing fs = .error e) :
    ∃ f ∈ fs, ofRef o registry expand f.name enclosing f.type = .error e := by
  induction fs with
  | nil => cases h
  | cons f fs ih =>
    rw [ofFields, bind_eq_error_iff] at h
    rcases h with h | ⟨v, -, h⟩
    · exact ⟨f, List.mem_cons_self, h⟩
    · rw [bind_eq_error_iff] at h
      rcases h with h | ⟨vs, -, h⟩
      · obtain ⟨g, hg, h⟩ := ih h
        exact ⟨g, List.mem_cons_of_mem _ hg, h⟩
      · cases h

/-- The values of fields stand in the order of the fields, each under its name. -/
theorem ofFields_eq_ok_iff {vs : List (String × Value)} : ofFields o registry expand enclosing fs = .ok vs ↔
    List.Forall₂ (fun f nv => nv.1 = f.name ∧
      ofRef o registry expand f.name enclosing f.type = .ok nv.2) fs vs := by
  induction fs generalizing vs with
  | nil => simp [ofFields, eq_comm]
  | cons f fs ih =>
    simp only [ofFields, bind_eq_ok_iff, List.forall₂_cons_left_iff, ← ih]
    constructor
    · rintro ⟨v, hv, more, hm, h⟩; cases h; exact ⟨(f.name, v), more, ⟨rfl, hv⟩, hm, rfl⟩
    · rintro ⟨⟨n, v⟩, more, ⟨rfl, hv⟩, hm, rfl⟩; exact ⟨v, hv, more, hm, rfl⟩

/-- Every field has its value built, so one that has none spoils the record. -/
theorem ofFields_error_of_mem {f : Field} (hf : f ∈ fs) {e : CyclicExpansion}
    (h : ofRef o registry expand f.name enclosing f.type = .error e) :
    ∃ e', ofFields o registry expand enclosing fs = .error e' := by
  induction fs with
  | nil => cases hf
  | cons g fs ih =>
    cases hg : ofRef o registry expand g.name enclosing g.type with
    | error e' => exact ⟨e', by rw [ofFields, hg]; rfl⟩
    | ok v =>
      have hfs : f ∈ fs := (List.mem_cons.1 hf).resolve_left (by rintro rfl; rw [h] at hg; cases hg)
      obtain ⟨e', he⟩ := ih hfs
      exact ⟨e', by rw [ofFields, hg, he]; rfl⟩

variable {expand' : String → Except CyclicExpansion Value} {v : Value} {vs : List (String × Value)}

/-- A larger budget keeps the values of references. -/
theorem ofRef_ok_mono (he : ∀ s v, expand s = .ok v → expand' s = .ok v)
    (h : ofRef o registry expand field enclosing t = .ok v) :
    ofRef o registry expand' field enclosing t = .ok v := by
  fun_induction ofRef o registry expand field enclosing t generalizing v with
  | case5 s => exact he s v h
  | case9 t _ _ ih =>
    obtain ⟨w, hw, rfl⟩ := map_eq_ok_iff.1 h
    rw [ofRef, ih hw]
    · rfl
    all_goals assumption
  | case10 t ih =>
    obtain ⟨w, hw, rfl⟩ := map_eq_ok_iff.1 h
    rw [ofRef, ih hw]
    rfl
  | _ => simp_all [ofRef]

/-- It keeps those of fields, too. -/
theorem ofFields_ok_mono (he : ∀ s v, expand s = .ok v → expand' s = .ok v)
    (h : ofFields o registry expand enclosing fs = .ok vs) :
    ofFields o registry expand' enclosing fs = .ok vs := by
  rw [ofFields_eq_ok_iff] at h ⊢
  exact h.imp fun f nv hf => ⟨hf.1, ofRef_ok_mono he hf.2⟩

end Fields

theorem mem_fieldsOf {name : String} {f : Field} :
    f ∈ fieldsOf m name ↔ ∃ r, m.records.get? name = some r ∧ f ∈ r.fields := by
  unfold fieldsOf
  cases m.records.get? name <;> simp

/-- A sum type expands into another one if a field of its member ends in it. -/
theorem expands_iff : m.Expands s s' ↔
    ∃ name f, m.member? s = some name ∧ f ∈ fieldsOf m name ∧ f.type.leaf = .sumType s' := by
  simp only [TypeModel.Expands, TypeModel.member?_eq_some_iff, mem_fieldsOf]
  constructor
  · rintro ⟨name, r, f, hs, hn, hr, hf, hl⟩; exact ⟨name, f, ⟨hs, hn⟩, ⟨r, hr, hf⟩, hl⟩
  · rintro ⟨name, f, ⟨hs, hn⟩, ⟨r, hr, hf⟩, hl⟩; exact ⟨name, r, f, hs, hn, hr, hf, hl⟩

/-- Without budget an expansion fails as soon as the member has fields. -/
theorem ofSumType_zero_error_iff :
    (∃ e, ofSumType m o registry 0 s = .error e) ↔ ∃ name, m.member? s = some name ∧ fieldsOf m name ≠ [] := by
  rw [ofSumType]
  cases m.member? s with
  | none => simp
  | some name => cases h : fieldsOf m name <;> simp [h]

/-- With budget an expansion fails exactly if one of those that it contains does. -/
theorem ofSumType_succ_error_iff {n : Nat} : (∃ e, ofSumType m o registry (n + 1) s = .error e) ↔
    ∃ s', m.Expands s s' ∧ ∃ e, ofSumType m o registry n s' = .error e := by
  -- the fields fail together, the sum types at their ends one by one
  have hfields : ∀ name, (∃ e, ofFields o registry (ofSumType m o registry n) name (fieldsOf m name) = .error e) ↔
      ∃ s' f, f ∈ fieldsOf m name ∧ f.type.leaf = .sumType s' ∧ ∃ e, ofSumType m o registry n s' = .error e := by
    intro name
    constructor
    · rintro ⟨e, he⟩
      obtain ⟨f, hf, h⟩ := ofFields_error_mem he
      obtain ⟨s', hl, h⟩ := ofRef_eq_error_iff.1 h
      exact ⟨s', f, hf, hl, e, h⟩
    · rintro ⟨s', f, hf, hl, e, he⟩
      exact ofFields_error_of_mem hf (ofRef_eq_error_iff.2 ⟨s', hl, he⟩)
  simp only [expands_iff]
  rw [ofSumType]
  cases hm : m.member? s with
  | none => simp
  | some name =>
    cases hf : fieldsOf m name with
    | nil => simp [hf]
    | cons f fs =>
      have hname := hfields name
      rw [hf] at hname
      simp only [hf, map_eq_error_iff, hname]
      rw [← hf]
      constructor
      · rintro ⟨s', f, hf, hl, he⟩; exact ⟨s', ⟨name, f, rfl, hf, hl⟩, he⟩
      · rintro ⟨s', ⟨name', f, hn, hf, hl⟩, he⟩
        obtain rfl := Option.some.inj hn
        exact ⟨s', f, hf, hl, he⟩

/-- **On a cycle no budget is enough.** -/
theorem error_of_endless (h : m.Endless s) (n : Nat) : ∃ e, ofSumType m o registry n s = .error e := by
  induction n generalizing s with
  | zero =>
    obtain ⟨s', hs, -⟩ := h.exists_expands
    obtain ⟨name, f, hn, hf, -⟩ := expands_iff.1 hs
    exact ofSumType_zero_error_iff.2 ⟨name, hn, List.ne_nil_of_mem hf⟩
  | succ n ih =>
    obtain ⟨s', hs, h'⟩ := h.exists_expands
    exact ofSumType_succ_error_iff.2 ⟨s', hs, ih h'⟩

/-- Only a sum type of the model can run out of budget. -/
theorem mem_keys_of_error {n : Nat} {e : CyclicExpansion} (h : ofSumType m o registry n s = .error e) :
    s ∈ m.sumTypes.keys := by
  rw [← Catalogue.contains_iff_mem_keys, Catalogue.contains]
  cases hg : m.sumTypes.get? s with
  | some _ => rfl
  | none =>
    have hm : m.member? s = none := by rw [TypeModel.member?, hg]
    rw [ofSumType, hm] at h
    cases h

/-- **A budget that runs out has gone round.** The sum types `path` lie on the way to `s`, all different, and
with the budget that is left there are as many as the model has: so the way on from `s` meets one of them, or
itself. -/
theorem endless_of_error {n : Nat} {path : List String} (hd : path.Nodup) (hk : path ⊆ m.sumTypes.keys)
    (hp : ∀ q ∈ path, TransGen m.Expands q s) (hn : m.sumTypes.keys.length ≤ n + path.length)
    (h : ∃ e, ofSumType m o registry n s = .error e) : m.Endless s := by
  induction n generalizing s path with
  | zero =>
    -- the path has as many sum types as the model, so `s` is on it
    obtain ⟨e, he⟩ := h
    by_cases hs : s ∈ path
    · exact ⟨s, .refl, hp s hs⟩
    · have hle : (s :: path).length ≤ m.sumTypes.keys.length :=
        List.Nodup.length_le_of_subset (List.nodup_cons.2 ⟨hs, hd⟩)
          (List.cons_subset.2 ⟨mem_keys_of_error he, hk⟩)
      rw [List.length_cons] at hle
      omega
  | succ n ih =>
    by_cases hs : s ∈ path
    · exact ⟨s, .refl, hp s hs⟩
    · -- the path goes on through `s`
      obtain ⟨s', hss, h'⟩ := ofSumType_succ_error_iff.1 h
      obtain ⟨e, he⟩ := h
      have hp' : ∀ q ∈ s :: path, TransGen m.Expands q s' := by
        intro q hq
        rcases List.mem_cons.1 hq with rfl | hq
        · exact .single hss
        · exact (hp q hq).tail hss
      refine .of_expands hss
        (ih (List.nodup_cons.2 ⟨hs, hd⟩) (List.cons_subset.2 ⟨mem_keys_of_error he, hk⟩) hp' ?_ h')
      rw [List.length_cons]
      omega

/-- An expansion fails exactly on the way to a cycle. -/
theorem expand_error_iff : (∃ e, expand m o registry s = .error e) ↔ m.Endless s := by
  constructor
  · exact endless_of_error List.nodup_nil (List.nil_subset _) (by simp) (by simp)
  · exact fun h => error_of_endless h _

/-- A reference has no value exactly if it reaches a cycle. -/
theorem valueOf_error_iff {field enclosing : String} {t : TypeRef} :
    (∃ e, valueOf m o registry field enclosing t = .error e) ↔ m.ReachesCycle t := by
  simp only [valueOf, ofRef_eq_error_iff, TypeModel.ReachesCycle]
  rw [exists_comm]
  simp only [exists_and_left, expand_error_iff]

/-- More budget does not change a value. -/
theorem ofSumType_ok_mono {n k : Nat} {v : Value} (hk : n ≤ k) (h : ofSumType m o registry n s = .ok v) :
    ofSumType m o registry k s = .ok v := by
  induction n generalizing s k v with
  | zero =>
    rw [ofSumType] at h ⊢
    cases hm : m.member? s with
    | none => rw [hm] at h; exact h
    | some name => cases hf : fieldsOf m name <;> simp_all
  | succ n ih =>
    obtain ⟨k, rfl⟩ : ∃ j, k = j + 1 := ⟨k - 1, by omega⟩
    rw [ofSumType] at h ⊢
    cases hm : m.member? s with
    | none => rw [hm] at h; exact h
    | some name =>
      cases hf : fieldsOf m name with
      | nil => simp_all
      | cons f fs =>
        simp only [hm, hf] at h ⊢
        obtain ⟨vs, hvs, rfl⟩ := map_eq_ok_iff.1 h
        rw [ofFields_ok_mono (fun s v => ih (by omega)) hvs]
        rfl

/-- **The budget decides nothing.** An expansion has a value as soon as some budget is enough, and it is that
value. -/
theorem expand_eq_ok_iff {v : Value} : expand m o registry s = .ok v ↔
    ∃ n, ofSumType m o registry n s = .ok v := by
  constructor
  · exact fun h => ⟨_, h⟩
  · rintro ⟨n, hn⟩
    cases he : expand m o registry s with
    | error e =>
      -- then a cycle is reached, and no budget is enough
      obtain ⟨e', h⟩ : ∃ e', ofSumType m o registry n s = .error e' :=
        error_of_endless (expand_error_iff.1 ⟨e, he⟩) n
      rw [hn] at h
      cases h
    | ok w =>
      rcases Nat.le_total n m.sumTypes.keys.length with hle | hle
      · rw [← he, expand, ofSumType_ok_mono hle hn]
      · rw [← ofSumType_ok_mono hle he, hn]

/-- Only an empty literal is written as nothing. -/
theorem render_eq_empty {v : Value} (h : render o v = "") : v = literal "" := by
  cases v with
  | literal text => rw [render] at h; rw [h]
  | fixture type => unfold render renderCall at h; split at h <;> simp [Options.fixtureName] at h
  | pointer inner =>
    rw [render] at h
    split at h
    · rename_i hi
      cases inner with
      | fixture type => unfold render renderCall at h; split at h <;> simp [Options.fixtureName] at h
      | _ => simp [isFixture] at hi
    · simp at h
  | sequence type element => simp [render] at h
  | member type fields => cases fields <;> simp [render] at h

/-- The value of a predeclared type is never empty. -/
theorem primitiveValue_ne_empty {primitive field enclosing : String} :
    primitiveValue primitive field enclosing ≠ "" := by
  unfold primitiveValue
  split
  · split <;> simp
  all_goals simp

variable {v : Value}

/-- The value of an external type is empty only if the registry says so. -/
theorem ofExternal_ne_empty (hx : ∀ x ∈ registry.types.values, x.value ≠ "") {name : String} :
    ofExternal registry name ≠ literal "" := by
  unfold ofExternal
  split
  · rename_i x hg
    intro h
    have hm : x ∈ registry.types.values := List.mem_map.2 ⟨_, Entries.mem_of_get?_eq_some hg, rfl⟩
    exact hx x hm (Value.literal.inj h)
  · simp [nothing]

/-- **Induction on expansions.** What holds of the literal for no member, and of a member if it holds of the
expansions that the values of its fields are built with, holds of every expansion. -/
theorem ofSumType_induction {P : Value → Prop} (h0 : P nothing)
    (hm : ∀ s name expand vs, m.member? s = some name → (∀ s v, expand s = .ok v → P v) →
      ofFields o registry expand name (fieldsOf m name) = .ok vs → P (member (o.qualify name) vs))
    {n : Nat} (h : ofSumType m o registry n s = .ok v) : P v := by
  induction n generalizing s v with
  | zero =>
    unfold ofSumType at h
    cases hs : m.member? s with
    | none => rw [hs] at h; cases h; exact h0
    | some name =>
      cases hf : fieldsOf m name with
      | nil =>
        simp only [hs, hf] at h
        cases h
        refine hm s name (fun s => .error ⟨s⟩) [] hs (fun s v h => by cases h) ?_
        rw [hf]
        rfl
      | cons f fs => simp only [hs, hf] at h; cases h
  | succ n ih =>
    unfold ofSumType at h
    cases hs : m.member? s with
    | none => rw [hs] at h; cases h; exact h0
    | some name =>
      obtain ⟨vs, hvs, rfl⟩ : ∃ vs,
          ofFields o registry (ofSumType m o registry n) name (fieldsOf m name) = .ok vs ∧
          member (o.qualify name) vs = v := by
        cases hf : fieldsOf m name with
        | nil =>
          simp only [hs, hf] at h
          exact ⟨[], rfl, Except.ok.inj h⟩
        | cons f fs =>
          simp only [hs, hf] at h
          exact map_eq_ok_iff.1 h
      exact hm s name _ vs hs (fun s v => ih) hvs

/-- A sum type never stands for nothing at all. -/
theorem ofSumType_ne_empty {n : Nat} (h : ofSumType m o registry n s = .ok v) : v ≠ literal "" :=
  ofSumType_induction (P := fun v => v ≠ literal "") (by simp [nothing]) (fun _ _ _ _ _ _ _ => by simp) h

/-- No value is empty if those of the registry are not. -/
theorem valueOf_ne_empty (hx : ∀ x ∈ registry.types.values, x.value ≠ "") {field enclosing : String} {t : TypeRef}
    (h : valueOf m o registry field enclosing t = .ok v) : v ≠ literal "" := by
  unfold valueOf at h
  revert h
  fun_cases ofRef o registry (expand m o registry) field enclosing t with
  | case1 n =>
    rintro ⟨⟩
    exact fun he => primitiveValue_ne_empty (Value.literal.inj he)
  | case5 s => exact ofSumType_ne_empty
  | case7 n | case11 n =>
    rintro ⟨⟩
    exact ofExternal_ne_empty hx
  | case9 t | case10 t =>
    intro h
    obtain ⟨w, -, rfl⟩ := map_eq_ok_iff.1 h
    simp
  | _ =>
    rintro ⟨⟩
    simp [nothing]

end Value

/-- **Values and cycles.** -/
theorem synthesize_error_iff_reachesCycle (m : TypeModel) (o : Options) (registry : ExternalRegistry)
    (field enclosing : String) (t : TypeRef) :
    ((∃ e, synthesize m o registry field enclosing t = .error e) ↔ m.ReachesCycle t) ∧
      (¬ m.ReachesCycle t → ∃ text, synthesize m o registry field enclosing t = .ok text ∧
        ((∀ x ∈ registry.types.values, x.value ≠ "") → text ≠ "")) := by
  have herr : (∃ e, synthesize m o registry field enclosing t = .error e) ↔ m.ReachesCycle t := by
    simp only [synthesize, map_eq_error_iff, Value.valueOf_error_iff]
  refine ⟨herr, fun hc => ?_⟩
  cases h : valueOf m o registry field enclosing t with
  | error e => exact absurd (Value.valueOf_error_iff.1 ⟨e, h⟩) hc
  | ok v =>
    refine ⟨v.render o, by rw [synthesize, h]; rfl, fun hx he => ?_⟩
    exact Value.valueOf_ne_empty hx h (Value.render_eq_empty he)

end GoFixtures
