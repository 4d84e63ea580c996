import GoFixtures.Proofs.Redeclarations
import Mathlib.Logic.Relation

/-!
# Chains of named types

A declaration like `type A B` makes `A` stand for what `B` stands for. From a name there is one way to go on,
that of its last declaration. It comes to a primitive type, or it is lost: at a name that is not declared, at
a type that is no plain name, or on a cycle.

* `DeclarationIndex.LeadsTo`: one step along a chain.
* `DeclarationIndex.ComesTo`, `DeclarationIndex.Lost`: how a chain ends. No chain does both
  (`Lost.not_comesTo`).
* `DeclarationIndex.walk`: the chain is followed up to a name that has been met before.
* `walk_spec`: a name is met again only on a cycle, so nothing is cut off.
* `underlyingWithin_eq_walk`: with as many steps as there are names left to meet, the limit on steps decides
  nothing.
* `underlyingPrimitive?_iff_comesTo`: what the index says of a name is how its chain ends.
-/

namespace GoFixtures

open Go
open Relation (ReflTransGen TransGen)

namespace DeclarationIndex

/-- The last declaration of a name is that of a type. -/
def DeclaredAs (index : DeclarationIndex) (name : String) (type : TypeExpr) : Prop :=
  ∃ before last after, index.LastOf name before last after ∧ last.type = type

/-- A name is declared as another one, which is not primitive. -/
def LeadsTo (index : DeclarationIndex) (name next : String) : Prop :=
  index.DeclaredAs name (.name next) ∧ ¬ isPrimitiveName next

/-- The chain from a name comes to a name that is declared as a primitive type. -/
def ComesTo (index : DeclarationIndex) (name primitive : String) : Prop :=
  ∃ last, ReflTransGen index.LeadsTo name last ∧ index.DeclaredAs last (.name primitive) ∧
    isPrimitiveName primitive

/-- Where a chain is lost: at a name that is not declared, at one that is declared as something other than a
plain name, or on a cycle. -/
inductive Lost (index : DeclarationIndex) (name : String) : Prop
  | undeclared (h : ∀ spec ∈ index.specs, spec.name ≠ name)
  | noName (type : TypeExpr) (h : index.DeclaredAs name type) (hname : ∀ next, type ≠ .name next)
  | cycle (h : TransGen index.LeadsTo name name)

/-- The declared names that have not been met. -/
def unseen (index : DeclarationIndex) (seen : List String) : List String := index.byName.keys.filter (· ∉ seen)

theorem length_unseen_lt {index : DeclarationIndex} {seen : List String} {name : String}
    (hk : name ∈ index.byName.keys)
    (hs : name ∉ seen) : (index.unseen (name :: seen)).length < (index.unseen seen).length := by
  have hfilter : index.unseen (name :: seen) = (index.unseen seen).filter (· ≠ name) := by
    rw [unseen, unseen, List.filter_filter]
    refine List.filter_congr fun k _ => ?_
    simp [not_or]
  rw [hfilter]
  refine List.length_filter_lt_length_iff_exists.2 ⟨name, List.mem_filter.2 ⟨hk, ?_⟩, ?_⟩
  · simpa using hs
  · simp

/-- Follows the chain from a name until a primitive type is found, the chain does not go on, or a name is met
again. -/
def walk (index : DeclarationIndex) (seen : List String) (name : String) : Option String :=
  if _hs : name ∈ seen then none else
    match _h : (index.byName.get? name).map TypeSpec.type with
    | some (.name target) => if isPrimitiveName target then some target else walk index (name :: seen) target
    | _ => none
termination_by (index.unseen seen).length
decreasing_by
  obtain ⟨spec, hspec, -⟩ := Option.map_eq_some_iff.1 _h
  exact length_unseen_lt (Catalogue.mem_keys_iff.2 ⟨spec, hspec⟩) _hs

variable {files : List SourceFile} {seen : List String} {name next last primitive : String} {type : TypeExpr}

/-! ### Chains -/

theorem declaredAs_iff :
    (ofFiles files).DeclaredAs name type ↔ ((ofFiles files).byName.get? name).map TypeSpec.type = some type := by
  rw [Option.map_eq_some_iff]
  simp only [get?_byName_iff_last]
  constructor
  · rintro ⟨before, last, after, hlast, htype⟩; exact ⟨last, ⟨before, after, hlast⟩, htype⟩
  · rintro ⟨last, ⟨before, after, hlast⟩, htype⟩; exact ⟨before, last, after, hlast, htype⟩

theorem DeclaredAs.eq {type' : TypeExpr} (h : (ofFiles files).DeclaredAs name type)
    (h' : (ofFiles files).DeclaredAs name type') :
    type = type' := by
  rw [declaredAs_iff] at h h'
  rw [h] at h'
  exact Option.some.inj h'

/-- From a name there is one way to go on. -/
theorem LeadsTo.eq {next' : String} (h : (ofFiles files).LeadsTo name next)
    (h' : (ofFiles files).LeadsTo name next') : next = next' :=
  TypeExpr.name.inj (h.1.eq h'.1)

theorem LeadsTo.not_primitive (h : (ofFiles files).LeadsTo name next)
    (hd : (ofFiles files).DeclaredAs name (.name primitive)) :
    ¬ isPrimitiveName primitive :=
  TypeExpr.name.inj (h.1.eq hd) ▸ h.2

/-- One step of a chain that comes to a primitive type. -/
theorem comesTo_iff : (ofFiles files).ComesTo name primitive ↔
    ((ofFiles files).DeclaredAs name (.name primitive) ∧ isPrimitiveName primitive) ∨
      ∃ next, (ofFiles files).LeadsTo name next ∧ (ofFiles files).ComesTo next primitive := by
  constructor
  · rintro ⟨last, hchain, hend⟩
    rcases hchain.cases_head with rfl | ⟨next, hstep, hrest⟩
    · exact .inl hend
    · exact .inr ⟨next, hstep, last, hrest, hend⟩
  · rintro (hend | ⟨next, hstep, last, hrest, hend⟩)
    · exact ⟨name, .refl, hend⟩
    · exact ⟨last, .head hstep hrest, hend⟩

/-- A chain that comes to a primitive type does so from each of its names. -/
theorem ComesTo.of_chain (h : (ofFiles files).ComesTo name primitive)
    (hchain : ReflTransGen (ofFiles files).LeadsTo name last) :
    (ofFiles files).ComesTo last primitive := by
  induction hchain with
  | refl => exact h
  | tail _ hstep ih =>
    rcases comesTo_iff.1 ih with ⟨hd, hp⟩ | ⟨next, hstep', hrest⟩
    · exact absurd hp (hstep.not_primitive hd)
    · exact hstep.eq hstep' ▸ hrest

/-- A chain comes to one primitive type at most. -/
theorem ComesTo.unique {primitive' : String} (h : (ofFiles files).ComesTo name primitive)
    (h' : (ofFiles files).ComesTo name primitive') : primitive = primitive' := by
  obtain ⟨last, hchain, hd, hp⟩ := h
  rcases comesTo_iff.1 (h'.of_chain hchain) with ⟨hd', -⟩ | ⟨next, hstep, -⟩
  · exact TypeExpr.name.inj (hd.eq hd')
  · exact absurd hp (hstep.not_primitive hd)

/-- On a cycle the chain goes on for ever, and every name on it lies on the cycle. -/
theorem not_comesTo_of_cycle (h : TransGen (ofFiles files).LeadsTo name name) :
    ¬ (ofFiles files).ComesTo name primitive := by
  rintro ⟨last, hchain, hd, hp⟩
  induction hchain using ReflTransGen.head_induction_on with
  | refl =>
    obtain ⟨next, hstep, -⟩ := TransGen.head'_iff.1 h
    exact hstep.not_primitive hd hp
  | head hstep hrest ih =>
    obtain ⟨next, hstep', hback⟩ := TransGen.head'_iff.1 h
    obtain rfl := hstep.eq hstep'
    exact ih (TransGen.tail' hback hstep)

theorem ComesTo.exists_declaredAs (h : (ofFiles files).ComesTo name primitive) :
    ∃ next, (ofFiles files).DeclaredAs name (.name next) := by
  rcases comesTo_iff.1 h with ⟨hd, -⟩ | ⟨next, hstep, -⟩
  · exact ⟨primitive, hd⟩
  · exact ⟨next, hstep.1⟩

/-- **A chain that is lost comes to no primitive type.** -/
theorem Lost.not_comesTo (h : (ofFiles files).Lost name) : ¬ (ofFiles files).ComesTo name primitive := by
  intro hcomes
  obtain ⟨next, hd⟩ := hcomes.exists_declaredAs
  cases h with
  | undeclared h =>
    obtain ⟨before, last, after, hlast, -⟩ := hd
    refine h last ?_ hlast.named
    rw [hlast.specs]
    exact List.mem_append_right _ List.mem_cons_self
  | noName type h hname => exact hname next (h.eq hd)
  | cycle h => exact not_comesTo_of_cycle h hcomes

/-! ### The walk along a chain -/

theorem undeclared_of_byName (h : (ofFiles files).byName.get? name = none) :
    ∀ spec ∈ (ofFiles files).specs, spec.name ≠ name := by
  rintro spec hs rfl
  obtain ⟨last, hlast⟩ := Catalogue.mem_keys_iff.1 (mem_keys_byName hs)
  rw [h] at hlast
  cases hlast

/-- A name whose declaration is no plain name is one where a chain is lost. -/
theorem lost_of_byName (h : ∀ next, ((ofFiles files).byName.get? name).map TypeSpec.type ≠ some (.name next)) :
    (ofFiles files).Lost name := by
  cases hget : (ofFiles files).byName.get? name with
  | none => exact .undeclared (undeclared_of_byName hget)
  | some spec =>
    refine .noName spec.type (declaredAs_iff.2 (by rw [hget, Option.map_some])) fun next hnext => ?_
    exact h next (by rw [hget, Option.map_some, hnext])

/-- What has been met leads to the next name, too. -/
theorem seen_leadsTo (hseen : ∀ s ∈ seen, TransGen (ofFiles files).LeadsTo s name)
    (hstep : (ofFiles files).LeadsTo name next) :
    ∀ s ∈ name :: seen, TransGen (ofFiles files).LeadsTo s next := by
  intro s hs
  rcases List.mem_cons.1 hs with rfl | hs
  · exact .single hstep
  · exact (hseen s hs).tail hstep

/-- **The walk finds how the chain ends.** What it has met lies on the way to the name where it is, so it
meets a name again only on a cycle. -/
theorem walk_spec (hseen : ∀ s ∈ seen, TransGen (ofFiles files).LeadsTo s name) :
    (∀ primitive, (ofFiles files).walk seen name = some primitive → (ofFiles files).ComesTo name primitive) ∧
      ((ofFiles files).walk seen name = none →
        ∃ last, ReflTransGen (ofFiles files).LeadsTo name last ∧ (ofFiles files).Lost last) := by
  fun_induction walk (ofFiles files) seen name with
  | case1 seen name hs => exact ⟨fun _ h => (by cases h), fun _ => ⟨name, .refl, .cycle (hseen name hs)⟩⟩
  | case2 seen name hs target hget hp =>
    refine ⟨fun primitive h => ?_, fun h => by cases h⟩
    obtain rfl := Option.some.inj h
    exact ⟨name, .refl, declaredAs_iff.2 hget, hp⟩
  | case3 seen name hs target hget hp ih =>
    have hstep : (ofFiles files).LeadsTo name target := ⟨declaredAs_iff.2 hget, hp⟩
    obtain ⟨hfound, hlost⟩ := ih (seen_leadsTo hseen hstep)
    refine ⟨fun primitive h => comesTo_iff.2 (.inr ⟨target, hstep, hfound primitive h⟩), fun h => ?_⟩
    obtain ⟨last, hchain, hlast⟩ := hlost h
    exact ⟨last, .head hstep hchain, hlast⟩
  | case4 seen name hs hget =>
    exact ⟨fun _ h => (by cases h), fun _ => ⟨name, .refl, lost_of_byName hget⟩⟩

/-! ### The limit on steps -/

theorem comesTo_of_underlyingWithin {steps : Nat}
    (h : (ofFiles files).underlyingWithin steps name = some primitive) :
    (ofFiles files).ComesTo name primitive := by
  induction steps generalizing name with
  | zero => cases h
  | succ steps ih =>
    rw [underlyingWithin] at h
    split at h
    · rename_i target hget
      by_cases hp : isPrimitiveName target
      · rw [if_pos hp] at h
        obtain rfl := Option.some.inj h
        exact ⟨name, .refl, declaredAs_iff.2 hget, hp⟩
      · rw [if_neg hp] at h
        exact comesTo_iff.2 (.inr ⟨target, ⟨declaredAs_iff.2 hget, hp⟩, ih h⟩)
    · cases h

/-- At a declared name that has not been met there is a step left. -/
theorem exists_step {steps : Nat} (hget : ((ofFiles files).byName.get? name).map TypeSpec.type = some type)
    (hs : name ∉ seen)
    (hsteps : ((ofFiles files).unseen seen).length ≤ steps) :
    ∃ more, steps = more + 1 ∧ ((ofFiles files).unseen (name :: seen)).length ≤ more := by
  obtain ⟨spec, hspec, -⟩ := Option.map_eq_some_iff.1 hget
  have hlt := length_unseen_lt (Catalogue.mem_keys_iff.2 ⟨spec, hspec⟩) hs
  exact ⟨steps - 1, by omega, by omega⟩

/-- **The limit decides nothing.** As many steps as there are names left to meet give what the walk finds. -/
theorem underlyingWithin_eq_walk {steps : Nat} (hseen : ∀ s ∈ seen, TransGen (ofFiles files).LeadsTo s name)
    (hsteps : ((ofFiles files).unseen seen).length ≤ steps) :
    (ofFiles files).underlyingWithin steps name = (ofFiles files).walk seen name := by
  fun_induction walk (ofFiles files) seen name generalizing steps with
  | case1 seen name hs =>
    -- the steps that are left go round the cycle
    cases h : (ofFiles files).underlyingWithin steps name with
    | none => rfl
    | some primitive => exact absurd (comesTo_of_underlyingWithin h) (not_comesTo_of_cycle (hseen name hs))
  | case2 seen name hs target hget hp =>
    obtain ⟨more, rfl, -⟩ := exists_step hget hs hsteps
    rw [underlyingWithin, hget]
    exact if_pos hp
  | case3 seen name hs target hget hp ih =>
    obtain ⟨more, rfl, hmore⟩ := exists_step hget hs hsteps
    rw [underlyingWithin, hget]
    exact (if_neg hp).trans (ih (seen_leadsTo hseen ⟨declaredAs_iff.2 hget, hp⟩) hmore)
  | case4 seen name hs hget =>
    cases steps with
    | zero => rfl
    | succ steps =>
      rw [underlyingWithin]
      split
      · rename_i target heq
        exact absurd heq (hget target)
      · rfl

/-! ### From a name -/

theorem walk_nil_eq_some_iff : (ofFiles files).walk [] name = some primitive ↔
    (ofFiles files).ComesTo name primitive := by
  constructor
  · exact (walk_spec (List.forall_mem_nil _)).1 primitive
  · intro hcomes
    cases h : (ofFiles files).walk [] name with
    | none =>
      obtain ⟨last, hchain, hlast⟩ := (walk_spec (List.forall_mem_nil _)).2 h
      exact absurd (hcomes.of_chain hchain) hlast.not_comesTo
    | some found =>
      have hfound : (ofFiles files).ComesTo name found := (walk_spec (List.forall_mem_nil _)).1 found h
      rw [hfound.unique hcomes]

theorem walk_nil_eq_none_iff : (ofFiles files).walk [] name = none ↔
    ∃ last, ReflTransGen (ofFiles files).LeadsTo name last ∧ (ofFiles files).Lost last := by
  constructor
  · exact (walk_spec (List.forall_mem_nil _)).2
  · rintro ⟨last, hchain, hlast⟩
    cases h : (ofFiles files).walk [] name with
    | none => rfl
    | some found => exact absurd ((walk_nil_eq_some_iff.1 h).of_chain hchain) hlast.not_comesTo

theorem underlyingPrimitive?_eq_walk : (ofFiles files).underlyingPrimitive? name = (ofFiles files).walk [] name :=
  underlyingWithin_eq_walk (List.forall_mem_nil _) (List.length_filter_le _ _)

end DeclarationIndex

open DeclarationIndex

/-- **What a name stands for is how its chain ends**, whatever the files declare. The walk that stops at a
name it has met ends, and finds what the index says. That is a primitive type exactly if the chain from the
name comes to it, and nothing exactly if the chain is lost: at a name that is not declared, at a type that is
no plain name, or on a cycle. -/
theorem underlyingPrimitive?_iff_comesTo (files : List SourceFile) (name : String) :
    (ofFiles files).underlyingPrimitive? name = (ofFiles files).walk [] name ∧
    (∀ primitive, (ofFiles files).underlyingPrimitive? name = some primitive ↔
      (ofFiles files).ComesTo name primitive) ∧
    ((ofFiles files).underlyingPrimitive? name = none ↔
      ∃ last, ReflTransGen (ofFiles files).LeadsTo name last ∧ (ofFiles files).Lost last) := by
  rw [underlyingPrimitive?_eq_walk]
  exact ⟨rfl, fun primitive => walk_nil_eq_some_iff, walk_nil_eq_none_iff⟩

end GoFixtures
