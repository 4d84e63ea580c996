import Mathlib.Data.List.Forall2

/-!
# Outcomes

When a computation that can fail has a result, and when it fails: told for a result that is changed, for one
that another computation goes on with, and for the results of a list.
-/

namespace GoFixtures

variable {ε α β γ : Type} {x : Except ε α} {e : ε}

theorem map_eq_ok_iff {f : α → β} {b : β} : x.map f = .ok b ↔ ∃ a, x = .ok a ∧ f a = b := by
  cases x <;> simp [Except.map]

theorem map_eq_error_iff {f : α → β} : x.map f = .error e ↔ x = .error e := by
  cases x <;> simp [Except.map]

theorem map_map {f : α → β} {g : β → γ} : (x.map f).map g = x.map fun a => g (f a) := by
  cases x <;> rfl

theorem bind_eq_ok_iff {f : α → Except ε β} {b : β} : (x >>= f) = .ok b ↔ ∃ a, x = .ok a ∧ f a = .ok b := by
  cases x <;> simp [bind, Except.bind]

/-- Two steps fail if one of them does. -/
theorem bind_eq_error_iff {f : α → Except ε β} :
    (x >>= f) = .error e ↔ x = .error e ∨ ∃ a, x = .ok a ∧ f a = .error e := by
  cases x <;> simp [bind, Except.bind]

/-- A list of steps goes well if each step does. -/
theorem mapM_eq_ok_iff {f : α → Except ε β} {as : List α} {bs : List β} :
    as.mapM f = .ok bs ↔ List.Forall₂ (fun a b => f a = .ok b) as bs := by
  induction as generalizing bs with
  | nil => cases bs <;> simp [pure, Except.pure]
  | cons a as ih =>
    simp only [List.mapM_cons, bind_eq_ok_iff, List.forall₂_cons_left_iff, ← ih]
    constructor
    · rintro ⟨b, hb, more, hm, h⟩; cases h; exact ⟨b, more, hb, hm, rfl⟩
    · rintro ⟨b, more, hb, hm, rfl⟩; exact ⟨b, hb, more, hm, rfl⟩

theorem mapM_cons_eq_ok_iff {f : α → Except ε β} {a : α} {as : List α} {bs : List β} :
    (a :: as).mapM f = .ok bs ↔ ∃ b back, f a = .ok b ∧ as.mapM f = .ok back ∧ bs = b :: back := by
  simp only [List.mapM_cons, bind_eq_ok_iff]
  constructor
  · rintro ⟨b, hb, back, hback, h⟩; exact ⟨b, back, hb, hback, (Except.ok.inj h).symm⟩
  · rintro ⟨b, back, hb, hback, rfl⟩; exact ⟨b, hb, back, hback, rfl⟩

/-- Steps go well in two parts, one after the other. -/
theorem mapM_append_eq_ok_iff {f : α → Except ε β} {as as' : List α} {bs : List β} :
    (as ++ as').mapM f = .ok bs ↔ ∃ front back, as.mapM f = .ok front ∧ as'.mapM f = .ok back ∧
      bs = front ++ back := by
  simp only [List.mapM_append, bind_eq_ok_iff]
  constructor
  · rintro ⟨front, hfront, back, hback, h⟩; exact ⟨front, back, hfront, hback, (Except.ok.inj h).symm⟩
  · rintro ⟨front, back, hfront, hback, rfl⟩; exact ⟨front, hfront, back, hback, rfl⟩

/-- Equal steps have equal outcomes. -/
theorem mapM_congr_left {f g : α → Except ε β} {as : List α} (h : ∀ a ∈ as, f a = g a) :
    as.mapM f = as.mapM g := by
  induction as with
  | nil => rfl
  | cons a as ih =>
    rw [List.forall_mem_cons] at h
    rw [List.mapM_cons, List.mapM_cons, h.1, ih h.2]

/-- What a computation comes to: a result with one property, or an error with another. -/
def Comes (P : α → Prop) (Q : ε → Prop) : Except ε α → Prop
  | .ok a => P a
  | .error e => Q e

namespace Comes

variable {P : α → Prop} {Q : ε → Prop}

/-- A computation of whose result nothing is said. -/
theorem of_error (h : ∀ e, x = .error e → Q e) : Comes (fun _ => True) Q x := by
  cases x with
  | ok a => trivial
  | error e => exact h e rfl

theorem map {P' : β → Prop} {f : α → β} (h : Comes P Q x) (hf : ∀ a, P a → P' (f a)) : Comes P' Q (x.map f) := by
  cases x with
  | ok a => exact hf a h
  | error e => exact h

theorem mapError {ε' : Type} {Q' : ε' → Prop} {f : ε → ε'} (h : Comes P Q x) (hf : ∀ e, Q e → Q' (f e)) :
    Comes P Q' (x.mapError f) := by
  cases x with
  | ok a => exact h
  | error e => exact hf e h

end Comes

section Related

variable {r : α → β → Prop} {as : List α} {bs : List β}

/-- Each element of the second list has a partner in the first one. -/
theorem exists_left_of_forall₂ (h : List.Forall₂ r as bs) {b : β} (hb : b ∈ bs) : ∃ a ∈ as, r a b := by
  induction h with
  | nil => cases hb
  | cons hab _ ih =>
    rcases List.mem_cons.1 hb with rfl | hb
    · exact ⟨_, List.mem_cons_self, hab⟩
    · obtain ⟨a, ha, hr⟩ := ih hb
      exact ⟨a, List.mem_cons_of_mem _ ha, hr⟩

/-- Each element of the first list has a partner in the second one. -/
theorem exists_right_of_forall₂ (h : List.Forall₂ r as bs) {a : α} (ha : a ∈ as) : ∃ b ∈ bs, r a b :=
  exists_left_of_forall₂ h.flip ha

end Related

end GoFixtures
