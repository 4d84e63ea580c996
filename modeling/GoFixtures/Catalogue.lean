/-!
# Catalogues

A catalogue holds one value for each of its names and keeps the names in the order in which they
first came in. Putting a value under a name that is already there replaces the value and leaves the
name at its place.

* `Entries.keys_put`, `Entries.get?_put`: what `put` does to the names and to the values.
* `Catalogue.ofList` takes the last value of a repeated name, at its first place.
-/

namespace GoFixtures

variable {α β : Type}

/-- Values under names, in order. -/
abbrev Entries (α : Type) := List (String × α)

namespace Entries

/-- The names, in order. -/
def keys (es : Entries α) : List String := es.map Prod.fst

/-- The first value under a name. -/
def get? : Entries α → String → Option α
  | [], _ => none
  | (k, v) :: es, name => if k = name then some v else get? es name

/-- Replaces the value under a name, or puts a new name at the end. -/
def put : Entries α → String → α → Entries α
  | [], name, value => [(name, value)]
  | (k, v) :: es, name, value =>
    if k = name then (k, value) :: es else (k, v) :: put es name value

variable {es : Entries α} {name other : String} {value : α}

@[simp]
theorem keys_nil : keys ([] : Entries α) = [] := rfl

@[simp]
theorem keys_cons {e : String × α} : keys (e :: es) = e.1 :: keys es := rfl

theorem get?_eq_none_iff : get? es name = none ↔ name ∉ keys es := by
  induction es with
  | nil => simp [get?]
  | cons e es ih =>
    obtain ⟨k, v⟩ := e
    by_cases h : k = name
    · simp [get?, h]
    · simp [get?, h, ih, Ne.symm h]

theorem get?_eq_some_of_mem (hn : (keys es).Nodup) (h : (name, value) ∈ es) :
    get? es name = some value := by
  induction es with
  | nil => simp at h
  | cons e es ih =>
    obtain ⟨k, v⟩ := e
    rw [keys_cons, List.nodup_cons] at hn
    rcases List.mem_cons.1 h with h | h
    · simp only [Prod.mk.injEq] at h
      simp [get?, h.1, h.2]
    · have hk : k ≠ name := fun hk => hn.1 (hk ▸ List.mem_map.2 ⟨_, h, rfl⟩)
      simp [get?, hk, ih hn.2 h]

theorem mem_of_get?_eq_some (h : get? es name = some value) : (name, value) ∈ es := by
  induction es with
  | nil => simp [get?] at h
  | cons e es ih =>
    obtain ⟨k, v⟩ := e
    by_cases hk : k = name
    · simp_all [get?]
    · simp only [get?, hk, if_false] at h
      exact List.mem_cons_of_mem _ (ih h)

theorem keys_put :
    keys (put es name value) = if name ∈ keys es then keys es else keys es ++ [name] := by
  induction es with
  | nil => simp [put, keys]
  | cons e es ih =>
    obtain ⟨k, v⟩ := e
    by_cases h : k = name
    · simp [put, h]
    · simp only [put, h, if_false, keys_cons, List.mem_cons, Ne.symm h, false_or, ih]
      split <;> simp

theorem nodup_keys_put (h : (keys es).Nodup) : (keys (put es name value)).Nodup := by
  rw [keys_put]
  split
  · exact h
  · rename_i hn
    refine List.nodup_append.2 ⟨h, by simp, ?_⟩
    intro a ha b hb
    rw [List.mem_singleton] at hb
    subst hb
    exact fun hab => hn (hab ▸ ha)

theorem get?_put :
    get? (put es name value) other = if name = other then some value else get? es other := by
  induction es with
  | nil => simp [put, get?]
  | cons e es ih =>
    obtain ⟨k, v⟩ := e
    by_cases h : k = name
    · subst h
      by_cases ho : k = other <;> simp [put, get?, ho]
    · rw [put, if_neg h, get?, get?, ih]
      by_cases ho : k = other
      · have : name ≠ other := fun hn => h (ho.trans hn.symm)
        simp [ho, this]
      · simp [ho]

end Entries

/-- Values under distinct names, in the order in which the names came in. -/
structure Catalogue (α : Type) where
  entries : Entries α
  nodup : entries.keys.Nodup
deriving DecidableEq

namespace Catalogue

/-- The catalogue without a name. -/
def empty : Catalogue α := ⟨[], List.nodup_nil⟩

instance : Inhabited (Catalogue α) := ⟨empty⟩

/-- The names, in order. -/
def keys (c : Catalogue α) : List String := c.entries.keys

/-- The values, in the order of their names. -/
def values (c : Catalogue α) : List α := c.entries.map Prod.snd

/-- The value under a name. -/
def get? (c : Catalogue α) (name : String) : Option α := c.entries.get? name

/-- Whether the catalogue holds a name. -/
def contains (c : Catalogue α) (name : String) : Bool := (c.get? name).isSome

/-- Puts a value under a name: at the place of the name if it is there, at the end otherwise. -/
def put (c : Catalogue α) (name : String) (value : α) : Catalogue α :=
  ⟨c.entries.put name value, Entries.nodup_keys_put c.nodup⟩

/-- Puts values under names, one after the other. -/
def putAll (c : Catalogue α) (es : Entries α) : Catalogue α :=
  es.foldl (fun c (name, value) => c.put name value) c

/-- The catalogue of the given entries; a repeated name takes the last value at the first place. -/
def ofList (es : Entries α) : Catalogue α := empty.putAll es

/-- Changes the values and leaves the names. -/
def mapWithKey (c : Catalogue α) (f : String → α → β) : Catalogue β :=
  ⟨c.entries.map fun (name, value) => (name, f name value), by
    have h := c.nodup
    unfold Entries.keys at h ⊢
    rw [List.map_map]
    exact h⟩

/-- The values in the alphabetical order of their names, by code point. -/
def sortedValues (c : Catalogue α) : List α :=
  (c.entries.mergeSort fun a b => decide (a.1 ≤ b.1)).map Prod.snd

variable {c d : Catalogue α} {name other : String} {value : α}

@[ext]
theorem ext (h : c.entries = d.entries) : c = d := by
  cases c; cases d; cases h; rfl

@[simp]
theorem get?_empty : (empty : Catalogue α).get? name = none := rfl

theorem get?_put : (c.put name value).get? other =
    if name = other then some value else c.get? other :=
  Entries.get?_put

theorem keys_put : (c.put name value).keys =
    if name ∈ c.keys then c.keys else c.keys ++ [name] :=
  Entries.keys_put

theorem contains_iff_mem_keys : c.contains name ↔ name ∈ c.keys := by
  have h := @Entries.get?_eq_none_iff α c.entries name
  unfold contains keys get?
  cases hg : c.entries.get? name with
  | none => simpa [hg] using h
  | some v => simpa [hg] using h

end Catalogue

end GoFixtures
