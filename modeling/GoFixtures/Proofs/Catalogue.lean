import GoFixtures.Catalogue

/-!
# What a catalogue holds

A catalogue is known by what it says of each name.

* `get?_ofList`: a catalogue that is made of entries holds the last value of each name.
* `ofList_entries`: and it is made of its own entries.
* `mem_values_iff`, `mem_sortedValues_iff`: the values, in either order, are those that are found under some
  name.
* `pairwise_mergeSort_key`: what is sorted by a key has its keys in order; `mergeSort_key_eq_of_perm`: it does
  not matter in which order it was, and `exists_mergeSort_key_cons`: a new member takes its place.
* `exists_sortedValues_put`: a value under a new name takes its place among the sorted ones.
* `Catalogue.Equiv`: two catalogues that say the same of each name differ in the order of the names alone, so
  they are equal where the names are sorted (`Equiv.sortedValues_eq`).
-/

namespace GoFixtures

variable {α : Type}

section Sorting

variable (key : α → String)

theorem key_le_trans (a b c : α) (hab : decide (key a ≤ key b)) (hbc : decide (key b ≤ key c)) :
    decide (key a ≤ key c) := by
  rw [decide_eq_true_iff] at hab hbc ⊢
  exact String.le_trans hab hbc

theorem key_le_total (a b : α) : decide (key a ≤ key b) || decide (key b ≤ key a) := by
  rw [Bool.or_eq_true, decide_eq_true_iff, decide_eq_true_iff]
  exact String.le_total (key a) (key b)

/-- Sorting by a key sorts the keys. -/
theorem pairwise_mergeSort_key (as : List α) :
    (as.mergeSort fun a b => decide (key a ≤ key b)).Pairwise fun a b => key a ≤ key b :=
  (List.pairwise_mergeSort (key_le_trans key) (key_le_total key) as).imp of_decide_eq_true

/-- Sorting by a key forgets the order, if no two members have one key. -/
theorem mergeSort_key_eq_of_perm {as bs : List α} (h : as.Perm bs)
    (hkey : ∀ a ∈ as, ∀ b ∈ as, key a = key b → a = b) :
    (as.mergeSort fun a b => decide (key a ≤ key b)) = bs.mergeSort fun a b => decide (key a ≤ key b) := by
  have ha := List.mergeSort_perm as fun a b => decide (key a ≤ key b)
  have hb := List.mergeSort_perm bs fun a b => decide (key a ≤ key b)
  refine List.Perm.eq_of_pairwise ?_ (pairwise_mergeSort_key key as) (pairwise_mergeSort_key key bs)
    (ha.trans (h.trans hb.symm))
  intro a b hmem hmem' hab hba
  exact hkey a (ha.mem_iff.1 hmem) b (h.mem_iff.2 (hb.mem_iff.1 hmem')) (String.le_antisymm hab hba)

/-- A new member is sorted behind those with smaller keys and in front of the others, which stay in their
order. -/
theorem exists_mergeSort_key_cons (a : α) (as : List α) : ∃ before after,
    (as.mergeSort fun a b => decide (key a ≤ key b)) = before ++ after ∧
      ((a :: as).mergeSort fun a b => decide (key a ≤ key b)) = before ++ a :: after ∧
      (∀ b ∈ before, key b < key a) ∧ ∀ b ∈ after, key a ≤ key b := by
  obtain ⟨before, after, hnew, hold, hbefore⟩ := List.mergeSort_cons (key_le_trans key) (key_le_total key) a as
  have hsorted : (before ++ a :: after).Pairwise fun a b => key a ≤ key b := by
    rw [← hnew]
    exact pairwise_mergeSort_key key _
  refine ⟨before, after, hold, hnew, fun b hb =>
    ?_, (List.pairwise_cons.1 (List.pairwise_append.1 hsorted).2.1).1⟩
  simpa using hbefore b hb

end Sorting

/-- A list in another order in which at most one member is looked for. -/
theorem find?_eq_of_perm {p : α → Bool} {as bs : List α} (h : as.Perm bs)
    (hone : ∀ a ∈ as, ∀ b ∈ as, p a → p b → a = b) : as.find? p = bs.find? p := by
  cases ha : as.find? p with
  | none =>
    have hb : bs.find? p = none := List.find?_eq_none.2 fun b hb => List.find?_eq_none.1 ha b (h.mem_iff.2 hb)
    exact hb.symm
  | some a =>
    have hmem : a ∈ as := List.mem_of_find?_eq_some ha
    have hp : p a = true := List.find?_some ha
    cases hb : bs.find? p with
    | none => exact absurd hp (List.find?_eq_none.1 hb a (h.mem_iff.1 hmem))
    | some b => rw [hone a hmem b (h.mem_iff.2 (List.mem_of_find?_eq_some hb)) hp (List.find?_some hb)]

namespace Entries

variable {es fs : Entries α} {name : String} {value : α}

/-- The first of two lists of entries hides the second. -/
theorem get?_append : get? (es ++ fs) name = (get? es name).or (get? fs name) := by
  induction es with
  | nil => rfl
  | cons e es ih =>
    obtain ⟨k, v⟩ := e
    by_cases h : k = name
    · simp [get?, h]
    · simp [get?, h, ih]

theorem get?_isSome_iff : (get? es name).isSome ↔ name ∈ keys es := by
  have h := @get?_eq_none_iff α es name
  cases hg : get? es name with
  | none => simpa using h.1 hg
  | some v => simpa [hg] using h

/-- A new name goes to the end. -/
theorem put_of_not_mem (h : name ∉ keys es) : put es name value = es ++ [(name, value)] := by
  induction es with
  | nil => rfl
  | cons e es ih =>
    obtain ⟨k, v⟩ := e
    rw [keys_cons, List.mem_cons, not_or] at h
    rw [put, if_neg (Ne.symm h.1), ih h.2]
    rfl

/-- Entries with distinct names are put one behind the other. -/
theorem foldl_put_of_nodup (h : (keys (es ++ fs)).Nodup) :
    fs.foldl (fun es (name, value) => put es name value) es = es ++ fs := by
  induction fs generalizing es with
  | nil => simp
  | cons f fs ih =>
    obtain ⟨k, v⟩ := f
    have hk : k ∉ keys es := by
      simp only [keys, List.map_append, List.map_cons] at h
      exact fun hk => (List.nodup_append.1 h).2.2 k hk k List.mem_cons_self rfl
    have hs := @ih (es ++ [(k, v)]) (by simpa using h)
    rw [List.append_assoc, List.singleton_append] at hs
    simpa only [List.foldl_cons, put_of_not_mem hk] using hs

theorem mem_keys_reverse : name ∈ keys es.reverse ↔ name ∈ keys es := by
  simp [keys]

end Entries

namespace Catalogue

variable {c : Catalogue α} {es : Entries α} {name : String} {value : α}

theorem putAll_cons {e : String × α} : c.putAll (e :: es) = (c.put e.1 e.2).putAll es := rfl

/-- Of several entries with one name the last one counts. -/
theorem get?_putAll : (c.putAll es).get? name = (Entries.get? es.reverse name).or (c.get? name) := by
  induction es generalizing c with
  | nil => rfl
  | cons e es ih =>
    obtain ⟨k, v⟩ := e
    rw [putAll_cons, ih, get?_put, List.reverse_cons, Entries.get?_append, Option.or_assoc]
    congr 1
    by_cases h : k = name <;> simp [Entries.get?, h]

/-- Of several entries for one name a catalogue keeps the last one. -/
theorem get?_ofList : (ofList es).get? name = Entries.get? es.reverse name := by
  rw [ofList, get?_putAll, get?_empty, Option.or_none]

/-- Putting entries adds their names and takes none away. -/
theorem mem_keys_putAll : name ∈ (c.putAll es).keys ↔ name ∈ es.keys ∨ name ∈ c.keys := by
  rw [← contains_iff_mem_keys, ← contains_iff_mem_keys, contains, contains, get?_putAll, Option.isSome_or,
    Bool.or_eq_true,
    Entries.get?_isSome_iff, Entries.mem_keys_reverse]

theorem mem_keys_ofList : name ∈ (ofList es).keys ↔ name ∈ es.keys := by
  rw [ofList, mem_keys_putAll, or_iff_left]
  exact List.not_mem_nil

/-- What is found in a catalogue was entered. -/
theorem mem_of_get?_ofList (h : (ofList es).get? name = some value) : (name, value) ∈ es := by
  rw [get?_ofList] at h
  exact List.mem_reverse.1 (Entries.mem_of_get?_eq_some h)

/-- Entries are put one after the other. -/
theorem entries_putAll :
    (c.putAll es).entries = es.foldl (fun es (name, value) => Entries.put es name value) c.entries := by
  induction es generalizing c with
  | nil => rfl
  | cons e es ih => rw [putAll_cons, ih]; rfl

/-- A catalogue is that of its entries. -/
theorem ofList_entries : ofList c.entries = c := by
  apply ext
  rw [ofList, entries_putAll, Entries.foldl_put_of_nodup (by simpa [empty] using c.nodup)]
  rfl

/-- Entries with distinct names are those of their catalogue. -/
theorem entries_ofList (h : es.keys.Nodup) : (ofList es).entries = es := by
  rw [ofList, entries_putAll]
  exact Entries.foldl_put_of_nodup h

/-- A map over a catalogue leaves the names where they are. -/
theorem get?_mapWithKey {β : Type} {f : String → α → β} :
    (c.mapWithKey f).get? name = (c.get? name).map (f name) := by
  simp only [get?, mapWithKey]
  induction c.entries with
  | nil => rfl
  | cons e es ih =>
    obtain ⟨k, v⟩ := e
    by_cases h : k = name
    · simp [Entries.get?, h]
    · simp [Entries.get?, h, ih]

theorem keys_mapWithKey {β : Type} {f : String → α → β} : (c.mapWithKey f).keys = c.keys := by
  simp only [keys, Entries.keys, mapWithKey, List.map_map]
  rfl

theorem values_mapWithKey {β : Type} {f : α → β} : (c.mapWithKey fun _ a => f a).values = c.values.map f := by
  simp only [values, mapWithKey, List.map_map]
  rfl

/-- A catalogue has one entry for a name at most, so an entry is what its name leads to. -/
theorem mem_entries_iff : (name, value) ∈ c.entries ↔ c.get? name = some value :=
  ⟨Entries.get?_eq_some_of_mem c.nodup, Entries.mem_of_get?_eq_some⟩

/-- A value of a catalogue has a name there. -/
theorem mem_values_iff : value ∈ c.values ↔ ∃ name, c.get? name = some value := by
  constructor
  · intro h
    obtain ⟨⟨k, v⟩, he, rfl⟩ := List.mem_map.1 h
    exact ⟨k, mem_entries_iff.1 he⟩
  · rintro ⟨k, h⟩
    exact List.mem_map.2 ⟨(k, value), mem_entries_iff.2 h, rfl⟩

/-- Sorting the values loses none and adds none. -/
theorem mem_sortedValues_iff : value ∈ c.sortedValues ↔ value ∈ c.values :=
  ((List.mergeSort_perm c.entries _).map Prod.snd).mem_iff

theorem mem_keys_iff : name ∈ c.keys ↔ ∃ value, c.get? name = some value := by
  rw [← contains_iff_mem_keys, contains, Option.isSome_iff_exists]

/-! ### Catalogues that differ in order -/

/-- Each name has the same value in both. -/
def Equiv (c d : Catalogue α) : Prop := ∀ name, c.get? name = d.get? name

variable {d : Catalogue α}

theorem nodup_entries : c.entries.Nodup :=
  List.Pairwise.of_map Prod.fst (fun _ _ hne heq => hne (congrArg Prod.fst heq)) c.nodup

theorem Equiv.refl (c : Catalogue α) : c.Equiv c := fun _ => rfl

/-- Catalogues with the same answers differ in the order of their entries only. -/
theorem Equiv.perm (h : c.Equiv d) : c.entries.Perm d.entries := by
  refine (List.perm_ext_iff_of_nodup nodup_entries nodup_entries).2 fun e => ?_
  obtain ⟨k, v⟩ := e
  rw [mem_entries_iff, mem_entries_iff, h k]

/-- The order in which entries with different names are put does not matter. -/
theorem Equiv.of_perm {fs : Entries α} (h : es.Perm fs) (hd : es.keys.Nodup) : (ofList es).Equiv (ofList fs) := by
  intro name
  have hd' : fs.keys.Nodup := (h.map Prod.fst).nodup_iff.1 hd
  refine Option.ext fun value => ?_
  rw [← mem_entries_iff, ← mem_entries_iff, entries_ofList hd, entries_ofList hd', h.mem_iff]

theorem Equiv.length_keys_eq (h : c.Equiv d) : c.keys.length = d.keys.length := by
  have hlen : c.entries.length = d.entries.length := h.perm.length_eq
  simpa [keys, Entries.keys] using hlen

/-- Catalogues with the same answers have the same values. -/
theorem Equiv.mem_values_iff (h : c.Equiv d) : value ∈ c.values ↔ value ∈ d.values :=
  (h.perm.map Prod.snd).mem_iff

/-- **Sorting forgets the order.** -/
theorem Equiv.sortedValues_eq (h : c.Equiv d) : c.sortedValues = d.sortedValues := by
  -- a name has one value, so the entries are ordered by their names
  refine congrArg (List.map Prod.snd) (mergeSort_key_eq_of_perm Prod.fst h.perm ?_)
  rintro ⟨k, v⟩ hv ⟨l, w⟩ hw hkl
  obtain rfl : k = l := hkl
  have hv' : c.get? k = some v := mem_entries_iff.1 hv
  have hw' : c.get? k = some w := mem_entries_iff.1 hw
  rw [hv'] at hw'
  rw [Option.some.inj hw']

/-- Values that are changed without regard to their names are sorted as before. -/
theorem sortedValues_mapWithKey {β : Type} {f : α → β} :
    (c.mapWithKey fun _ a => f a).sortedValues = c.sortedValues.map f := by
  have hsort : (c.entries.mergeSort fun a b => decide (a.1 ≤ b.1)).map (fun e => (e.1, f e.2)) =
      (c.entries.map fun e => (e.1, f e.2)).mergeSort fun a b => decide (a.1 ≤ b.1) :=
    List.map_mergeSort fun _ _ _ _ => rfl
  have hentries : (c.mapWithKey fun _ a => f a).entries = c.entries.map fun e => (e.1, f e.2) := rfl
  rw [sortedValues, sortedValues, hentries, ← hsort, List.map_map, List.map_map]
  rfl

/-- **A new name takes its place in the order.** The values of smaller names stay in front of its value, those
of greater ones behind. -/
theorem exists_sortedValues_put (value : α) (h : name ∉ c.keys) : ∃ before after,
    c.sortedValues = before ++ after ∧ (c.put name value).sortedValues = before ++ value :: after ∧
      (∀ v ∈ before, ∃ k, c.get? k = some v ∧ k < name) ∧ ∀ v ∈ after, ∃ k, c.get? k = some v ∧ name < k := by
  -- at the end of the entries or in front of them, the new one is sorted to the same place
  let d : Catalogue α := ⟨(name, value) :: c.entries, List.nodup_cons.2 ⟨h, c.nodup⟩⟩
  have hd : (c.put name value).Equiv d := fun _ => get?_put
  obtain ⟨before, after, hold, hnew, hbefore, hbehind⟩ :=
    exists_mergeSort_key_cons Prod.fst (name, value) c.entries
  have hmem : ∀ e ∈ before ++ after, c.get? e.1 = some e.2 := by
    intro e he
    rw [← hold, List.mem_mergeSort] at he
    exact mem_entries_iff.1 he
  refine ⟨before.map Prod.snd, after.map Prod.snd, ?_, ?_, ?_, ?_⟩
  · rw [sortedValues, hold, List.map_append]
  · rw [hd.sortedValues_eq, sortedValues, hnew, List.map_append, List.map_cons]
  · intro v hv
    obtain ⟨e, he, rfl⟩ := List.mem_map.1 hv
    exact ⟨e.1, hmem e (List.mem_append_left _ he), hbefore e he⟩
  · intro v hv
    obtain ⟨e, he, rfl⟩ := List.mem_map.1 hv
    have hget := hmem e (List.mem_append_right _ he)
    have hne : e.1 ≠ name := by
      intro heq
      exact h (heq ▸ mem_keys_iff.2 ⟨e.2, hget⟩)
    exact ⟨e.1, hget, String.not_le.1 fun hle => hne (String.le_antisymm hle (hbehind e he))⟩

end Catalogue

end GoFixtures
