import GoFixtures.Model.SumType
import Mathlib.Data.List.Infix
import Mathlib.Data.List.TakeWhile

/-!
# One separator decides

A record is compared with what stands before an underscore of the parent's name, at one underscore after the
other from the right. A record that goes on with an underscore behind a longer beginning has the shorter ones,
too, so all that counts is the leftmost underscore.

* `matchesMember_iff_common`: the names begin alike, up to some underscore.
* `searchesFrom_iff`: what the search from the right finds.
* `matchesMember_leftmost`: one comparison at the leftmost underscore says the same as the search.
-/

namespace GoFixtures

variable {parent record stem : List Char}

/-- The stems of a name are its beginnings in front of an underscore. -/
theorem mem_stems_iff : stem ∈ stems parent ↔ stem ++ ['_'] <+: parent := by
  induction parent generalizing stem with
  | nil => simp [stems]
  | cons c cs ih =>
    cases stem with
    | nil =>
      by_cases hc : c = '_'
      · simp [stems, hc]
      · simp [stems, hc, Ne.symm hc]
    | cons d stem =>
      have hcons : d :: stem ++ ['_'] <+: c :: cs ↔ d = c ∧ stem ++ ['_'] <+: cs := List.cons_prefix_cons
      rw [hcons]
      have hlonger : d :: stem ∈ (stems cs).map (c :: ·) ↔ d = c ∧ stem ∈ stems cs := by
        simp [and_comm, eq_comm]
      rw [← ih, ← hlonger]
      by_cases hc : c = '_'
      · simp [stems, hc]
      · simp [stems, hc]

/-- **A record matches** just if its name and the parent's begin alike, up to an underscore. -/
theorem matchesMember_iff_common {sumType record : String} : matchesMember sumType record ↔
    ∃ stem, stem ++ ['_'] <+: sumType.toList.drop 2 ∧ stem ++ ['_'] <+: record.toList := by
  rw [matchesMember, List.any_eq_true]
  constructor
  · rintro ⟨stem, hstem, hrecord⟩
    exact ⟨stem, mem_stems_iff.1 hstem, List.isPrefixOf_iff_prefix.1 hrecord⟩
  · rintro ⟨stem, hstem, hrecord⟩
    exact ⟨stem, mem_stems_iff.2 hstem, List.isPrefixOf_iff_prefix.2 hrecord⟩

/-! ### The leftmost underscore -/

/-- The beginning of a name, its first underscore included. -/
def firstSegment (parent : List Char) : List Char := parent.takeWhile (· ≠ '_') ++ ['_']

theorem firstSegment_prefix (h : '_' ∈ parent) : firstSegment parent <+: parent := by
  induction parent with
  | nil => cases h
  | cons c cs ih =>
    by_cases hc : c = '_'
    · simp [firstSegment, hc]
    · have hcs : '_' ∈ cs := by
        rcases List.mem_cons.1 h with h | h
        · exact absurd h.symm hc
        · exact h
      have hmore : firstSegment (c :: cs) = c :: firstSegment cs := by simp [firstSegment, hc]
      rw [hmore]
      exact List.cons_prefix_cons.2 ⟨rfl, ih hcs⟩

/-- No stem is shorter than the first one. -/
theorem firstSegment_prefix_of_stem (h : stem ++ ['_'] <+: parent) : firstSegment parent <+: stem ++ ['_'] := by
  obtain ⟨rest, rfl⟩ := h
  induction stem with
  | nil => simp [firstSegment]
  | cons c stem ih =>
    by_cases hc : c = '_'
    · subst hc
      exact ⟨stem ++ ['_'], by simp [firstSegment]⟩
    · have hmore : firstSegment (c :: stem ++ ['_'] ++ rest) = c :: firstSegment (stem ++ ['_'] ++ rest) := by
        simp [firstSegment, hc]
      rw [hmore]
      exact List.cons_prefix_cons.2 ⟨rfl, ih⟩

/-! ### The search from the right -/

/-- Whether the record begins with a stem and goes on with an underscore. -/
def continuesStem (stem record : List Char) : Bool := stem.isPrefixOf record && record[stem.length]? == some '_'

theorem continuesStem_iff : continuesStem stem record ↔ stem ++ ['_'] <+: record := by
  rw [continuesStem, Bool.and_eq_true, List.isPrefixOf_iff_prefix, beq_iff_eq]
  constructor
  · rintro ⟨⟨rest, rfl⟩, hnext⟩
    rw [List.getElem?_append_right le_rfl, Nat.sub_self] at hnext
    cases rest with
    | nil => cases hnext
    | cons c rest =>
      obtain rfl : c = '_' := Option.some.inj hnext
      exact ⟨rest, by simp⟩
  · rintro ⟨rest, rfl⟩
    exact ⟨⟨'_' :: rest, by simp⟩, by simp⟩

/-- The search for a separator among the first `n` characters of a name, the rightmost first, up to one where
the record goes on. -/
def searchesFrom (parent record : List Char) : Nat → Bool
  | 0 => false
  | n + 1 =>
    if parent[n]? = some '_' && continuesStem (parent.take n) record then true
    else searchesFrom parent record n

theorem searchesFrom_iff {n : Nat} : searchesFrom parent record n ↔
    ∃ i < n, parent[i]? = some '_' ∧ parent.take i ++ ['_'] <+: record := by
  induction n with
  | zero => simp [searchesFrom]
  | succ n ih =>
    have hhere : (parent[n]? = some '_' && continuesStem (parent.take n) record) = true ↔
        parent[n]? = some '_' ∧ parent.take n ++ ['_'] <+: record := by
      rw [Bool.and_eq_true, decide_eq_true_iff, continuesStem_iff]
    rw [searchesFrom]
    by_cases h : parent[n]? = some '_' ∧ parent.take n ++ ['_'] <+: record
    · rw [if_pos (hhere.2 h)]
      exact ⟨fun _ => ⟨n, Nat.lt_succ_self n, h⟩, fun _ => rfl⟩
    · rw [if_neg (fun hn => h (hhere.1 hn)), ih]
      constructor
      · rintro ⟨i, hi, hrest⟩
        exact ⟨i, by omega, hrest⟩
      · rintro ⟨i, hi, hrest⟩
        have hne : i ≠ n := by
          rintro rfl
          exact h hrest
        exact ⟨i, by omega, hrest⟩

/-- A place with an underscore is the end of a stem. -/
theorem separator_iff {i : Nat} : parent[i]? = some '_' ↔ parent.take i ++ ['_'] <+: parent ∧
    i < parent.length := by
  constructor
  · intro h
    obtain ⟨hi, hc⟩ := List.getElem?_eq_some_iff.1 h
    have htake : parent.take i ++ ['_'] = parent.take (i + 1) := by
      rw [← hc]
      exact (List.take_succ_eq_append_getElem hi).symm
    exact ⟨htake ▸ List.take_prefix _ _, hi⟩
  · rintro ⟨⟨rest, hrest⟩, hi⟩
    have hlen : (parent.take i).length = i := List.length_take_of_le (by omega)
    rw [← hrest, List.append_assoc, List.getElem?_append_right (by omega), hlen, Nat.sub_self]
    rfl

/-- **The leftmost separator decides.** A record matches just if the parent's name has an underscore and the
record begins with that name up to its first underscore; and the search over all separators from the right
finds one just if the record matches. -/
theorem matchesMember_leftmost (sumType record : String) :
    (matchesMember sumType record ↔
      '_' ∈ sumType.toList.drop 2 ∧ firstSegment (sumType.toList.drop 2) <+: record.toList) ∧
    searchesFrom (sumType.toList.drop 2) record.toList (sumType.toList.drop 2).length =
      matchesMember sumType record := by
  constructor
  · rw [matchesMember_iff_common]
    constructor
    · rintro ⟨stem, hparent, hrecord⟩
      have hmem : '_' ∈ stem ++ ['_'] := by simp
      exact ⟨hparent.subset hmem, (firstSegment_prefix_of_stem hparent).trans hrecord⟩
    · rintro ⟨hmem, hrecord⟩
      exact ⟨_, firstSegment_prefix hmem, hrecord⟩
  · rw [Bool.eq_iff_iff, searchesFrom_iff, matchesMember_iff_common]
    constructor
    · rintro ⟨i, -, hi, hrecord⟩
      exact ⟨_, (separator_iff.1 hi).1, hrecord⟩
    · rintro ⟨stem, hparent, hrecord⟩
      have hstem : (sumType.toList.drop 2).take stem.length = stem := by
        obtain ⟨rest, hrest⟩ := hparent
        rw [← hrest, List.append_assoc, List.take_left]
      have hlt : stem.length < (sumType.toList.drop 2).length := by
        have hle := hparent.length_le
        rw [List.length_append, List.length_singleton] at hle
        omega
      refine ⟨stem.length, hlt, separator_iff.2 ⟨?_, hlt⟩, ?_⟩
      · rwa [hstem]
      · rwa [hstem]

end GoFixtures
