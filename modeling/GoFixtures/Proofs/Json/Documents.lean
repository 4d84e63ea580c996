import GoFixtures.Proofs.Catalogue
import GoFixtures.Proofs.Json.Strings
import Mathlib.Data.Bool.AllAny
import Mathlib.Data.List.Nodup

/-!
# Documents written and read

A value without numbers, in the objects of which no name occurs twice (`Textual`), is read back from its document.

* `value_render`: the value is read wherever it is written, if the reader may go as deep as the value is long.
* `parse_toText`: the document of a value is read as that value.
* `isAscii_render`: only printable ASCII characters are written.
-/

namespace GoFixtures.Json

open Text Surrogate

/-- A value without numbers that names each member once. -/
inductive Textual : Json → Prop
  | null : Textual null
  | bool (b : Bool) : Textual (bool b)
  | string (s : String) : Textual (string s)
  | array {items : List Json} (h : ∀ j ∈ items, Textual j) : Textual (array items)
  | object {members : Entries Json} (nodup : members.keys.Nodup) (h : ∀ m ∈ members, Textual m.2) :
      Textual (object members)

variable {j : Json} {s t rest : List Char}

/-! ### What is written -/

theorem renderItems_cons_cons (j k : Json) (js : List Json) :
    renderItems (j :: k :: js) = render j ++ ',' :: renderItems (k :: js) := by
  rw [renderItems]
  exact List.cons_ne_nil k js

theorem renderMembers_cons_cons (name : String) (j : Json) (m : String × Json) (ms : Entries Json) :
    renderMembers ((name, j) :: m :: ms) = renderCodes (codesOf name) ++ ':' ::
      (render j ++ ',' :: renderMembers (m :: ms)) := by
  rw [renderMembers]
  exact List.cons_ne_nil m ms

/-- A string is written in printable ASCII. -/
theorem isAscii_renderCodes (t : String) : ∀ c ∈ renderCodes (codesOf t), IsAscii c := by
  intro c hc
  simp only [renderCodes, List.mem_cons, List.mem_append, List.mem_flatMap, List.not_mem_nil, or_false] at hc
  rcases hc with rfl | ⟨n, hn, hc⟩ | rfl
  · decide
  · exact isAscii_escapedCode (lt_of_mem_codesOf n hn) c hc
  · decide

/-- Items are written in ASCII if each of them is. -/
theorem isAscii_renderItems {js : List Json} (h : ∀ j ∈ js, ∀ c ∈ render j, IsAscii c) :
    ∀ c ∈ renderItems js, IsAscii c := by
  induction js with
  | nil =>
    rw [renderItems]
    exact List.all_iff_forall_prop.1 (by decide)
  | cons j js ih =>
    rw [List.forall_mem_cons] at h
    cases js with
    | nil =>
      rw [renderItems, List.forall_mem_append]
      exact ⟨h.1, List.all_iff_forall_prop.1 (by decide)⟩
    | cons k js =>
      rw [renderItems_cons_cons, List.forall_mem_append, List.forall_mem_cons]
      exact ⟨h.1, by decide, ih h.2⟩

/-- So are members, whose names always are. -/
theorem isAscii_renderMembers {ms : Entries Json} (h : ∀ m ∈ ms, ∀ c ∈ render m.2, IsAscii c) :
    ∀ c ∈ renderMembers ms, IsAscii c := by
  induction ms with
  | nil =>
    rw [renderMembers]
    exact List.all_iff_forall_prop.1 (by decide)
  | cons m ms ih =>
    obtain ⟨name, j⟩ := m
    rw [List.forall_mem_cons] at h
    cases ms with
    | nil =>
      rw [renderMembers, List.forall_mem_append, List.forall_mem_cons, List.forall_mem_append]
      exact ⟨isAscii_renderCodes name, by decide, h.1, List.all_iff_forall_prop.1 (by decide)⟩
    | cons k ms =>
      rw [renderMembers_cons_cons, List.forall_mem_append, List.forall_mem_cons, List.forall_mem_append,
        List.forall_mem_cons]
      exact ⟨isAscii_renderCodes name, by decide, h.1, by decide, ih h.2⟩

/-- Only printable ASCII characters are written. -/
theorem isAscii_render (h : Textual j) : ∀ c ∈ render j, IsAscii c := by
  induction h with
  | null =>
    rw [render]
    exact List.all_iff_forall_prop.1 (by decide)
  | bool b => cases b <;> (rw [render]; exact List.all_iff_forall_prop.1 (by decide))
  | string s => rw [render]; exact isAscii_renderCodes s
  | array _ ih =>
    rw [render, List.forall_mem_cons]
    exact ⟨by decide, isAscii_renderItems ih⟩
  | object _ _ ih =>
    rw [render, List.forall_mem_cons]
    exact ⟨by decide, isAscii_renderMembers ih⟩

/-- The characters that a value without numbers can begin with. -/
def openings : List Char := ['n', 't', 'f', '\x22', '[', '\x7b']

/-- No value begins with a blank. -/
theorem not_isSpace_of_mem_openings : ∀ c ∈ openings, isSpace c = false :=
  List.all_iff_forall_prop.1 (by decide)

/-- A value begins with the sign of its kind. -/
theorem render_begins (h : Textual j) : ∃ c s, render j = c :: s ∧ c ∈ openings := by
  cases h with
  | null => exact ⟨_, _, by rw [render]; rfl, by decide⟩
  | bool b => cases b <;> exact ⟨_, _, by rw [render]; rfl, by decide⟩
  | string s => exact ⟨_, _, by rw [render]; rfl, by decide⟩
  | array => exact ⟨_, _, by rw [render], by decide⟩
  | object => exact ⟨_, _, by rw [render], by decide⟩

/-! ### What is read -/

theorem renderCodes_append (codes : List Nat) (s : List Char) :
    renderCodes codes ++ s = '\x22' :: (codes.flatMap escapedCode ++ '\x22' :: s) := by
  simp [renderCodes]

/-- What has been escaped is read as it was before. -/
theorem stringCodes_escapes (t : String) :
    stringCodes ((codesOf t).flatMap escapedCode ++ '\x22' :: s) = .ok (codesOf t, s) :=
  stringBody_escapes t.toList

theorem skipSpace_cons {c : Char} (h : isSpace c = false) : skipSpace (c :: s) = c :: s := by
  rw [skipSpace, List.dropWhile_cons, h, if_neg Bool.false_ne_true]

/-- There is no blank to be skipped in front of a value. -/
theorem skipSpace_render (h : Textual j) : skipSpace (render j ++ rest) = render j ++ rest := by
  obtain ⟨c, s, hr, hc⟩ := render_begins h
  rw [hr, List.cons_append, skipSpace_cons (not_isSpace_of_mem_openings c hc)]

/-- Items begin like the first one of them. -/
theorem renderItems_begins {js : List Json} (hne : js ≠ []) (h : ∀ j ∈ js, Textual j) :
    ∃ c s, renderItems js = c :: s ∧ c ∈ openings := by
  match js with
  | j :: js =>
    obtain ⟨c, s, hr, hc⟩ := render_begins (h j List.mem_cons_self)
    cases js with
    | nil => exact ⟨c, s ++ [']'], by rw [renderItems, hr]; rfl, hc⟩
    | cons k js => exact ⟨c, s ++ ',' :: renderItems (k :: js), by rw [renderItems_cons_cons, hr]; rfl, hc⟩

theorem skipSpace_renderItems {js : List Json} (hne : js ≠ []) (h : ∀ j ∈ js, Textual j) :
    skipSpace (renderItems js ++ rest) = renderItems js ++ rest := by
  obtain ⟨c, s, hs, hc⟩ := renderItems_begins hne h
  rw [hs, List.cons_append, skipSpace_cons (not_isSpace_of_mem_openings c hc)]

/-- Members begin with the quote of a name. -/
theorem renderMembers_begins {ms : Entries Json} (hne : ms ≠ []) : ∃ s, renderMembers ms = '\x22' :: s := by
  match ms with
  | [(name, j)] => exact ⟨_, by rw [renderMembers, renderCodes]; rfl⟩
  | (name, j) :: m :: ms => exact ⟨_, by rw [renderMembers_cons_cons, renderCodes]; rfl⟩

theorem skipSpace_renderMembers {ms : Entries Json} (hne : ms ≠ []) :
    skipSpace (renderMembers ms ++ rest) = renderMembers ms ++ rest := by
  obtain ⟨s, hs⟩ := renderMembers_begins hne
  rw [hs, List.cons_append, skipSpace_cons (by decide)]

section

variable {v : Reader Json} {rounds : Nat} {js : List Json} {ms : Entries Json} {named : List (List Nat × Json)}
    {codes : List Nat}

/-- The last item has a bracket behind it. -/
theorem items_close (h : v s = .ok (j, ']' :: rest)) : items v (rounds + 1) s = .ok ([j], rest) := by
  rw [items, h]
  rfl

/-- An item has a comma behind it if there is another one. -/
theorem items_comma (h : v s = .ok (j, ',' :: t)) (ht : items v rounds (skipSpace t) = .ok (js, rest)) :
    items v (rounds + 1) s = .ok (j :: js, rest) := by
  have hs : skipSpace (',' :: t) = ',' :: t := rfl
  rw [items, h]
  simp only [bind, Except.bind, hs, ht]
  rfl

/-- The last member has a brace behind it. -/
theorem members_close (hn : stringCodes s = .ok (codes, ':' :: t))
    (h : v (skipSpace t) = .ok (j, '\x7d' :: rest)) :
    members v (rounds + 1) ('\x22' :: s) = .ok ([(codes, j)], rest) := by
  have hs : skipSpace (':' :: t) = ':' :: t := rfl
  rw [members, hn]
  simp only [bind, Except.bind, hs, h]
  rfl

/-- A member has a comma behind it if there is another one. -/
theorem members_comma {u : List Char} (hn : stringCodes s = .ok (codes, ':' :: t))
    (h : v (skipSpace t) = .ok (j, ',' :: u)) (hu : members v rounds (skipSpace u) = .ok (named, rest)) :
    members v (rounds + 1) ('\x22' :: s) = .ok ((codes, j) :: named, rest) := by
  have hs : skipSpace (':' :: t) = ':' :: t := rfl
  have hc : skipSpace (',' :: u) = ',' :: u := rfl
  rw [members, hn]
  simp only [bind, Except.bind, hs, h, hc, hu]
  rfl

/-- **The items of an array**, if each of them is read. -/
theorem items_render (hne : js ≠ []) (ht : ∀ j ∈ js, Textual j)
    (hv : ∀ j ∈ js, ∀ rest, v (render j ++ rest) = .ok (j, rest)) (hr : js.length ≤ rounds) :
    items v rounds (renderItems js ++ rest) = .ok (js, rest) := by
  induction js generalizing rounds with
  | nil => exact absurd rfl hne
  | cons j js ih =>
    obtain ⟨rounds, rfl⟩ : ∃ k, rounds = k + 1 := ⟨rounds - 1, by simp only [List.length_cons] at hr; omega⟩
    rw [List.forall_mem_cons] at ht hv
    cases js with
    | nil =>
      rw [renderItems, List.append_assoc]
      exact items_close (hv.1 _)
    | cons k js =>
      rw [renderItems_cons_cons, List.append_assoc, List.cons_append]
      refine items_comma (hv.1 _) ?_
      rw [skipSpace_renderItems (by simp) ht.2]
      exact ih (by simp) ht.2 hv.2 (by simpa using hr)

/-- Members with the code points of their names. -/
def coded (ms : Entries Json) : List (List Nat × Json) := ms.map fun m => (codesOf m.1, m.2)

/-- **The members of an object**, if the value of each of them is read. -/
theorem members_render (hne : ms ≠ []) (ht : ∀ m ∈ ms, Textual m.2)
    (hv : ∀ m ∈ ms, ∀ rest, v (render m.2 ++ rest) = .ok (m.2, rest)) (hr : ms.length ≤ rounds) :
    members v rounds (renderMembers ms ++ rest) = .ok (coded ms, rest) := by
  induction ms generalizing rounds with
  | nil => exact absurd rfl hne
  | cons m ms ih =>
    obtain ⟨name, j⟩ := m
    obtain ⟨rounds, rfl⟩ : ∃ k, rounds = k + 1 := ⟨rounds - 1, by simp only [List.length_cons] at hr; omega⟩
    rw [List.forall_mem_cons] at ht hv
    -- the name and the value, whatever follows each of them
    have hn (s : List Char) := @stringCodes_escapes s name
    have hj (rest : List Char) : v (skipSpace (render j ++ rest)) = .ok (j, rest) := by
      rw [skipSpace_render ht.1]
      exact hv.1 rest
    cases ms with
    | nil =>
      rw [renderMembers, List.append_assoc, renderCodes_append, List.cons_append, List.append_assoc]
      exact members_close (hn _) (hj _)
    | cons m ms =>
      rw [renderMembers_cons_cons, List.append_assoc, renderCodes_append, List.cons_append, List.append_assoc,
        List.cons_append]
      refine members_comma (hn _) (hj _) ?_
      rw [skipSpace_renderMembers (by simp)]
      exact ih (by simp) ht.2 hv.2 (by simpa using hr)

/-- A new name comes to the end. -/
theorem setMember_of_not_mem (h : ∀ m ∈ named, m.1 ≠ codes) :
    setMember codes j named = named ++ [(codes, j)] := by
  induction named with
  | nil => rfl
  | cons m named ih =>
    rw [List.forall_mem_cons] at h
    rw [setMember, if_neg h.1, ih h.2, List.cons_append]

/-- Members with different names are set one behind the other: none replaces another. -/
theorem foldl_setMember {done : List (List Nat × Json)} (h : ((done ++ named).map Prod.fst).Nodup) :
    named.foldl (fun done m => setMember m.1 m.2 done) done = done ++ named := by
  induction named generalizing done with
  | nil => rw [List.foldl_nil, List.append_nil]
  | cons m named ih =>
    have hnew : ∀ e ∈ done, e.1 ≠ m.1 := by
      intro e he heq
      rw [List.map_append, List.map_cons] at h
      exact (List.nodup_append.1 h).2.2 e.1 (List.mem_map_of_mem he) m.1 List.mem_cons_self heq
    have hmore :=
      ih (by rwa [List.append_assoc, List.singleton_append] : ((done ++ [m] ++ named).map Prod.fst).Nodup)
    rw [List.foldl_cons, setMember_of_not_mem hnew, hmore, List.append_assoc, List.singleton_append]

/-- Members with distinct names are the members of an object. -/
theorem ofMembers_distinct (h : ms.keys.Nodup) : ofMembers (distinct (coded ms)) = object ms := by
  have hnodup : ((coded ms).map Prod.fst).Nodup := by
    have hnames : (coded ms).map Prod.fst = ms.keys.map codesOf := by
      simp [coded, Entries.keys, Function.comp_def]
    rw [hnames]
    exact h.map codesOf_injective
  rw [distinct, foldl_setMember (by rwa [List.nil_append]), List.nil_append, coded, ofMembers_map_codesOf]

end

/-- The text of an array is longer than the number of its items and than each of their texts. -/
theorem length_renderItems (js : List Json) :
    js.length ≤ (renderItems js).length ∧ ∀ j ∈ js, (render j).length < (renderItems js).length := by
  induction js with
  | nil => simp
  | cons j js ih =>
    cases js with
    | nil => simp [renderItems]
    | cons k js =>
      rw [renderItems_cons_cons, List.forall_mem_cons]
      simp only [List.length_append, List.length_cons] at ih ⊢
      refine ⟨by omega, by omega, ?_⟩
      intro i hi
      have := ih.2 i hi
      omega

/-- The text of an object is longer than the number of its members and than each of their texts. -/
theorem length_renderMembers (ms : Entries Json) :
    ms.length ≤ (renderMembers ms).length ∧ ∀ m ∈ ms, (render m.2).length < (renderMembers ms).length := by
  induction ms with
  | nil => simp
  | cons m ms ih =>
    obtain ⟨name, j⟩ := m
    cases ms with
    | nil => simp [renderMembers]; omega
    | cons m ms =>
      rw [renderMembers_cons_cons, List.forall_mem_cons]
      simp only [List.length_append, List.length_cons] at ih ⊢
      refine ⟨by omega, by omega, ?_⟩
      intro i hi
      have := ih.2 i hi
      omega

section

variable {depth : Nat}

/-- An array that is not empty is read by reading its items. -/
theorem value_items {c : Char} {js : List Json} (hs : isSpace c = false) (hc : c ≠ ']')
    (h : items (value depth) (s.length + 2) (c :: s) = .ok (js, rest)) :
    value (depth + 1) ('[' :: c :: s) = .ok (array js, rest) := by
  rw [value, skipSpace_cons hs]
  split
  · rename_i heq
    exact absurd (List.cons.inj heq).1 hc
  · rw [List.length_cons, h]
    rfl

/-- An object that is not empty is read by reading its members. -/
theorem value_members {ms : List (List Nat × Json)}
    (h : members (value depth) (s.length + 1) ('\x22' :: s) = .ok (ms, rest)) :
    value (depth + 1) ('\x7b' :: '\x22' :: s) = .ok (ofMembers (distinct ms), rest) := by
  rw [value, skipSpace_cons (by decide)]
  split
  · rename_i heq
    exact absurd (List.cons.inj heq).1 (by decide)
  · rw [List.length_cons, h]
    rfl

/-- An array is read if its items are. -/
theorem value_array {js : List Json} (ht : ∀ j ∈ js, Textual j)
    (hv : ∀ j ∈ js, ∀ rest, value depth (render j ++ rest) = .ok (j, rest)) :
    value (depth + 1) (render (array js) ++ rest) = .ok (array js, rest) := by
  rw [render]
  by_cases hne : js = []
  · subst hne
    rfl
  obtain ⟨c, s, hs, hc⟩ := renderItems_begins hne ht
  -- the first item does not look like the end of an empty array
  have hclose : ∀ c ∈ openings, c ≠ ']' := List.all_iff_forall_prop.1 (by decide)
  have hlen := (length_renderItems js).1
  rw [hs] at hlen
  rw [List.cons_append, hs, List.cons_append]
  refine value_items (not_isSpace_of_mem_openings c hc) (hclose c hc) ?_
  rw [← List.cons_append, ← hs]
  exact items_render hne ht hv (by simp only [List.length_cons, List.length_append] at hlen ⊢; omega)

/-- An object is read if its members are, and has them in their order. -/
theorem value_object {ms : Entries Json} (hn : ms.keys.Nodup) (ht : ∀ m ∈ ms, Textual m.2)
    (hv : ∀ m ∈ ms, ∀ rest, value depth (render m.2 ++ rest) = .ok (m.2, rest)) :
    value (depth + 1) (render (object ms) ++ rest) = .ok (object ms, rest) := by
  rw [render]
  by_cases hne : ms = []
  · subst hne
    rfl
  obtain ⟨s, hs⟩ := renderMembers_begins hne
  have hlen := (length_renderMembers ms).1
  rw [hs] at hlen
  have hm := @value_members (s ++ rest) rest depth (coded ms)
  rw [ofMembers_distinct hn] at hm
  rw [List.cons_append, hs, List.cons_append]
  refine hm ?_
  rw [← List.cons_append, ← hs]
  exact members_render hne ht hv (by simp only [List.length_cons, List.length_append] at hlen ⊢; omega)

/-- No value is written as nothing. -/
theorem length_render_pos (h : Textual j) : 0 < (render j).length := by
  obtain ⟨c, s, hr, -⟩ := render_begins h
  simp [hr]

/-- **A value is read wherever it is written.** The reader may go as deep as the value is long. -/
theorem value_render (h : Textual j) (hd : (render j).length ≤ depth + 1) :
    value (depth + 1) (render j ++ rest) = .ok (j, rest) := by
  induction h generalizing depth rest with
  | null => rw [render]; rfl
  | bool b => cases b <;> (rw [render]; rfl)
  | string s =>
    rw [render, renderCodes_append, value]
    simp only [bind, Except.bind, stringCodes_escapes s]
    rw [ofCodes_codesOf]
    rfl
  | @array js ht ih =>
    -- an item is shorter than the array, so the depth that is left is enough for it
    refine value_array ht fun j hj rest => ?_
    have hpos := length_render_pos (ht j hj)
    have hlt := (length_renderItems js).2 j hj
    rw [render, List.length_cons] at hd
    obtain ⟨depth, rfl⟩ : ∃ k, depth = k + 1 := ⟨depth - 1, by omega⟩
    exact ih j hj (by omega)
  | @object ms hn ht ih =>
    refine value_object hn ht fun m hm rest => ?_
    have hpos := length_render_pos (ht m hm)
    have hlt := (length_renderMembers ms).2 m hm
    rw [render, List.length_cons] at hd
    obtain ⟨depth, rfl⟩ : ∃ k, depth = k + 1 := ⟨depth - 1, by omega⟩
    exact ih m hm (by omega)

/-- A document that has been written is read as the value in it. -/
theorem document_render (h : Textual j) : document (render j) = .ok j := by
  have hv := @value_render j [] (render j).length h (by omega)
  have hs := @skipSpace_render j [] h
  rw [List.append_nil] at hv hs
  obtain ⟨c, s, hr, hc⟩ := render_begins h
  have hmark : ∀ c ∈ openings, c ≠ '\ufeff' := List.all_iff_forall_prop.1 (by decide)
  unfold document
  split
  · rename_i heq
    exact absurd (List.cons.inj (hr.symm.trans heq)).1 (hmark c hc)
  · rw [hs, hv]
    rfl

/-- **The document of a value is read as that value.** -/
theorem parse_toText (h : Textual j) : parse (toText j) = .ok j := by
  rw [parse, toText, String.toList_ofList, document_render h]
  rfl

end

end GoFixtures.Json
