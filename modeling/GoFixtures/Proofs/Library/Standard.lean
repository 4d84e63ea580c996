import GoFixtures.Library.Standard
import GoFixtures.Proofs.Json.Strings
import GoFixtures.Proofs.Library.Documented

/-!
# Standard libraries are documented

The checks and the writer of this project do what libraries are documented to do, with data of any depth.

* `Checker.check_array`, `Checker.check_members`, `Checker.check_object`: a value that is made of checked parts.
* `Libraries.standard_documented`: the laws.
-/

namespace GoFixtures

open Yaml (Members Scalar)

/-! ### Members of an object -/

theorem Yaml.Scalar.ofString_injective : Function.Injective Scalar.ofString := fun _ _ h =>
  Text.codesOf_injective (Scalar.text.inj h)

namespace Checker

variable {c : DataClass} {members : Entries Json} {j : Json} {key : String}

/-- A member is found by its name. -/
theorem get?_ofMembers (ms : Entries Json) (key : String) :
    get? (Yaml.Value.ofMembers ms) key = (ms.get? key).map Yaml.Value.ofJson := by
  induction ms with
  | nil => rfl
  | cons m ms ih =>
    rw [Yaml.Value.ofMembers, get?, List.find?_cons, Entries.get?]
    by_cases h : m.1 = key
    · simp [h]
    · have hne : Scalar.ofString m.1 ≠ .ofString key := fun he => h (Scalar.ofString_injective he)
      rw [if_neg h, ← ih, get?]
      simp [hne]

/-- A member under a key is found there, whatever the name of the attribute is. -/
theorem find?_ofMembers (hnodup : members.keys.Nodup) (h : (key, j) ∈ members) (name : String) :
    find? (Yaml.Value.ofMembers members) key name = some (key, .ofJson j) := by
  rw [find?, get?_ofMembers, Entries.get?_eq_some_of_mem hnodup h]
  rfl

/-- Keys that are texts are not broken. -/
theorem isBrokenKey_ofMembers (ms : Entries Json) :
    (Yaml.Value.ofMembers ms).any (fun e => isBrokenKey e.1) = false := by
  rw [List.any_eq_false, Yaml.Value.ofMembers_eq_map]
  intro e he
  obtain ⟨m, -, rfl⟩ := List.mem_map.1 he
  simp [isBrokenKey, Scalar.ofString, Text.stringOfCodes?_codesOf]

/-- An object has no stray keys if each key is that of an attribute. -/
theorem noOthers_ofMembers (hnodup : members.keys.Nodup)
    (hkeys : ∀ m ∈ members, ∃ a ∈ c.attributes, a.key = m.1) :
    noOthers c (Yaml.Value.ofMembers members) = .ok () := by
  have hstray : (Yaml.Value.ofMembers members).filterMap
      (fun e => strayKey (Yaml.Value.ofMembers members) c.attributes e.1) = [] := by
    rw [List.filterMap_eq_nil_iff]
    intro e he
    rw [Yaml.Value.ofMembers_eq_map] at he
    obtain ⟨m, hm, rfl⟩ := List.mem_map.1 he
    obtain ⟨a, ha, hkey⟩ := hkeys m hm
    have hfound : (find? (Yaml.Value.ofMembers members) a.key a.name).any
        (fun found => .ofString found.1 = Scalar.ofString m.1) := by
      have hmember : (a.key, m.2) ∈ members := by
        rw [hkey]
        exact hm
      rw [find?_ofMembers hnodup hmember, hkey]
      simp
    exact if_pos (List.any_eq_true.2 ⟨a, ha, hfound⟩)
  rw [noOthers, hstray, ite_self]

/-! ### Checked parts -/

/-- Checks that have all gone well. -/
theorem all_map_ok {α : Type} (as : List α) : Checked.all (as.map .ok) = .ok as := by
  induction as with
  | nil => rfl
  | cons a as ih =>
    rw [List.map_cons, Checked.all, ih]
    rfl

/-- An array is checked item by item. -/
theorem check_array {shape : Shape} {js : List Json} {items : List Datum}
    (h : List.Forall₂ (fun j item => check shape (.ofJson j) = .ok item) js items) :
    check (.list shape) (.ofJson (.array js)) = .ok (.list items) := by
  have hitems : (js.map Yaml.Value.ofJson).attach.mapIdx (fun i v => Checked.under (.index i) (check shape v.1)) =
      items.map .ok := by
    have hlength := h.length_eq
    apply List.ext_getElem (by simp [hlength])
    intro i hi hi'
    simp only [List.getElem_mapIdx, List.getElem_attach, List.getElem_map]
    have hj : i < js.length := by simpa using hi
    have hitem : i < items.length := by simpa using hi'
    have hchecked : check shape (.ofJson js[i]) = .ok items[i] := h.get hj hitem
    rw [hchecked]
    rfl
  rw [Yaml.Value.ofJson_array, check, hitems, all_map_ok]
  rfl

/-- The members of a dictionary are checked one by one. -/
theorem check_members {shape : Shape} {entries : Entries Datum}
    (h : List.Forall₂ (fun m e => m.1 = e.1 ∧ check shape (.ofJson m.2) = .ok e.2) members entries) :
    check (.dictionary shape) (.ofJson (.object members)) = .ok (.dictionaryOf entries) := by
  have hentries : (Yaml.Value.ofMembers members).attach.map (fun e =>
      Checked.under (keyStep e.1.1) (Checked.both (textKey e.1.1) (check shape e.1.2))) =
      (entries.map fun e => (Text.codesOf e.1, e.2)).map .ok := by
    rw [List.attach_map_val (f := fun e : Scalar × Yaml.Value =>
      Checked.under (keyStep e.1) (Checked.both (textKey e.1) (check shape e.2))), Yaml.Value.ofMembers_eq_map]
    induction h with
    | nil => rfl
    | cons hm _ ih =>
      obtain ⟨hname, hvalue⟩ := hm
      simp only [List.map_cons, ih, hvalue, ← hname]
      rfl
  rw [Yaml.Value.ofJson_object, check, hentries, all_map_ok]
  rfl

/-- An object is checked attribute by attribute. -/
theorem check_object {values : List Datum} (hnodup : members.keys.Nodup)
    (hkeys : ∀ m ∈ members, ∃ a ∈ c.attributes, a.key = m.1)
    (h : List.Forall₂ (fun a item => ∃ j, (a.key, j) ∈ members ∧ check a.shape (.ofJson j) = .ok item)
      c.attributes values) :
    check (.object c) (.ofJson (.object members)) = .ok (.object c values) := by
  rw [Yaml.Value.ofJson_object, check, isBrokenKey_ofMembers, Bool.and_false, if_neg Bool.false_ne_true,
    noOthers_ofMembers hnodup hkeys]
  generalize hattributes : (c.attributes.map fun a => _) = checked
  have hvalues : checked = values.map .ok := by
    rw [← hattributes]
    clear hattributes hkeys
    generalize c.attributes = attributes at h
    induction h with
    | nil => rfl
    | @cons a item attributes values ha _ ih =>
      obtain ⟨j, hj, hcheck⟩ := ha
      rw [List.map_cons, List.map_cons, ih]
      refine congrArg (· :: _) ?_
      split
      · rename_i found hfound
        rw [find?_ofMembers hnodup hj] at hfound
        obtain rfl := Option.some.inj hfound
        simp only [hcheck]
        rfl
      · rename_i hfound
        rw [find?_ofMembers hnodup hj] at hfound
        cases hfound
  rw [hvalues, all_map_ok]
  rfl

/-- A value of one of several classes is checked as one of the class that its word tells. -/
theorem check_tagged {classes : List DataClass} {word : String} {item : Datum} (hnodup : members.keys.Nodup)
    (hword : ("kind", .string word) ∈ members) (hc : c ∈ classes) (htag : c.tag? = some word)
    (honly : ∀ c' ∈ classes, c'.tag? = some word → c' = c)
    (h : check (.object c) (.ofJson (.object members)) = .ok item) :
    check (.tagged classes) (.ofJson (.object members)) = .ok item := by
  have hclass :
    (classes.find? fun c => c.tag?.any fun w => decide ((Yaml.Value.ofJson (.string word)).text? = some w)) =
      some c := by
    have htold (c' : DataClass) :
        (c'.tag?.any fun w => decide ((Yaml.Value.ofJson (.string word)).text? = some w)) =
          decide (c'.tag? = some word) := by
      rw [Yaml.Value.ofJson, Yaml.Value.text?, Text.stringOfCodes?_codesOf]
      cases c'.tag? with
      | none => rfl
      | some w => simp [eq_comm]
    simp only [htold]
    cases hfound : classes.find? fun c' : DataClass => decide (c'.tag? = some word) with
    | none =>
      have := List.find?_eq_none.1 hfound c hc
      simp [htag] at this
    | some c' =>
      have hc' :=
        of_decide_eq_true (List.find?_some (p := fun c' : DataClass => decide (c'.tag? = some word)) hfound)
      rw [honly c' (List.mem_of_find?_eq_some hfound) hc']
  rw [Yaml.Value.ofJson_object] at h ⊢
  rw [check, get?_ofMembers, Entries.get?_eq_some_of_mem hnodup hword]
  simp only [Option.map_some, hclass, h]
  rfl

/-! ### Scalars -/

theorem check_text (s : String) : check .text (.ofJson (.string s)) = .ok (.ofString s) := by
  rw [check]
  rfl

theorem check_literal (word : String) :
    check (.literal word) (.ofJson (.string word)) = .ok (.ofString word) := by
  rw [check, Yaml.Value.ofJson, literal, Text.stringOfCodes?_codesOf]
  exact if_pos rfl

theorem check_null (shape : Shape) : check (.nullable shape) (.ofJson .null) = .ok .nothing := by
  rw [Yaml.Value.ofJson, check]

/-- A value that is there is checked as such. -/
theorem check_some {shape : Shape} (h : j ≠ .null) :
    check (.nullable shape) (.ofJson j) = check shape (.ofJson j) := by
  refine check_nullable shape ?_
  cases j with
  | null => exact absurd rfl h
  | _ => simp [Yaml.Value.ofJson]

end Checker

/-! ### What is written -/

namespace Datum

/-- The keys of a dictionary are texts, so its members are written with them. -/
theorem toJson_dictionaryOf (entries : Entries Datum) :
    (dictionaryOf entries).toJson = .object (entries.map fun e => (e.1, e.2.toJson)) := by
  have hmembers : (entries.map fun e => (Text.codesOf e.1, e.2)).map (fun e => (e.1, e.2.toJson)) =
      (entries.map fun e => (e.1, e.2.toJson)).map fun m => (Text.codesOf m.1, m.2) := by
    simp only [List.map_map, Function.comp_def]
  rw [dictionaryOf, toJson, entriesToJson_eq_map, hmembers, Json.ofMembers_map_codesOf]

end Datum

namespace Libraries

open Checker

/-- The standard checks are the ones of this project, with a heading for what they find. -/
theorem validate_eq_ok_iff {shape : Shape} {v : Yaml.Value} {item : Datum} :
    standard.validate shape v = .ok item ↔ check shape v = .ok item := by
  change Except.mapError _ (check shape v) = _ ↔ _
  cases check shape v <;> simp [Except.mapError]

/-- **The standard libraries do what is documented**, with data of any depth. -/
theorem standard_documented : standard.Documented ⊤ where
  dump_nothing := rfl
  dump_text := Json.ofCodes_codesOf
  dump_list _ := congrArg _ (Datum.dataToJson_eq_map _)
  dump_dictionary _ _ := Datum.toJson_dictionaryOf _
  dump_object _ _ := congrArg (fun js => Json.object (List.zip _ js)) (Datum.dataToJson_eq_map _)
  validate_text s := validate_eq_ok_iff.2 (check_text s)
  validate_literal word := validate_eq_ok_iff.2 (check_literal word)
  validate_null shape := validate_eq_ok_iff.2 (check_null shape)
  validate_some hj h := validate_eq_ok_iff.2 ((check_some hj).trans (validate_eq_ok_iff.1 h))
  validate_list h _ := validate_eq_ok_iff.2 (check_array (h.imp fun _ _ => validate_eq_ok_iff.1))
  validate_dictionary _ h _ :=
    validate_eq_ok_iff.2 (check_members (h.imp fun _ _ h => ⟨h.1, validate_eq_ok_iff.1 h.2⟩))
  validate_object hnodup hkeys h _ := by
    refine validate_eq_ok_iff.2 (check_object hnodup hkeys (h.imp fun a item h => ?_))
    obtain ⟨j, hj, h⟩ := h
    exact ⟨j, hj, validate_eq_ok_iff.1 h⟩
  validate_tagged hnodup hword hc htag honly h :=
    validate_eq_ok_iff.2 (check_tagged hnodup hword hc htag honly (validate_eq_ok_iff.1 h))

end Libraries

end GoFixtures
