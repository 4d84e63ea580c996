import GoFixtures.Catalogue
import GoFixtures.Library.Libraries
import Mathlib.Data.ENat.Basic
import Mathlib.Data.List.Forall2

/-!
# What the libraries are documented to do

The libraries are not part of the program. What is proved about data that they write and check holds of all
libraries that do what is documented (`Libraries.Documented`): each law is about one level of the data and
takes for granted that the parts have been dealt with. A library may follow data down to a limit only; then
the laws hold for data that are not nested deeper.

* `Datum.depth`: how deep data are nested.
-/

namespace GoFixtures

namespace Datum

mutual

/-- How deep data are nested. -/
def depth : Datum → Nat
  | list items => deepest items + 1
  | dictionary entries => deepestEntry entries + 1
  | object _ values => deepest values + 1
  | _ => 0

/-- How deep the deepest of several data is nested. -/
def deepest : List Datum → Nat
  | [] => 0
  | d :: ds => max d.depth (deepest ds)

/-- How deep the deepest entry of a dictionary is nested. -/
def deepestEntry : List (List Nat × Datum) → Nat
  | [] => 0
  | (_, d) :: es => max d.depth (deepestEntry es)

end

variable {d : Datum} {items : List Datum}

/-- No item is nested deeper than the deepest one. -/
theorem depth_le_deepest (h : d ∈ items) : d.depth ≤ deepest items := by
  induction items with
  | nil => cases h
  | cons a items ih =>
    rw [deepest]
    rcases List.mem_cons.1 h with rfl | h
    · exact Nat.le_max_left _ _
    · exact (ih h).trans (Nat.le_max_right _ _)

/-- No entry is nested deeper than the deepest one. -/
theorem depth_le_deepestEntry {entries : List (List Nat × Datum)} {e : List Nat × Datum} (h : e ∈ entries) :
    e.2.depth ≤ deepestEntry entries := by
  induction entries with
  | nil => cases h
  | cons a entries ih =>
    rw [deepestEntry]
    rcases List.mem_cons.1 h with rfl | h
    · exact Nat.le_max_left _ _
    · exact (ih h).trans (Nat.le_max_right _ _)

/-- The items of a list are nested less deep than the list. -/
theorem depth_le_of_mem_list {limit : ℕ∞} (hlimit : ((list items).depth : ℕ∞) ≤ limit) (h : d ∈ items) :
    (d.depth : ℕ∞) ≤ limit := by
  refine le_trans (Nat.cast_le.2 ?_) hlimit
  rw [depth]
  exact (depth_le_deepest h).trans (Nat.le_succ _)

/-- The values of an object are nested less deep than the object. -/
theorem depth_le_of_mem_object {limit : ℕ∞} {c : DataClass} (hlimit : ((object c items).depth : ℕ∞) ≤ limit)
    (h : d ∈ items) :
    (d.depth : ℕ∞) ≤ limit := by
  refine le_trans (Nat.cast_le.2 ?_) hlimit
  rw [depth]
  exact (depth_le_deepest h).trans (Nat.le_succ _)

/-- The values of a dictionary are nested less deep than the dictionary. -/
theorem depth_le_of_mem_dictionary {limit : ℕ∞} {entries : List (List Nat × Datum)} {e : List Nat × Datum}
    (hlimit : ((dictionary entries).depth : ℕ∞) ≤ limit) (h : e ∈ entries) : (e.2.depth : ℕ∞) ≤ limit := by
  refine le_trans (Nat.cast_le.2 ?_) hlimit
  rw [depth]
  exact (depth_le_deepestEntry h).trans (Nat.le_succ _)

/-- The dictionary with the given entries. -/
def dictionaryOf (entries : Entries Datum) : Datum := dictionary (entries.map fun e => (Text.codesOf e.1, e.2))

end Datum

namespace Libraries

open Datum

/-- **Documented libraries.** Texts, words and nothing are written as such and taken back; a list, a
dictionary and an object are written part by part, and taken if their parts are; and a value of one of several
classes is taken for one of the class that its word tells. -/
structure Documented [Libraries] (limit : ℕ∞) : Prop where
  dump_nothing : dump .nothing = .null
  dump_text (s : String) : dump (.ofString s) = .string s
  dump_list {items : List Datum} (hlimit : ((list items).depth : ℕ∞) ≤ limit) :
    dump (.list items) = .array (items.map dump)
  dump_dictionary {entries : Entries Datum} (hnodup : entries.keys.Nodup)
    (hlimit : ((dictionaryOf entries).depth : ℕ∞) ≤ limit) :
    dump (dictionaryOf entries) = .object (entries.map fun e => (e.1, dump e.2))
  dump_object {c : DataClass} {values : List Datum} (hlength : values.length = c.attributes.length)
    (hlimit : ((object c values).depth : ℕ∞) ≤ limit) :
    dump (.object c values) = .object ((c.attributes.map Attribute.name).zip (values.map dump))
  validate_text (s : String) : validate .text (ofJson (.string s)) = .ok (.ofString s)
  validate_literal (word : String) : validate (.literal word) (ofJson (.string word)) = .ok (.ofString word)
  validate_null (shape : Shape) : validate (.nullable shape) (ofJson .null) = .ok .nothing
  validate_some {shape : Shape} {j : Json} {item : Datum} (hj : j ≠ .null)
    (h : validate shape (ofJson j) = .ok item) :
    validate (.nullable shape) (ofJson j) = .ok item
  validate_list {shape : Shape} {js : List Json} {items : List Datum}
    (h : List.Forall₂ (fun j item => validate shape (ofJson j) = .ok item) js items)
    (hlimit : ((list items).depth : ℕ∞) ≤ limit) :
    validate (.list shape) (ofJson (.array js)) = .ok (.list items)
  validate_dictionary {shape : Shape} {members : Entries Json} {entries : Entries Datum}
    (hnodup : members.keys.Nodup)
    (h : List.Forall₂ (fun m e => m.1 = e.1 ∧ validate shape (ofJson m.2) = .ok e.2) members entries)
    (hlimit : ((dictionaryOf entries).depth : ℕ∞) ≤ limit) :
    validate (.dictionary shape) (ofJson (.object members)) = .ok (dictionaryOf entries)
  validate_object {c : DataClass} {members : Entries Json} {values : List Datum} (hnodup : members.keys.Nodup)
    (hkeys : ∀ m ∈ members, ∃ a ∈ c.attributes, a.key = m.1)
    (h : List.Forall₂ (fun a item => ∃ j, (a.key, j) ∈ members ∧ validate a.shape (ofJson j) = .ok item)
      c.attributes values)
    (hlimit : ((object c values).depth : ℕ∞) ≤ limit) :
    validate (.object c) (ofJson (.object members)) = .ok (.object c values)
  validate_tagged {classes : List DataClass} {members : Entries Json} {word : String} {c : DataClass}
    {item : Datum}
    (hnodup : members.keys.Nodup) (hword : ("kind", .string word) ∈ members) (hc : c ∈ classes)
    (htag : c.tag? = some word)
    (honly : ∀ c' ∈ classes, c'.tag? = some word → c' = c)
    (h : validate (.object c) (ofJson (.object members)) = .ok item) :
    validate (.tagged classes) (ofJson (.object members)) = .ok item

end Libraries

end GoFixtures
