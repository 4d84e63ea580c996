import GoFixtures.Declarations.Index
import GoFixtures.Proofs.Catalogue
import GoFixtures.Proofs.Go.Names
import GoFixtures.Proofs.Outcome

/-!
# The types of constants

A line of constants without type and values repeats the line before it in its group. An index goes through the
lines with the type that holds at the moment. What it collects can be said of each line by itself, by looking
back to the nearest line that has a type or values.

* `effectiveType`: the type of a line, by looking back.
* `addGroup_eq_foldl`: the type that is carried along is that of looking back.
* `get?_foldl_addLine`: a type has an entry if a line has it, and the entry has the names of these lines in
  order.
* `constants`: all constants with their types, in the order of files, groups, lines and names.
* `enumValues_iff_constants`: the entry of a type has the names of its constants, neither more nor fewer, in
  order.
-/

namespace GoFixtures

open Go

/-- Whether a line of constants says itself what holds for it: it has a type or values. -/
def Go.ConstSpec.isExplicit (line : ConstSpec) : Bool := line.hasValues || line.type.isSome

/-- What holds behind some lines of a group: the type, if there is one, of the last line that has a type or
values. -/
def typeBehind (lines : List ConstSpec) : Option TypeExpr :=
  (lines.reverse.find? ConstSpec.isExplicit).bind ConstSpec.type

/-- The type of the line at a place of a group: that of the nearest line, at the place or before it, that has
a type or values. -/
def effectiveType (group : List ConstSpec) (place : Nat) : Option TypeExpr := typeBehind (group.take (place + 1))

/-- A line of constants, with the type that holds for it. -/
structure TypedLine where
  names : List String
  type : Option TypeExpr

/-- A constant, with the type that holds for it. -/
structure Constant where
  name : String
  type : Option TypeExpr

/-- Whether a type is the plain name of the given one. -/
def isPlain (type : String) : Option TypeExpr → Bool
  | some (.name t) => t = type
  | _ => false

/-- The lines of a group with their types. -/
def typedLines (group : List ConstSpec) : List TypedLine :=
  group.zipIdx.map fun line => ⟨line.1.names, effectiveType group line.2⟩

/-- The constants of a line. -/
def TypedLine.constants (line : TypedLine) : List Constant := line.names.map fun name => ⟨name, line.type⟩

/-- The constants of files, in the order of the files, their groups, the lines of these and the names in a
line. -/
def constants (files : List SourceFile) : List Constant :=
  files.flatMap fun file => file.constGroups.flatMap fun group => (typedLines group).flatMap TypedLine.constants

theorem isPlain_iff {type : String} {t : Option TypeExpr} : isPlain type t ↔ t = some (.name type) := by
  unfold isPlain
  split
  · simp
  · rename_i h
    simp only [Bool.false_eq_true, false_iff]
    exact h type

namespace DeclarationIndex

variable {values : Catalogue (List String)} {type : String} {files : List SourceFile}

/-! ### Lines -/

/-- Enters the names of a line if its type is a plain name. -/
def addLine (values : Catalogue (List String)) (line : TypedLine) : Catalogue (List String) :=
  match line.type with
  | some (.name type) => addValues values type line.names
  | _ => values

theorem typeBehind_concat {lines : List ConstSpec} {line : ConstSpec} :
    typeBehind (lines ++ [line]) = if line.isExplicit then line.type else typeBehind lines := by
  rw [typeBehind, typeBehind, List.reverse_append, List.reverse_singleton, List.singleton_append, List.find?_cons]
  cases line.isExplicit <;> rfl

/-- One line: what holds behind it is the type that it is entered with. -/
theorem addGroup_cons {before rest : List ConstSpec} {line : ConstSpec} :
    addGroup (typeBehind before) values (line :: rest) =
    addGroup (typeBehind (before ++ [line]))
      (addLine values ⟨line.names, typeBehind (before ++ [line])⟩) rest := by
  have hcurrent : (if line.hasValues || line.type.isSome then line.type else typeBehind before) =
      typeBehind (before ++ [line]) :=
    typeBehind_concat.symm
  rw [addGroup, hcurrent, addLine]
  cases typeBehind (before ++ [line]) with
  | none => rfl
  | some t => cases t <;> rfl

theorem effectiveType_length {before rest : List ConstSpec} {line : ConstSpec} :
    effectiveType (before ++ line :: rest) before.length = typeBehind (before ++ [line]) := by
  rw [effectiveType, List.take_append, List.take_of_length_le (Nat.le_succ _), Nat.add_sub_cancel_left]
  rfl

/-- **What is carried along.** Behind the first lines of a group the index goes on with the type that holds
there, and so it enters each line with the type that is found by looking back. -/
theorem addGroup_eq_foldl {before rest : List ConstSpec} : addGroup (typeBehind before) values rest =
    ((rest.zipIdx before.length).map fun line =>
      TypedLine.mk line.1.names (effectiveType (before ++ rest) line.2)).foldl
      addLine values := by
  induction rest generalizing before values with
  | nil => rfl
  | cons line rest ih =>
    have hgroup : before ++ [line] ++ rest = before ++ line :: rest := by simp
    have hlength : (before ++ [line]).length = before.length + 1 := by simp
    rw [addGroup_cons, ih, hgroup, hlength, List.zipIdx_cons, List.map_cons, List.foldl_cons,
      effectiveType_length]

theorem enumValues_eq_foldl :
    (ofFiles files).enumValues = ((files.flatMap SourceFile.constGroups).flatMap typedLines).foldl
      addLine .empty := by
  have hgroup : ∀ values group, addGroup none values group = (typedLines group).foldl addLine values :=
    fun values group => @addGroup_eq_foldl values [] group
  rw [List.foldl_flatMap]
  simp only [← hgroup]
  rfl

/-- The names of the lines of a type, in order. -/
def namesOf (type : String) (lines : List TypedLine) : List String :=
  (lines.filter fun line => isPlain type line.type).flatMap TypedLine.names

/-- One line: the entry of its type grows by its names, and all others stay as they are. -/
theorem get?_addLine {line : TypedLine} : (addLine values line).get? type =
    if isPlain type line.type then some ((values.get? type).getD [] ++ line.names) else values.get? type := by
  rw [addLine]
  split
  · rename_i t ht
    rw [ht, addValues, Catalogue.get?_put]
    by_cases h : t = type
    · rw [if_pos h, if_pos (isPlain_iff.2 (by rw [h])), h]
    · rw [if_neg h, if_neg fun hplain => h (TypeExpr.name.inj (Option.some.inj (isPlain_iff.1 hplain)))]
  · rename_i hne
    rw [if_neg fun hplain => hne type (isPlain_iff.1 hplain)]

/-- **Lines that are entered one after the other.** -/
theorem get?_foldl_addLine {lines : List TypedLine} : (lines.foldl addLine values).get? type =
    if lines.any fun line => isPlain type line.type then some ((values.get? type).getD [] ++ namesOf type lines)
    else values.get? type := by
  induction lines generalizing values with
  | nil => rfl
  | cons line lines ih =>
    rw [List.foldl_cons, ih, get?_addLine, List.any_cons, namesOf, namesOf, List.filter_cons]
    cases isPlain type line.type with
    | false => rfl
    | true => cases h : lines.any fun line => isPlain type line.type <;> simp_all

/-! ### Constants -/

theorem constants_eq_flatMap :
    constants files =
      ((files.flatMap SourceFile.constGroups).flatMap typedLines).flatMap TypedLine.constants := by
  simp only [constants, List.flatMap_assoc]

/-- The constants of a line are all of a type or none is. -/
theorem filter_constants {line : TypedLine} : line.constants.filter (fun c => isPlain type c.type) =
    if isPlain type line.type then line.constants else [] := by
  split
  · rename_i h
    refine List.filter_eq_self.2 fun c hc => ?_
    obtain ⟨name, -, rfl⟩ := List.mem_map.1 hc
    exact h
  · rename_i h
    refine List.filter_eq_nil_iff.2 fun c hc => ?_
    obtain ⟨name, -, rfl⟩ := List.mem_map.1 hc
    exact h

/-- The names of the constants of a type are those of its lines. -/
theorem map_name_filter_constants {lines : List TypedLine} :
    ((lines.flatMap TypedLine.constants).filter fun c => isPlain type c.type).map Constant.name =
      namesOf type lines := by
  induction lines with
  | nil => rfl
  | cons line lines ih =>
    have hline : line.constants.map Constant.name = line.names := by simp [TypedLine.constants, Function.comp_def]
    rw [List.flatMap_cons, List.filter_append, List.map_append, ih, filter_constants, namesOf, namesOf,
      List.filter_cons]
    split
    · rw [List.flatMap_cons, hline]
    · rfl

/-- Of lines that declare something, one is of a type exactly if a constant is. -/
theorem any_isPlain_iff {lines : List TypedLine} (hnames : ∀ line ∈ lines, line.names ≠ []) :
    (lines.any fun line => isPlain type line.type) ↔
      ∃ c ∈ lines.flatMap TypedLine.constants, c.type = some (.name type) := by
  simp only [List.any_eq_true, isPlain_iff, List.mem_flatMap]
  constructor
  · rintro ⟨line, hline, ht⟩
    obtain ⟨name, hname⟩ := List.exists_mem_of_ne_nil _ (hnames line hline)
    exact ⟨⟨name, line.type⟩, ⟨line, hline, List.mem_map.2 ⟨name, hname, rfl⟩⟩, ht⟩
  · rintro ⟨c, ⟨line, hline, hc⟩, ht⟩
    obtain ⟨name, -, rfl⟩ := List.mem_map.1 hc
    exact ⟨line, hline, ht⟩

/-- Each line of a file that was parsed declares something. -/
theorem names_ne_nil_of_mem_typedLines (hparsed : ∀ file ∈ files, ∃ source, SourceFile.parse source = .ok file) :
    ∀ line ∈ (files.flatMap SourceFile.constGroups).flatMap typedLines, line.names ≠ [] := by
  intro line hline
  obtain ⟨group, hgroup, hline⟩ := List.mem_flatMap.1 hline
  obtain ⟨file, hfile, hgroup⟩ := List.mem_flatMap.1 hgroup
  obtain ⟨source, hsource⟩ := hparsed file hfile
  obtain ⟨spec, hspec, rfl⟩ := List.mem_map.1 hline
  exact SourceFile.names_ne_nil_of_parse hsource group hgroup spec.1 (List.fst_mem_of_mem_zipIdx hspec)

end DeclarationIndex

open DeclarationIndex

/-- **The constants of a type.** In the index of files that were parsed a type has an entry exactly if a
constant has it, and the entry has the names of all constants that have it, in the order of files, groups,
lines and names. The type of a constant is that of the nearest line of its group, at its own line or before
it, that has a type or values. -/
theorem enumValues_iff_constants {files : List SourceFile}
    (hparsed : ∀ file ∈ files, ∃ source, SourceFile.parse source = .ok file)
    (type : String) :
    ((ofFiles files).enumValues.contains type ↔ ∃ c ∈ constants files, c.type = some (.name type)) ∧
      ∀ names, (ofFiles files).enumValues.get? type = some names →
        names = ((constants files).filter fun c => isPlain type c.type).map Constant.name := by
  rw [constants_eq_flatMap, map_name_filter_constants, ← any_isPlain_iff (names_ne_nil_of_mem_typedLines hparsed),
    Catalogue.contains, enumValues_eq_foldl, get?_foldl_addLine, Catalogue.get?_empty]
  split
  · rename_i h
    refine ⟨iff_of_true rfl h, fun names hnames => ?_⟩
    exact (Option.some.inj hnames).symm
  · rename_i h
    refine ⟨iff_of_false Bool.false_ne_true h, fun names hnames => ?_⟩
    cases hnames

/-- Two files with constants of two types. In the first group `Blue` repeats `Red`, `Dim` repeats the values
of `Ten`, which have no type, and `Large` repeats `Small`; `Late` stands alone in its group and repeats
nothing. -/
def paletteSources : List String :=
  ["package p\n\nconst (\n\tRed Color = iota\n\tBlue, _\n\tTen = 10\n\tDim\n\tSmall Size = 1\n\tLarge\n)\n\nconst Late\n",
   "package p\n\nconst (\n\tHuge Size = 9\n\tPale Color = 7\n\tGrey\n)\n"]

theorem enumValues_iff_constants_palette :
    (paletteSources.mapM SourceFile.parse).map (fun files =>
      ["Color", "Size", "int"].map (ofFiles files).enumValues.get?) =
        .ok [some ["Red", "Blue", "_", "Pale", "Grey"], some ["Small", "Large", "Huge"], none] ∧
      ∃ files, paletteSources.mapM SourceFile.parse = .ok files ∧
        ((ofFiles files).enumValues.contains "Color" ↔ ∃ c ∈ constants files, c.type = some (.name "Color")) ∧
        ∀ names, (ofFiles files).enumValues.get? "Color" = some names →
          names = ((constants files).filter fun c => isPlain "Color" c.type).map Constant.name := by
  have h : (paletteSources.mapM SourceFile.parse).map (fun files =>
    ["Color", "Size", "int"].map (ofFiles files).enumValues.get?) =
      .ok [some ["Red", "Blue", "_", "Pale", "Grey"], some ["Small", "Large", "Huge"], none] := by decide +kernel
  obtain ⟨files, hfiles, -⟩ := map_eq_ok_iff.1 h
  have hparsed : ∀ file ∈ files, ∃ source, SourceFile.parse source = .ok file := by
    intro file hf
    obtain ⟨source, -, hs⟩ := exists_left_of_forall₂ (mapM_eq_ok_iff.1 hfiles) hf
    exact ⟨source, hs⟩
  exact ⟨h, files, hfiles, enumValues_iff_constants hparsed "Color"⟩

end GoFixtures
