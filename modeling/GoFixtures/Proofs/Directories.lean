import GoFixtures.Proofs.Catalogue
import GoFixtures.Files.FileTree
import Mathlib.Data.List.Nodup

/-!
# Directories

A path leads to a node whatever the order of the nodes, and a file that is added to a directory is in no other
path's way.

* `FileTree.Rearranged`: trees with the same nodes, which are listed in some order; the same is read in both.
* `FileTree.Adds`: a file is added to a directory.
* `Adds.list_eq`, `Adds.read_new`, `Adds.read_other`: the directory lists one name more, and only that file is
  new.
-/

namespace GoFixtures

namespace FileTree

variable {t t' : FileTree} {p directory : Path} {here there place names more : List String}
    {name other : String} {node : FileNode}
  {bytes : List UInt8}

/-! ### Walks -/

/-- A path is walked name by name. -/
theorem walk_append (h : t.walk here names = .ok there) : t.walk here (names ++ more) = t.walk there more := by
  induction names generalizing here with
  | nil => rw [← Except.ok.inj h, List.nil_append]
  | cons n names ih =>
    rw [walk] at h
    rw [List.cons_append, walk]
    split at h
    · cases h
    · cases h
    · split at h
      · cases h
      · rename_i hlong
        rw [if_neg hlong]
        exact ih h

/-- A walk depends on the nodes only. -/
theorem walk_congr (h : t'.node? = t.node?) : t'.walk here names = t.walk here names := by
  induction names generalizing here with
  | nil => rfl
  | cons n names ih =>
    rw [walk, walk, h]
    simp only [ih]

/-- A walk that comes to its end does so in a tree with more nodes, too. -/
theorem walk_mono (hkeep : ∀ names node, t.node? names = some node → t'.node? names = some node)
    (h : t.walk here names = .ok there) :
    t'.walk here names = .ok there := by
  induction names generalizing here with
  | nil => exact h
  | cons n names ih =>
    rw [walk] at h ⊢
    split at h
    · cases h
    · cases h
    · rename_i hdirectory
      rw [hkeep _ _ hdirectory]
      split at h
      · cases h
      · rename_i hlong
        simp only [if_neg hlong]
        exact ih h

/-- A place depends on the nodes and on the directory that paths start from. -/
theorem locate_congr (hw : t'.workingDirectory = t.workingDirectory) (h : t'.node? = t.node?) :
    t'.locate p = t.locate p := by
  rw [locate, locate, hw, walk_congr h]

/-- A place that is found stays where it is as nodes are added. -/
theorem locate_mono (hw : t'.workingDirectory = t.workingDirectory)
    (hkeep : ∀ names node, t.node? names = some node → t'.node? names = some node) (h : t.locate p = .ok there) :
    t'.locate p = .ok there := by
  rw [locate] at h ⊢
  split at h
  · cases h
  · rename_i hnull
    rw [if_neg hnull]
    split at h
    · cases h
    · rename_i hlong
      rw [if_neg hlong, hw]
      exact walk_mono hkeep h

/-- A directory is what is located as one. -/
theorem isDirectory_iff : t.isDirectory p = .ok true ↔ ∃ here, t.locate p = .ok here ∧
    t.node? here = some .directory := by
  rw [isDirectory, leadsTo, look]
  cases hl : t.locate p with
  | error fault => cases fault <;> simp
  | ok here =>
    cases hn : t.node? here with
    | none => simp [hn]
    | some node => simp [hn]

/-- Where the entry of a directory is. -/
theorem locate_child (hd : t.locate directory = .ok here) (hn : t.node? here = some .directory) (name : String) :
    t.locate (directory.child name) =
      if (directory.child name).hasNullByte then .error .nullByte
      else if maxPathBytes < (directory.child name).toText.utf8ByteSize then .error .nameTooLong
      else if maxNameBytes < name.utf8ByteSize then .error .nameTooLong
      else .ok (if name = ".." then here.dropLast else here ++ [name]) := by
  have hwalk : t.walk (if directory.isAbsolute then [] else t.workingDirectory) directory.names = .ok here := by
    rw [locate] at hd
    split at hd
    · cases hd
    · split at hd
      · cases hd
      · exact hd
  have hchild :
    t.walk (if (directory.child name).isAbsolute then [] else t.workingDirectory) (directory.child name).names =
      t.walk here [name] := walk_append hwalk
  rw [locate, hchild, walk, hn]
  rfl

/-- A child of a directory is located behind it, or above it for two points. -/
theorem eq_of_locate_child (hd : t.locate directory = .ok here) (hn : t.node? here = some .directory)
    (h : t.locate (directory.child name) = .ok place) :
    place = if name = ".." then here.dropLast else here ++ [name] := by
  rw [locate_child hd hn] at h
  split at h
  · cases h
  · split at h
    · cases h
    · split at h
      · cases h
      · exact (Except.ok.inj h).symm

/-! ### Trees in another order -/

/-- The other tree has the same nodes, and what it lists comes in some order. -/
structure Rearranged (t t' : FileTree) : Prop where
  workingDirectory : t'.workingDirectory = t.workingDirectory
  node? : t'.node? = t.node?
  list : ∀ p, (t'.list p).Perm (t.list p)

theorem node?_of_ne_nil (h : names ≠ []) : t.node? names = (t.nodes.find? fun n => n.1 = names).map Prod.snd := by
  cases names with
  | nil => exact absurd rfl h
  | cons n names => rfl

namespace Rearranged

/-- What is seen under a path does not depend on the order of the nodes. -/
theorem look_eq (h : t.Rearranged t') : t'.look p = t.look p := by
  rw [look, look, locate_congr h.workingDirectory h.node?, h.node?]

theorem read_eq (h : t.Rearranged t') : t'.read p = t.read p := by
  rw [read, read, h.look_eq]

theorem isDirectory_eq (h : t.Rearranged t') : t'.isDirectory p = t.isDirectory p := by
  rw [isDirectory, leadsTo, leadsTo, h.look_eq]

/-- Nodes at distinct places can stand in any order. -/
theorem of_perm (hw : t'.workingDirectory = t.workingDirectory) (h : t'.nodes.Perm t.nodes)
    (hd : (t'.nodes.map Prod.fst).Nodup) :
    t.Rearranged t' := by
  have hone : ∀ a ∈ t'.nodes, ∀ b ∈ t'.nodes, a.1 = b.1 → a = b :=
    fun a ha b hb => List.inj_on_of_nodup_map hd ha hb
  have hnode : t'.node? = t.node? := by
    funext names
    by_cases hnames : names = []
    · rw [hnames]
      rfl
    · have hfind : (t'.nodes.find? fun n => n.1 = names) = t.nodes.find? fun n => n.1 = names := by
        refine find?_eq_of_perm h fun a ha b hb hka hkb => hone a ha b hb ?_
        rw [of_decide_eq_true hka, of_decide_eq_true hkb]
      rw [node?_of_ne_nil hnames, node?_of_ne_nil hnames, hfind]
  refine ⟨hw, hnode, fun p => ?_⟩
  rw [FileTree.list, FileTree.list, locate_congr hw hnode]
  split
  · exact .refl _
  · exact h.filterMap _

end Rearranged

/-! ### Files that are added -/

/-- A file is added to a directory, where nothing had its name. A double point is not the name of a file. -/
structure Adds (t : FileTree) (directory : Path) (name : String) (bytes : List UInt8) (t' : FileTree) : Prop where
  proper : name ≠ ".."
  new : t.pathExists (directory.child name) = .ok false
  write : t.write (directory.child name) bytes = .ok t'

/-- Where nothing is, no node stands. -/
theorem not_mem_nodes (h : t.node? place = none) : (place, node) ∉ t.nodes := by
  intro hmem
  have hne : place ≠ [] := by
    rintro rfl
    cases h
  rw [node?_of_ne_nil hne, Option.map_eq_none_iff, List.find?_eq_none] at h
  exact h _ hmem (decide_eq_true rfl)

/-- A node in a new place goes to the end. -/
theorem put_of_new (h : t.node? place = none) :
    t.put place node = { t with nodes := t.nodes ++ [(place, node)] } := by
  have hfilter : t.nodes.filter (fun n => n.1 ≠ place) = t.nodes := by
    refine List.filter_eq_self.2 fun n hmem => decide_eq_true ?_
    rintro rfl
    exact not_mem_nodes h hmem
  rw [put, hfilter]

/-- A node that is put in a new place is found there, and changes no other place. -/
theorem node?_put_of_new (h : t.node? place = none) :
    (t.put place node).node? names = if names = place then some node else t.node? names := by
  by_cases hnames : names = []
  · have hne : names ≠ place := by
      rintro rfl
      rw [hnames] at h
      cases h
    rw [if_neg hne, hnames]
    rfl
  · rw [put_of_new h, node?_of_ne_nil hnames, List.find?_append]
    by_cases hplace : names = place
    · have hnone : t.nodes.find? (fun n => n.1 = names) = none := by
        rw [← hplace, node?_of_ne_nil hnames, Option.map_eq_none_iff] at h
        exact h
      rw [if_pos hplace, hnone, hplace]
      simp
    · have hnew : ([(place, node)] : List (List String × FileNode)).find? (fun n => n.1 = names) = none := by
        simp [Ne.symm hplace]
      rw [if_neg hplace, hnew, Option.or_none, node?_of_ne_nil hnames]

namespace Adds

/-- Where the file is put. -/
theorem exists_place (h : t.Adds directory name bytes t') :
    ∃ place, t.locate (directory.child name) = .ok place ∧ t.node? place = none ∧
    t' = t.put place (.file bytes) := by
  have hwrite := h.write
  have hnew := h.new
  rw [FileTree.write] at hwrite
  rw [pathExists, leadsTo, look] at hnew
  cases hl : t.locate (directory.child name) with
  | error fault =>
    rw [hl] at hwrite
    cases hwrite
  | ok place =>
    simp only [hl] at hwrite hnew
    cases hn : t.node? place with
    | none =>
      simp only [hn] at hwrite
      exact ⟨place, rfl, hn, (Except.ok.inj hwrite).symm⟩
    | some node =>
      simp only [hn] at hnew
      cases hnew

section Directory

variable (hd : t.locate directory = .ok here) (hn : t.node? here = some .directory)
    (h : t.Adds directory name bytes t')

include hd hn h

/-- The new file is located in its directory, where nothing has been. -/
theorem place_eq : t.locate (directory.child name) = .ok (here ++ [name]) ∧ t.node? (here ++ [name]) = none ∧
    t' = t.put (here ++ [name]) (.file bytes) := by
  obtain ⟨place, hplace, hnone, hput⟩ := h.exists_place
  obtain rfl : place = here ++ [name] := by
    rw [eq_of_locate_child hd hn hplace, if_neg h.proper]
  exact ⟨hplace, hnone, hput⟩

/-- The new file is the only node that changes. -/
theorem node?_eq : t'.node? names = if names = here ++ [name] then some (.file bytes) else t.node? names := by
  obtain ⟨-, hnone, rfl⟩ := h.place_eq hd hn
  exact node?_put_of_new hnone

/-- What was there is still there. -/
theorem node?_of_some (hnames : t.node? names = some node) : t'.node? names = some node := by
  rw [h.node?_eq hd hn, if_neg, hnames]
  rintro rfl
  rw [(h.place_eq hd hn).2.1] at hnames
  cases hnames

/-- What has been located stays located. -/
theorem locate_of_ok (hp : t.locate p = .ok there) : t'.locate p = .ok there := by
  have hw : t'.workingDirectory = t.workingDirectory := by
    rw [(h.place_eq hd hn).2.2, put]
  exact locate_mono hw (fun _ _ => h.node?_of_some hd hn) hp

/-- Children of the directory with other names are located as before. -/
theorem locate_child_eq : t'.locate (directory.child other) = t.locate (directory.child other) := by
  rw [locate_child hd hn, locate_child (h.locate_of_ok hd hn hd) (h.node?_of_some hd hn hn)]

/-- **The directory** lists the new name behind the others. -/
theorem list_eq : t'.list directory = t.list directory ++ [name] := by
  obtain ⟨-, hnone, hput⟩ := h.place_eq hd hn
  rw [list, list, h.locate_of_ok hd hn hd, hd, hput, put_of_new hnone]
  simp

/-- The name of the new file has not been in use. -/
theorem not_mem_list : name ∉ t.list directory := by
  rw [list, hd]
  intro hmem
  obtain ⟨n, hnode, hname⟩ := List.mem_filterMap.1 hmem
  obtain ⟨names, node⟩ := n
  obtain ⟨hhere, hlast⟩ : names.dropLast = here ∧ names.getLast? = some name := by simpa using hname
  obtain ⟨front, rfl⟩ := List.getLast?_eq_some_iff.1 hlast
  rw [List.dropLast_concat] at hhere
  exact not_mem_nodes (h.place_eq hd hn).2.1 (hhere ▸ hnode)

/-- **The new file** is read. -/
theorem read_new : t'.read (directory.child name) = .ok bytes := by
  have hlook : t'.look (directory.child name) = .ok (.file bytes) := by
    rw [look, h.locate_of_ok hd hn (h.place_eq hd hn).1]
    simp only [h.node?_eq hd hn, if_true]
  rw [read, hlook]

/-- **Every other file** of the directory is read as before. -/
theorem read_other (hne : other ≠ name) : t'.read (directory.child other) = t.read (directory.child other) := by
  have hlook : t'.look (directory.child other) = t.look (directory.child other) := by
    rw [look, look, h.locate_child_eq hd hn]
    cases hl : t.locate (directory.child other) with
    | error fault => rfl
    | ok place =>
      have hplace : place ≠ here ++ [name] := by
        rw [eq_of_locate_child hd hn hl]
        intro heq
        split at heq
        · have hlen := congrArg List.length heq
          rw [List.length_dropLast, List.length_append, List.length_singleton] at hlen
          omega
        · exact hne (by simpa using heq)
      simp only [h.node?_eq hd hn, if_neg hplace]
  rw [read, read, hlook]

end Directory

end Adds

end FileTree

end GoFixtures
