import GoFixtures.Declarations.Package
import GoFixtures.Proofs.Directories
import GoFixtures.Proofs.Outcome

/-!
# Files that are not of the package

The files of a package are read by name, so the order in which the directory lists them is not seen. Of a file
that is added, no more is seen than the package has use for: nothing of a file that is no source, and of a
source file of another package, behind the first one, a warning at its place.

* `LoadedPackage.sources_eq_of_perm`, `LoadedPackage.exists_sources_cons`: the files by name, in another order
  and with one more.
* `LoadedPackage.ofEntries_foreign`: a source file of another package.
* `LoadedPackage.inTree_of_directory`: a package is made of the entries of its directory.
* `LoadedPackage.inTree_undisturbed`: the package in a directory that is listed in another order, or has one
  file more.
-/

namespace GoFixtures

open Go

namespace LoadedPackage

variable {registry : ExternalRegistry} {directory : Path} {entries entries' : List SourceEntry}
    {e : SourceEntry} {p : LoadedPackage}
  {package name : String} {f : String × SourceFile} {file : SourceFile}

/-! ### Files by name -/

/-- **The order of the entries** is not seen, if no two of them have one name. -/
theorem sources_eq_of_perm (h : entries.Perm entries')
    (hname : ∀ a ∈ entries, ∀ b ∈ entries, a.name = b.name → a = b) :
    sources entries = sources entries' :=
  mergeSort_key_eq_of_perm SourceEntry.name (h.filter _) fun a ha b hb =>
    hname a (List.mem_of_mem_filter ha) b (List.mem_of_mem_filter hb)

/-- One more source file takes its place between those with smaller and those with greater names. -/
theorem exists_sources_cons (entries : List SourceEntry) (h : SourceEntry.isSource e.name) : ∃ before after,
    sources entries = before ++ after ∧ sources (e :: entries) = before ++ e :: after ∧
      (∀ x ∈ before, x.name < e.name) ∧ ∀ x ∈ after, e.name ≤ x.name := by
  have hfilter : (e :: entries).filter (fun e => SourceEntry.isSource e.name) = e :: entries.filter fun e =>
      SourceEntry.isSource e.name :=
    List.filter_cons_of_pos h
  rw [sources, sources, hfilter]
  exact exists_mergeSort_key_cons SourceEntry.name e _

theorem ofEntries_congr (h : sources entries = sources entries') :
    ofEntries registry directory entries = ofEntries registry directory entries' := by
  rw [ofEntries, ofEntries, h]

theorem ofEntries_eq_ok_iff : ofEntries registry directory entries = .ok p ↔ ∃ first more,
    (sources entries).mapM (fileOf directory) = .ok (first :: more) ∧
      p = ofFiles registry first.2.package (first :: more) := by
  rw [ofEntries]
  cases hfiles : (sources entries).mapM (fileOf directory) with
  | error e => simp
  | ok files =>
    cases files with
    | nil => simp
    | cons first more => simp [eq_comm]

/-! ### A file of another package -/

/-- A file keeps the name of its entry. -/
theorem name_of_fileOf (h : fileOf directory e = .ok f) : f.1 = e.name := by
  rw [fileOf] at h
  split at h
  · cases h
  · split at h
    · cases h
    · obtain rfl := Except.ok.inj h
      rfl

/-- The first file names the package, so it is loaded. -/
theorem head?_files (first : String × SourceFile) (more : List (String × SourceFile)) :
    (ofFiles registry first.2.package (first :: more)).files.head? = some first.1 := by
  simp [ofFiles]

/-- The package of files with one of another package among them. -/
theorem ofFiles_foreign (registry : ExternalRegistry) (front back : List (String × SourceFile)) {warning : String}
    (hf : foreignWarning package f = some warning) : ∃ before after,
    (ofFiles registry package (front ++ back)).warnings = before ++ after ∧
      ofFiles registry package (front ++ f :: back) =
        { ofFiles registry package (front ++ back) with warnings := before ++ warning :: after } := by
  have hpackage : f.2.package ≠ package := by
    intro hown
    rw [foreignWarning, if_pos hown] at hf
    cases hf
  have hown : (front ++ f :: back).filter (fun file => file.2.package = package) =
      (front ++ back).filter fun file => file.2.package = package := by
    simp [hpackage]
  refine ⟨front.filterMap (foreignWarning package), back.filterMap (foreignWarning package) ++
    (DeclarationIndex.ofFiles
    (((front ++ back).filter fun file => file.2.package = package).map Prod.snd)).genericSpecs.map
      genericWarning, ?_, ?_⟩
  · simp only [ofFiles, List.filterMap_append, List.append_assoc]
  · simp only [ofFiles, hown, List.filterMap_append, List.filterMap_cons, hf, List.append_assoc, List.cons_append]

/-- **A source file of another package**, behind the first one that is loaded. -/
theorem ofEntries_foreign {warning : String} (h : ofEntries registry directory entries = .ok p)
    (hfile : fileOf directory e = .ok (e.name, file)) (hsource : SourceEntry.isSource e.name)
    (hwarning : foreignWarning p.name (e.name, file) = some warning)
    (hfirst : ∀ first, p.files.head? = some first → first < e.name) :
    ∃ before after, p.warnings = before ++ after ∧
      ofEntries registry directory (e :: entries) = .ok { p with warnings := before ++ warning :: after } := by
  obtain ⟨first, more, hfiles, rfl⟩ := ofEntries_eq_ok_iff.1 h
  obtain ⟨before, after, hold, hnew, -, hafter⟩ := exists_sources_cons entries hsource
  have hlt : first.1 < e.name := hfirst _ (head?_files first more)
  rw [hold, mapM_append_eq_ok_iff] at hfiles
  obtain ⟨front, back, hfront, hback, hsplit⟩ := hfiles
  cases front with
  | nil =>
    -- the first file would stand behind the new one
    have hfirst : first ∈ back := by
      rw [← List.nil_append back, ← hsplit]
      exact List.mem_cons_self
    obtain ⟨x, hx, hread⟩ := exists_left_of_forall₂ (mapM_eq_ok_iff.1 hback) hfirst
    rw [name_of_fileOf hread] at hlt
    exact absurd hlt (String.not_lt.2 (hafter x hx))
  | cons f front =>
    obtain ⟨rfl, rfl⟩ := List.cons.inj hsplit
    have hfiles : (before ++ e :: after).mapM (fileOf directory) =
        .ok (first :: front ++ (e.name, file) :: back) :=
      mapM_append_eq_ok_iff.2 ⟨_, _, hfront, mapM_cons_eq_ok_iff.2 ⟨_, _, hfile, hback, rfl⟩, rfl⟩
    obtain ⟨remarks, remarks', hremarks, hforeign⟩ := ofFiles_foreign registry (first :: front) back hwarning
    refine ⟨remarks, remarks', hremarks, ofEntries_eq_ok_iff.2 ⟨first, _, ?_, hforeign.symm⟩⟩
    rw [hnew]
    exact hfiles

/-! ### Packages in a tree of files -/

/-- The entries of a directory, as far as they are read. -/
def entriesIn (directory : Path) (t : FileTree) : List SourceEntry :=
  ((t.list directory).filter SourceEntry.isSource).map fun name =>
    ⟨name, textOfBytes (t.read (directory.child name))⟩

/-- The package in a directory of a tree. -/
def inTree (registry : ExternalRegistry) (directory : Path) (t : FileTree) : Except PackageError LoadedPackage :=
  (load (m := StateM FileTree) registry directory t).1

variable {t t' : FileTree} {bytes : List UInt8}

theorem bind_apply {σ α β : Type} (step : StateM σ α) (next : α → StateM σ β) (s : σ) :
    (step >>= next) s = next (step s).1 (step s).2 := rfl

/-- Steps that only look, one after the other. -/
theorem mapM_apply {σ α β : Type} {step : α → StateM σ β} {found : α → β} {s : σ}
    (h : ∀ a, step a s = (found a, s)) (as : List α) :
    as.mapM step s = (as.map found, s) := by
  induction as with
  | nil => rfl
  | cons a as ih =>
    rw [List.mapM_cons]
    rw [bind_apply, h, bind_apply, ih]
    rfl

/-- **Loading** is to look for the directory and to make a package of its entries. -/
theorem inTree_eq : inTree registry directory t =
    ((t.isDirectory directory).mapError .unreachable >>= fun found =>
    if found then ofEntries registry directory (entriesIn directory t)
        else .error (.notDirectory directory)) := by
  have hread (name : String) :
    (do return ⟨name, ← FileSystem.readText (directory.child name)⟩ : StateM FileTree SourceEntry) t =
      (⟨name, textOfBytes (t.read (directory.child name))⟩, t) := rfl
  have hentries := mapM_apply hread ((t.list directory).filter SourceEntry.isSource)
  have hlook : (FileSystem.isDirectory directory : StateM FileTree _) t = (t.isDirectory directory, t) := rfl
  unfold inTree load
  rw [bind_apply, hlook]
  cases t.isDirectory directory with
  | error e => rfl
  | ok found =>
    cases found with
    | false => rfl
    | true =>
      have hlist : (FileSystem.list directory : StateM FileTree _) t = (.ok (t.list directory), t) := rfl
      simp only
      rw [bind_apply, hlist]
      simp only
      rw [bind_apply, hentries]
      rfl

theorem inTree_of_directory (h : t.isDirectory directory = .ok true) :
    inTree registry directory t = ofEntries registry directory (entriesIn directory t) := by
  rw [inTree_eq, h]
  rfl

theorem isDirectory_of_inTree (h : inTree registry directory t = .ok p) : t.isDirectory directory = .ok true := by
  rw [inTree_eq, bind_eq_ok_iff] at h
  obtain ⟨found, hfound, h⟩ := h
  cases hd : t.isDirectory directory with
  | error e => rw [hd] at hfound; cases hfound
  | ok b =>
    rw [hd] at hfound
    obtain rfl := Except.ok.inj hfound
    cases b with
    | false => cases h
    | true => rfl

theorem name_inj_entriesIn : ∀ a ∈ entriesIn directory t, ∀ b ∈ entriesIn directory t, a.name =
    b.name → a = b := by
  intro a ha b hb hname
  obtain ⟨n, -, rfl⟩ := List.mem_map.1 ha
  obtain ⟨m, -, rfl⟩ := List.mem_map.1 hb
  obtain rfl : n = m := hname
  rfl

/-- **The order** in which the directory is listed is not seen. -/
theorem inTree_rearranged (h : t.Rearranged t') : inTree registry directory t' = inTree registry directory t := by
  have hentries : entriesIn directory t' =
      ((t'.list directory).filter SourceEntry.isSource).map fun name =>
        ⟨name, textOfBytes (t.read (directory.child name))⟩ := by
    simp only [entriesIn, h.read_eq]
  have hperm : (entriesIn directory t').Perm (entriesIn directory t) := by
    rw [hentries]
    exact ((h.list directory).filter _).map _
  rw [inTree_eq, inTree_eq, h.isDirectory_eq, ofEntries_congr (sources_eq_of_perm hperm name_inj_entriesIn)]

section Added

variable (hd : t.isDirectory directory = .ok true) (h : t.Adds directory name bytes t')

include hd h

theorem entriesIn_added : entriesIn directory t' =
    entriesIn directory t ++ if SourceEntry.isSource name then [⟨name, textOfBytes (.ok bytes)⟩] else [] := by
  obtain ⟨here, hd, hn⟩ := FileTree.isDirectory_iff.1 hd
  have hold : ∀ other ∈ (t.list directory).filter SourceEntry.isSource,
      (⟨other, textOfBytes (t'.read (directory.child other))⟩ : SourceEntry) =
        ⟨other, textOfBytes (t.read (directory.child other))⟩ := by
    intro other hother
    have hne : other ≠ name := by
      rintro rfl
      exact h.not_mem_list hd hn (List.mem_of_mem_filter hother)
    rw [h.read_other hd hn hne]
  rw [entriesIn, entriesIn, h.list_eq hd hn, List.filter_append, List.map_append, List.map_congr_left hold]
  by_cases hsource : SourceEntry.isSource name
  · simp [hsource, h.read_new hd hn]
  · simp [hsource]

theorem inTree_added : inTree registry directory t' = ofEntries registry directory (entriesIn directory t') := by
  obtain ⟨here, hd, hn⟩ := FileTree.isDirectory_iff.1 hd
  exact inTree_of_directory (FileTree.isDirectory_iff.2 ⟨here, h.locate_of_ok hd hn hd, h.node?_of_some hd hn hn⟩)

end Added

/-- **What does not concern a package.** The package in a directory is the same in whatever order the
directory is listed. If there is one, it stays the same when a file is added that is no source file; and a
file of another package that is added behind the first one that is loaded leaves its name, its model and its
files as they are, and one more warning comes between the others. -/
theorem inTree_undisturbed (registry : ExternalRegistry) (directory : Path) (t : FileTree) :
    (∀ t', t.Rearranged t' → inTree registry directory t' = inTree registry directory t) ∧
    ∀ p, inTree registry directory t = .ok p →
      (∀ name bytes t', (¬ SourceEntry.endsWith name ".go" ∨ SourceEntry.endsWith name "_test.go") →
        t.Adds directory name bytes t' →
        inTree registry directory t' = .ok p) ∧
      ∀ name bytes t' text file, SourceEntry.endsWith name ".go" → ¬ SourceEntry.endsWith name "_test.go" →
        t.Adds directory name bytes t' → textOfBytes (.ok bytes) = .ok text → SourceFile.parse text = .ok file →
        file.package ≠ p.name → (∃ first more, p.files = first :: more ∧ first < name) →
          ∃ before after, p.warnings = before ++ after ∧ inTree registry directory t' = .ok { p with
            warnings := before ++ ("Skipping '" ++ name ++ "': package '" ++ file.package ++ "' is not '" ++
              p.name ++ "'") :: after } := by
  refine ⟨fun t' h => inTree_rearranged h, fun p hp => ⟨fun name bytes t' hname h => ?_, ?_⟩⟩
  · have hsource : SourceEntry.isSource name = false := by
      rw [SourceEntry.isSource]
      rcases hname with hname | hname <;> simp [hname]
    have hd := isDirectory_of_inTree hp
    rw [inTree_of_directory hd] at hp
    rw [inTree_added hd h, entriesIn_added hd h, if_neg (by simp [hsource]), List.append_nil]
    exact hp
  · intro name bytes t' text file hgo htest h htext hparse hpackage ⟨first, more, hfiles, hfirst⟩
    have hsource : SourceEntry.isSource name := by simp [SourceEntry.isSource, hgo, htest]
    have hd := isDirectory_of_inTree hp
    rw [inTree_of_directory hd] at hp
    have hfile : fileOf directory ⟨name, textOfBytes (.ok bytes)⟩ = .ok (name, file) := by
      simp only [fileOf, htext, hparse]
    have hwarning : foreignWarning p.name (name, file) =
        some ("Skipping '" ++ name ++ "': package '" ++ file.package ++ "' is not '" ++ p.name ++ "'") :=
          if_neg hpackage
    have hbehind : ∀ other, p.files.head? = some other → other < name := by
      intro other hother
      rw [hfiles] at hother
      obtain rfl := Option.some.inj hother
      exact hfirst
    obtain ⟨before, after, hwarnings, hnew⟩ := ofEntries_foreign hp hfile hsource hwarning hbehind
    refine ⟨before, after, hwarnings, ?_⟩
    rw [inTree_added hd h, ← hnew]
    refine ofEntries_congr (sources_eq_of_perm ?_ name_inj_entriesIn)
    rw [entriesIn_added hd h, if_pos hsource]
    exact List.perm_append_singleton _ _

/-- The bytes of a text of ASCII characters. -/
def asciiBytes (text : String) : List UInt8 := text.toList.map fun c => .ofNat c.toNat

/-- An orchard: a package in two files, with a generic type in the second one. -/
def orchardNodes : List (List String × FileNode) :=
  [(["orchard"], .directory), (["orchard", "ant.go"], .file (asciiBytes "package p\ntype Ant int\n")),
    (["orchard", "bee.go"], .file (asciiBytes "package p\ntype Hive[T any] int\n"))]

/-- The orchard with more nodes, seen from the root. -/
def orchard (more : List (List String × FileNode)) : FileTree := ⟨orchardNodes ++ more, []⟩

/-- The path of the orchard. -/
def orchardPath : Path := ⟨.here, ["orchard"]⟩

/-- A file of another package, with a generic type of its own. -/
def apeText : String := "package q\ntype Cage[T any] int\n"

theorem parse_apeText : (SourceFile.parse apeText).map SourceFile.package = .ok "q" := by
  decide +kernel

/-- The orchard with its nodes the other way round. -/
def turnedOrchard : FileTree := ⟨orchardNodes.reverse, []⟩

theorem inTree_orchard :
    (inTree .standard orchardPath (orchard [])).map (fun p => (p.name, p.files, p.warnings)) =
    .ok ("p", ["ant.go", "bee.go"], ["Skipping generic type 'Hive' (line 2)"]) := by
  have hd : (orchard []).isDirectory orchardPath = .ok true := by decide +kernel
  rw [inTree_of_directory hd, ofEntries, sources, List.mergeSort_of_pairwise (by decide +kernel)]
  decide +kernel

theorem adds_orchard {name : String} {bytes : List UInt8} (hproper : name ≠ "..")
    (hlocate : (orchard []).locate (orchardPath.child name) = .ok ["orchard", name])
    (hnew : (orchard []).node? ["orchard", name] = none) :
    (orchard []).Adds orchardPath name bytes (orchard [(["orchard", name], .file bytes)]) := by
  refine ⟨hproper, ?_, ?_⟩
  · simp only [FileTree.pathExists, FileTree.leadsTo, FileTree.look, hlocate, hnew]
  · simp only [FileTree.write, hlocate, hnew, FileTree.put_of_new hnew]
    rfl

/-- The orchard is listed the other way round, or has a test file more, or a file of another package that
comes between its own. -/
theorem inTree_undisturbed_orchard : (orchard []).Rearranged turnedOrchard ∧
    ∃ p, inTree .standard orchardPath (orchard []) = .ok p ∧ p.files = ["ant.go", "bee.go"] ∧
      inTree .standard orchardPath turnedOrchard = .ok p ∧
      inTree .standard orchardPath (orchard [(["orchard", "ant_test.go"], .file [0xff])]) = .ok p ∧
      ∃ before after, p.warnings = before ++ after ∧
        inTree .standard orchardPath (orchard [(["orchard", "ape.go"], .file (asciiBytes apeText))]) =
          .ok { p with warnings := before ++ "Skipping 'ape.go': package 'q' is not 'p'" :: after } := by
  have hturned : (orchard []).Rearranged turnedOrchard :=
    .of_perm rfl (List.reverse_perm orchardNodes) (by decide)
  obtain ⟨p, hp, hparts⟩ := map_eq_ok_iff.1 inTree_orchard
  obtain ⟨hname, hparts⟩ := Prod.mk.inj hparts
  obtain ⟨hfiles, -⟩ := Prod.mk.inj hparts
  obtain ⟨horder, hadded⟩ := inTree_undisturbed .standard orchardPath (orchard [])
  obtain ⟨hother, hforeign⟩ := hadded p hp
  refine ⟨hturned, p, hp, hfiles, (horder _ hturned).trans hp, ?_, ?_⟩
  · exact hother "ant_test.go" [0xff] _ (.inr (by decide))
      (adds_orchard (by decide) (by decide +kernel) (by decide))
  · obtain ⟨ape, hape, hq⟩ := map_eq_ok_iff.1 parse_apeText
    have hwarning : "Skipping '" ++ "ape.go" ++ "': package '" ++ ape.package ++ "' is not '" ++ p.name ++ "'" =
        "Skipping 'ape.go': package 'q' is not 'p'" := by
      rw [hq, hname]
      decide
    rw [← hwarning]
    exact hforeign "ape.go" (asciiBytes apeText) _ apeText ape (by decide) (by decide)
      (adds_orchard (by decide) (by decide +kernel) (by decide)) (by decide +kernel) hape
        (by rw [hq, hname]; decide)
      ⟨"ant.go", ["bee.go"], hfiles, by decide⟩

end LoadedPackage

end GoFixtures
