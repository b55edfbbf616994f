/-
  QuietEmit.Proofs.Project.Inputs

  The inputs of a project that was read from a text come one after the other in
  the order of paths (`pairwise_lt_fileNames`), so no path is listed twice, and
  the errors of such a project are about its file (`ofText_cases`). Where each
  place is spelt in one way, the set of the paths that are named or found tells
  which inputs there are (`dropRepeated_mergeSort_congr`).
-/
import Mathlib.Data.List.Pairwise
import QuietEmit.Project.Basic
import QuietEmit.Proofs.Path.Components

namespace QuietEmit

/-! ## Each input once -/

theorem dropRepeated_sublist (paths : List Path) : (dropRepeated paths).Sublist paths := by
  fun_induction dropRepeated paths with
  | case1 p q rest hsame ih => exact ih.trans (List.sublist_cons_self q rest |>.cons_cons p)
  | case2 p q rest hsame ih => exact ih.cons_cons p
  | case3 paths => exact .refl _

/-- What is left of paths in order comes strictly one after the other. -/
theorem pairwise_lt_dropRepeated {paths : List Path}
    (h : paths.Pairwise fun p q => p.le q = true) :
    (dropRepeated paths).Pairwise fun p q => p.cmp q = .lt := by
  fun_induction dropRepeated paths with
  | case1 p q rest hsame ih =>
      exact ih (h.sublist (List.sublist_cons_self q rest |>.cons_cons p))
  | case2 p q rest hsame ih =>
      obtain ⟨hp, hq⟩ := List.pairwise_cons.mp h
      refine List.pairwise_cons.mpr ⟨?_, ih hq⟩
      intro x hx
      have hpq : p.cmp q = .lt :=
        Path.lt_of_le_of_not_same (hp q (List.mem_cons_self ..)) (by simpa using hsame)
      rcases List.mem_cons.mp ((dropRepeated_sublist _).subset hx) with rfl | hx
      · exact hpq
      · exact Path.lt_of_lt_of_le hpq ((List.pairwise_cons.mp hq).1 x hx)
  | case3 paths hpaths =>
      match paths, hpaths with
      | [], _ => exact .nil
      | [p], _ => exact List.pairwise_singleton _ _
      | p :: q :: rest, hpaths => exact absurd rfl (hpaths p q rest)

/-- From paths strictly in order nothing is dropped. -/
theorem dropRepeated_of_pairwise_lt {files : List Path}
    (h : files.Pairwise fun p q => p.cmp q = .lt) : dropRepeated files = files := by
  fun_induction dropRepeated files with
  | case1 p q rest hsame ih =>
      have hlt : p.cmp q = .lt := (List.pairwise_cons.mp h).1 q (List.mem_cons_self ..)
      rw [Path.not_same_of_lt hlt] at hsame
      exact absurd hsame Bool.false_ne_true
  | case2 p q rest hsame ih => rw [ih (List.pairwise_cons.mp h).2]
  | case3 files => rfl

/-- Of paths that can be listed strictly in order, sorting leaves that list. -/
theorem dropRepeated_mergeSort {paths files : List Path} (hperm : paths.Perm files)
    (hsorted : files.Pairwise fun p q => p.cmp q = .lt) :
    dropRepeated (paths.mergeSort Path.le) = files := by
  have hle : files.Pairwise fun p q => p.le q = true :=
    hsorted.imp fun h => Path.le_iff.mpr (by rw [h]; rfl)
  have happart : files.Pairwise fun p q => ¬ (p.le q = true ∧ q.le p = true) :=
    hsorted.imp fun h => by simp [Path.not_le_of_lt h]
  have hsymm : Std.Symm fun p q : Path => ¬ (p.le q = true ∧ q.le p = true) :=
    ⟨fun _ _ h hqp => h hqp.symm⟩
  have hsort : (paths.mergeSort Path.le).Perm files := (List.mergeSort_perm paths _).trans hperm
  have heq : paths.mergeSort Path.le = files := by
    refine List.Perm.eq_of_pairwise ?_ (Path.pairwise_le_mergeSort paths) hle hsort
    intro p q hp hq hpq hqp
    by_contra hne
    exact happart.forall (hsort.subset hp) hq hne ⟨hpq, hqp⟩
  rw [heq, dropRepeated_of_pairwise_lt hsorted]

/-- Strictly in order there is one way to list paths. -/
theorem eq_of_pairwise_lt {files others : List Path}
    (hfiles : files.Pairwise fun p q => p.cmp q = .lt)
    (hothers : others.Pairwise fun p q => p.cmp q = .lt) (h : ∀ p, p ∈ files ↔ p ∈ others) :
    files = others := by
  have hnodup : ∀ {files : List Path}, (files.Pairwise fun p q => p.cmp q = .lt) →
      files.Nodup := by
    intro files hsorted
    refine hsorted.imp fun {p q} hlt => ?_
    rintro rfl
    have hself := Path.not_same_of_lt hlt
    simp [Path.same] at hself
  have hperm : files.Perm others :=
    (List.perm_ext_iff_of_nodup (hnodup hfiles) (hnodup hothers)).mpr h
  rw [← dropRepeated_mergeSort (List.Perm.refl files) hfiles, dropRepeated_mergeSort hperm hothers]

/-- Where the same place is always spelt alike, no path is lost. -/
theorem mem_dropRepeated {paths : List Path}
    (h : ∀ p ∈ paths, ∀ q ∈ paths, p.same q = true → p = q) {path : Path} :
    path ∈ dropRepeated paths ↔ path ∈ paths := by
  fun_induction dropRepeated paths with
  | case1 p q rest hsame ih =>
      obtain rfl := h p (by simp) q (by simp) hsame
      rw [ih fun a ha b hb => h a (List.mem_cons_of_mem _ ha) b (List.mem_cons_of_mem _ hb)]
      simp
  | case2 p q rest hsame ih =>
      rw [List.mem_cons, List.mem_cons,
        ih fun a ha b hb => h a (List.mem_cons_of_mem _ ha) b (List.mem_cons_of_mem _ hb)]
  | case3 paths => rfl

/-- A path that is dropped names the same place as one that is left. -/
theorem exists_same_mem_dropRepeated {paths : List Path} {path : Path} (h : path ∈ paths) :
    ∃ p ∈ dropRepeated paths, p.same path = true := by
  have hself : path.same path = true := by simp [Path.same]
  fun_induction dropRepeated paths generalizing path with
  | case1 p q rest hsame ih =>
      rcases List.mem_cons.mp h with rfl | h
      · exact ih List.mem_cons_self hself
      · rcases List.mem_cons.mp h with rfl | h
        · obtain ⟨r, hr, hrp⟩ := ih List.mem_cons_self (by simp [Path.same])
          rw [Path.same, beq_iff_eq] at hrp hsame
          exact ⟨r, hr, by rw [Path.same, hrp, hsame, beq_self_eq_true]⟩
        · exact ih (List.mem_cons_of_mem _ h) hself
  | case2 p q rest hsame ih =>
      rcases List.mem_cons.mp h with rfl | h
      · exact ⟨path, List.mem_cons_self, hself⟩
      · obtain ⟨r, hr, hrp⟩ := ih h hself
        exact ⟨r, List.mem_cons_of_mem _ hr, hrp⟩
  | case3 paths => exact ⟨path, h, hself⟩

/-- Which inputs there are is told by the set of their paths. -/
theorem dropRepeated_mergeSort_congr {a b : List Path} (hmem : ∀ p, p ∈ a ↔ p ∈ b)
    (h : ∀ p ∈ a, ∀ q ∈ a, p.same q = true → p = q) :
    dropRepeated (a.mergeSort Path.le) = dropRepeated (b.mergeSort Path.le) := by
  have hb : ∀ p ∈ b, ∀ q ∈ b, p.same q = true → p = q := fun p hp q hq =>
    h p ((hmem p).mpr hp) q ((hmem q).mpr hq)
  refine eq_of_pairwise_lt (pairwise_lt_dropRepeated (Path.pairwise_le_mergeSort a))
    (pairwise_lt_dropRepeated (Path.pairwise_le_mergeSort b)) fun p => ?_
  rw [mem_dropRepeated (by simpa using h), mem_dropRepeated (by simpa using hb), List.mem_mergeSort,
    List.mem_mergeSort, hmem]

/-- Of paths that name the places of a strictly ordered list, sorting leaves that list, however often
each one is there. -/
theorem dropRepeated_mergeSort_of_subset {paths files : List Path} (hsub : paths ⊆ files)
    (hall : files ⊆ paths) (hsorted : files.Pairwise fun p q => p.cmp q = .lt) :
    dropRepeated (paths.mergeSort Path.le) = files := by
  have hsymm : Std.Symm fun p q : Path => p.same q = false :=
    ⟨fun p q h => by rw [Path.same, BEq.comm]; exact h⟩
  have hspelt : ∀ p ∈ files, ∀ q ∈ files, p.same q = true → p = q := by
    intro p hp q hq hsame
    by_contra hne
    have hother : p.same q = false := (hsorted.imp Path.not_same_of_lt).forall hp hq hne
    rw [hother] at hsame
    exact Bool.false_ne_true hsame
  have hcongr := dropRepeated_mergeSort_congr (fun p => ⟨@hsub p, @hall p⟩)
    fun p hp q hq => hspelt p (hsub hp) q (hsub hq)
  rw [hcongr, dropRepeated_mergeSort (.refl files) hsorted]

/-! ## Results of readings -/

theorem eq_ok_of_toOption {ε α : Type} {x : Except ε α} {a : α} (h : x.toOption = some a) :
    x = .ok a := by
  cases x with
  | error e => cases h
  | ok b => exact congrArg _ (Option.some.inj h)

theorem exists_error_of_toOption {ε α : Type} {x : Except ε α} (h : x.toOption = none) :
    ∃ e, x = .error e := by
  cases x with
  | error e => exact ⟨e, rfl⟩
  | ok b => cases h

variable {tree : FileTree} {root configPath : Path} {text : String}

/-! ## Where inputs come from -/

namespace ProjectFile

/-- The inputs that a project file names. -/
def named (file : ProjectFile) (root : Path) : List Path :=
  (file.files.getD []).map fun f => (root.join ⟨f⟩).clean

/-- The inputs that its patterns take in. -/
def found (file : ProjectFile) (tree : FileTree) (root : Path) (options : CompilerOptions) :
    Except PatternFault (List Path) :=
  if file.includes.isEmpty then .ok []
  else (file.patterns tree root options.outDir).map fun patterns =>
    filesTaken tree root patterns options.allowJs

theorem inputs_eq (file : ProjectFile) (tree : FileTree) (root : Path)
    (options : CompilerOptions) :
    file.inputs tree root options = (file.found tree root options).map fun found =>
      dropRepeated ((file.named root ++ found).mergeSort Path.le) := by
  rw [inputs, found]
  split
  · rfl
  · cases file.patterns tree root options.outDir <;> rfl

/-- An input is named or found. -/
theorem mem_of_mem_inputs {file : ProjectFile} {options : CompilerOptions} {files : List Path}
    (h : file.inputs tree root options = .ok files) {path : Path} (hpath : path ∈ files) :
    path ∈ file.named root ∨ ∃ found, file.found tree root options = .ok found ∧ path ∈ found := by
  rw [inputs_eq] at h
  cases hfound : file.found tree root options with
  | error e => rw [hfound] at h; cases h
  | ok found =>
      rw [hfound] at h
      obtain rfl := Except.ok.inj h
      have hmem := (dropRepeated_sublist _).subset hpath
      rw [List.mem_mergeSort, List.mem_append] at hmem
      exact hmem.imp_right fun hmem => ⟨found, rfl, hmem⟩

/-- Without entries to take in nothing is found, and otherwise what the patterns take in. -/
theorem found_eq_ok {file : ProjectFile} {options : CompilerOptions} {found : List Path}
    (h : file.found tree root options = .ok found) :
    found = [] ∨ ∃ patterns, file.patterns tree root options.outDir = .ok patterns ∧
      found = filesTaken tree root patterns options.allowJs := by
  rw [ProjectFile.found] at h
  split at h
  · exact .inl (Except.ok.inj h).symm
  · cases hpatterns : file.patterns tree root options.outDir with
    | error e => rw [hpatterns] at h; cases h
    | ok patterns =>
        rw [hpatterns] at h
        exact .inr ⟨patterns, rfl, (Except.ok.inj h).symm⟩

/-- What is found are sources. -/
theorem isSource_of_mem_found {file : ProjectFile} {options : CompilerOptions} {found : List Path}
    (h : file.found tree root options = .ok found) {path : Path} (hpath : path ∈ found) :
    isSource path options.allowJs = true := by
  rcases found_eq_ok h with rfl | ⟨patterns, -, rfl⟩
  · cases hpath
  · rw [filesTaken] at hpath
    split at hpath
    · cases hpath
    · exact (List.mem_filter.mp hpath).2

/-- The inputs of a project file are what it names and finds, listed strictly in order. -/
theorem inputs_of_subset {file : ProjectFile} {options : CompilerOptions}
    {found files : List Path} (hfound : file.found tree root options = .ok found)
    (hsub : file.named root ++ found ⊆ files) (hall : files ⊆ file.named root ++ found)
    (hsorted : files.Pairwise fun p q => p.cmp q = .lt) :
    file.inputs tree root options = .ok files := by
  rw [inputs_eq, hfound, Except.map, dropRepeated_mergeSort_of_subset hsub hall hsorted]

/-- The inputs of a project file, where what it names and finds can be listed strictly in order. -/
theorem inputs_of_perm {file : ProjectFile} {options : CompilerOptions} {found files : List Path}
    (hfound : file.found tree root options = .ok found)
    (hperm : (file.named root ++ found).Perm files)
    (hsorted : files.Pairwise fun p q => p.cmp q = .lt) :
    file.inputs tree root options = .ok files :=
  inputs_of_subset hfound hperm.subset hperm.symm.subset hsorted

/-- The inputs that a project file stands for come strictly one after the other. -/
theorem pairwise_lt_inputs {file : ProjectFile} {options : CompilerOptions}
    {files : List Path} (h : file.inputs tree root options = .ok files) :
    files.Pairwise fun p q => p.cmp q = .lt := by
  rw [inputs_eq] at h
  cases hfound : file.found tree root options with
  | error e => rw [hfound] at h; cases h
  | ok found =>
      rw [hfound] at h
      obtain rfl := Except.ok.inj h
      exact pairwise_lt_dropRepeated (Path.pairwise_le_mergeSort _)

end ProjectFile

namespace Project

/-! ## Projects read from a text -/

/-- A project lists the inputs that its file stands for, or none where the file or one of its
patterns is faulty; its errors are about the file. -/
theorem ofText_cases (tree : FileTree) (configPath : Path) (text : String) :
    ((ofText tree configPath text).fileNames = [] ∨ ∃ file : ProjectFile,
      ∃ options : CompilerOptions, file.inputs tree configPath.parentOrEmpty options =
        .ok (ofText tree configPath text).fileNames) ∧
    ∀ d ∈ (ofText tree configPath text).errors,
      d.code = Code.configuration ∨ d.code = Code.withoutInputs := by
  rw [ofText]
  cases ProjectFile.ofText text with
  | error e => exact ⟨.inl rfl, by simp [unreadableText, Diagnostic.inFile, Diagnostic.atPosition,
      Diagnostic.error]⟩
  | ok file =>
      simp only
      cases hinputs : file.inputs tree configPath.parentOrEmpty
          (file.options.rooted configPath.parentOrEmpty) with
      | error e =>
          exact ⟨.inl rfl, by simp [faultyPattern, Diagnostic.inFile, Diagnostic.error]⟩
      | ok files =>
          refine ⟨.inr ⟨file, _, hinputs⟩, ?_⟩
          simp only
          split <;> simp [withoutInputs, Diagnostic.inFile, Diagnostic.error]

/-- The options of a project are those of its file, taken from its directory. -/
theorem options_ofText {file : ProjectFile} (hfile : ProjectFile.ofText text = .ok file) :
    (ofText tree configPath text).options = file.options.rooted configPath.parentOrEmpty := by
  rw [ofText, hfile]
  simp only
  cases file.inputs tree configPath.parentOrEmpty
    (file.options.rooted configPath.parentOrEmpty) <;> rfl

/-- A text that is no project file leaves all options as they are by themselves. -/
theorem options_ofText_of_error {e : Json.Error} (hfile : ProjectFile.ofText text = .error e) :
    (ofText tree configPath text).options = {} := by
  rw [ofText, hfile]

/-- The project of a file that stands for inputs; it is at fault only if there are none. -/
theorem ofText_eq_of_inputs {file : ProjectFile} {files : List Path}
    (hfile : ProjectFile.ofText text = .ok file)
    (hinputs : file.inputs tree configPath.parentOrEmpty
      (file.options.rooted configPath.parentOrEmpty) = .ok files) :
    ofText tree configPath text =
      ⟨configPath, configPath.parentOrEmpty, file.options.rooted configPath.parentOrEmpty, files,
        if files.isEmpty then [withoutInputs configPath] else []⟩ := by
  simp only [ofText, hfile, hinputs]
  cases files <;> rfl

/-- The project of a file that stands for some inputs. -/
theorem ofText_of_inputs {file : ProjectFile} {files : List Path}
    (hfile : ProjectFile.ofText text = .ok file)
    (hinputs : file.inputs tree configPath.parentOrEmpty
      (file.options.rooted configPath.parentOrEmpty) = .ok files) (hne : files ≠ []) :
    ofText tree configPath text =
      ⟨configPath, configPath.parentOrEmpty, file.options.rooted configPath.parentOrEmpty, files,
        []⟩ := by
  have hfiles : files.isEmpty = false := by simpa using hne
  rw [ofText_eq_of_inputs hfile hinputs, hfiles]
  rfl

/-- A project with an input was read from a file that stands for its inputs. -/
theorem exists_file_of_mem {path : Path} (h : path ∈ (ofText tree configPath text).fileNames) :
    ∃ file, ProjectFile.ofText text = .ok file ∧
      file.inputs tree configPath.parentOrEmpty (ofText tree configPath text).options =
        .ok (ofText tree configPath text).fileNames := by
  rw [ofText] at h ⊢
  cases hfile : ProjectFile.ofText text with
  | error e =>
      rw [hfile] at h
      cases h
  | ok file =>
      rw [hfile] at h
      simp only at h ⊢
      cases hinputs : file.inputs tree configPath.parentOrEmpty
          (file.options.rooted configPath.parentOrEmpty) with
      | error e =>
          rw [hinputs] at h
          cases h
      | ok files => exact ⟨file, rfl, hinputs⟩

/-- An input of a project is named in its file, or it is a source that a pattern takes in. -/
theorem named_or_isSource {path : Path} (h : path ∈ (ofText tree configPath text).fileNames) :
    (∃ file, ProjectFile.ofText text = .ok file ∧ path ∈ file.named configPath.parentOrEmpty) ∨
      isSource path (ofText tree configPath text).options.allowJs = true := by
  obtain ⟨file, hfile, hinputs⟩ := exists_file_of_mem h
  rcases ProjectFile.mem_of_mem_inputs hinputs h with hnamed | ⟨found, hfound, hmem⟩
  · exact .inl ⟨file, hfile, hnamed⟩
  · exact .inr (ProjectFile.isSource_of_mem_found hfound hmem)

/-- The inputs of a project come strictly one after the other. -/
theorem pairwise_lt_fileNames (tree : FileTree) (configPath : Path) (text : String) :
    (ofText tree configPath text).fileNames.Pairwise fun p q => p.cmp q = .lt := by
  obtain ⟨hnil | ⟨file, options, hinputs⟩, -⟩ := ofText_cases tree configPath text
  · rw [hnil]
    exact .nil
  · exact ProjectFile.pairwise_lt_inputs hinputs

/-- No two inputs of a project are the same path. -/
theorem pairwise_not_same_fileNames (tree : FileTree) (configPath : Path) (text : String) :
    (ofText tree configPath text).fileNames.Pairwise fun p q => p.same q = false :=
  (pairwise_lt_fileNames tree configPath text).imp Path.not_same_of_lt

end Project

end QuietEmit
