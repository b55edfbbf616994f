/-
  QuietEmit.Proofs.Project.Hidden

  Hidden names among the inputs of a project. That a name is hidden counts only where no
  pattern has a say: a hidden directory is entered when an entry takes it in, and a hidden
  file is collected like any other one. The entry `**/*`, which stands where a project
  file does not say what to take in, takes in all of both (`TakesAll.collects`).
-/
import QuietEmit.Proofs.Project.Loading
import QuietEmit.Proofs.Project.Selection

namespace QuietEmit

open FileTree (Named pathOf)

variable {tree : FileTree} {config : Path} {project : Project}

/-- An entry takes in all there is below the root: it is `**/*`, and not the name of a
directory. -/
structure TakesAll (tree : FileTree) (root : Path) (entry : String) : Prop where
  eq : entry = "**/*"
  not_dir : tree.isDir (entryPath root entry) = false

theorem TakesAll.applies {root : Path} {entry : String} {p : OverridePattern}
    (h : TakesAll tree root entry)
    (hread : OverridePattern.read (includeLine tree root entry) = .ok p) (path : List UInt8)
    (isDir : Bool) : p.applies path isDir = true := by
  have htrimmed : trimPattern "**/*".toList = ['*', '*', '/', '*'] := by decide +kernel
  rw [includeLine_eq, h.not_dir, if_neg Bool.false_ne_true, h.eq, htrimmed] at hread
  exact applies_of_takeAll hread path isDir

/-- With such an entry, what is not left out is collected. -/
theorem TakesAll.collects {root : Path} {entry : String} {p : OverridePattern}
    (h : TakesAll tree root entry) {file : ProjectFile} (hentry : entry ∈ file.includes)
    (hread : OverridePattern.read (includeLine tree root entry) = .ok p) {outDir : Option Path}
    {loc : Location} (hkept : ¬ file.LeavesOut root outDir loc) :
    file.Collects tree root outDir loc := by
  have htakes : ∀ loc isDir, file.TakesIn tree root loc isDir := fun loc isDir =>
    ⟨entry, hentry, p, hread, h.applies hread _ isDir⟩
  exact ⟨htakes loc false, hkept, fun n _ _ _ => htakes _ true⟩

/-- Where the text and the patterns of a project are without fault, its inputs are the files that it
names, and the sources that an entry takes in and none leaves out, and for which an entry takes in
each hidden directory on the way; whether the source is hidden itself does not count. With the
entry `**/*`, all sources that none leaves out are collected, also those with a hidden name on the
way to them. -/
theorem hidden_names_collected (wf : tree.WellFormed)
    (h : Project.load tree config = .ok project)
    (hvalid : ∀ d ∈ project.errors, d.code ≠ Code.configuration) :
    ∃ root file, Project.ReadFrom tree project root file ∧
      (∀ path, path ∈ project.fileNames ↔ path ∈ file.named project.root ∨
        ∃ loc, loc ≠ [] ∧ (∃ bytes, tree.at? (root ++ loc) = some (.file bytes)) ∧
          file.Collects tree project.root project.options.outDir loc ∧
          path = pathOf (root ++ loc) ∧ isSource path project.options.allowJs = true) ∧
      ∀ entry ∈ file.includes, TakesAll tree project.root entry →
        ∀ loc, loc ≠ [] → (∃ bytes, tree.at? (root ++ loc) = some (.file bytes)) →
          isSource (pathOf (root ++ loc)) project.options.allowJs = true →
          ¬ file.LeavesOut project.root project.options.outDir loc →
          pathOf (root ++ loc) ∈ project.fileNames := by
  obtain ⟨root, file, hfile, hinputs⟩ := Project.exists_inputs_of_load wf h hvalid
  refine ⟨root, file, hfile, fun path => ?_, ?_⟩
  · rw [hfile.root_eq]
    exact mem_inputs_iff wf hfile.named hfile.dir hinputs
  · intro entry hentry hall loc hne hat hsource hkept
    rw [hfile.root_eq] at hall hkept
    obtain ⟨p, hread⟩ :=
      (ProjectFile.exists_inputs_iff.mp ⟨_, hinputs⟩ (List.ne_nil_of_mem hentry)).1 entry hentry
    exact (mem_inputs_iff wf hfile.named hfile.dir hinputs).mpr
      (.inr ⟨loc, hne, hat, hall.collects hentry hread hkept, rfl, hsource⟩)

/-- A tree with an empty project file, a source, a hidden one, and one in a hidden directory. -/
def hiddenTree : FileTree where
  entries := [(["p"], .dir), (["p", "tsconfig.json"], .file "\x7b\x7d".toUTF8),
    (["p", "a.ts"], .file "".toUTF8), (["p", ".x.ts"], .file "".toUTF8), (["p", ".h"], .dir),
    (["p", ".h", "t.ts"], .file "".toUTF8)]
  workingDir := ["p"]

/-- The project of that tree. -/
def hiddenProject : Project where
  configPath := ⟨"/p/tsconfig.json"⟩
  root := ⟨"/p"⟩
  options := {}
  fileNames := [⟨"/p/.h/t.ts"⟩, ⟨"/p/.x.ts"⟩, ⟨"/p/a.ts"⟩]
  errors := []

theorem readText_hidden : hiddenTree.readText ⟨"/p/tsconfig.json"⟩ = .ok "\x7b\x7d" :=
  eq_ok_of_toOption (by decide +kernel)

theorem ofText_hidden : ProjectFile.ofText "\x7b\x7d" = .ok {} :=
  eq_ok_of_toOption (by decide +kernel)

theorem load_hidden : Project.load hiddenTree ⟨"tsconfig.json"⟩ = .ok hiddenProject := by
  have hfound : ProjectFile.found {} hiddenTree ⟨"/p"⟩ {} =
      .ok [⟨"/p/a.ts"⟩, ⟨"/p/.x.ts"⟩, ⟨"/p/.h/t.ts"⟩] := eq_ok_of_toOption (by decide +kernel)
  exact load_inP_of_found rfl readText_hidden ofText_hidden hfound
    (by decide +kernel : ([⟨"/p/a.ts"⟩, ⟨"/p/.x.ts"⟩, ⟨"/p/.h/t.ts"⟩] : List Path).Perm
      [⟨"/p/.h/t.ts"⟩, ⟨"/p/.x.ts"⟩, ⟨"/p/a.ts"⟩]) (by decide +kernel)

/-- The entry that stands for what the project file does not say collects the source in the hidden
directory. -/
theorem hidden_names_collected_default :
    Project.load hiddenTree ⟨"tsconfig.json"⟩ = .ok hiddenProject ∧
    ProjectFile.Collects {} hiddenTree ⟨"/p"⟩ none [".h", "t.ts"] := by
  have wf : hiddenTree.WellFormed := by decide +kernel
  have hnamed : Named (["p"] ++ [".h", "t.ts"]) := by decide +kernel
  obtain ⟨root, file, hfile, hmem, -⟩ := hidden_names_collected wf load_hidden (by decide)
  have hfrom : Project.ReadFrom hiddenTree hiddenProject ["p"] {} :=
    ⟨hnamed.left, rfl, by decide +kernel, rfl, _, readText_hidden, ofText_hidden⟩
  obtain ⟨rfl, rfl⟩ := hfile.unique hfrom
  obtain hpath | ⟨loc, -, ⟨bytes, hat⟩, hcollects, hpath, -⟩ :=
    (hmem ⟨"/p/.h/t.ts"⟩).mp (by decide)
  · exact absurd hpath List.not_mem_nil
  · have hplace : pathOf (["p"] ++ [".h", "t.ts"]) = ⟨"/p/.h/t.ts"⟩ := by decide +kernel
    have hloc := FileTree.pathOf_injective hnamed (wf.named_of_at? hat)
      (congrArg Path.components (hplace.trans hpath))
    obtain rfl := List.append_cancel_left hloc
    exact ⟨load_hidden, hcollects⟩

/-- Of a project that names no file two inputs have a hidden name on the way to them. -/
theorem hidden_inputs :
    Project.load hiddenTree ⟨"tsconfig.json"⟩ = .ok hiddenProject ∧
    ProjectFile.ofText "\x7b\x7d" = .ok {} ∧ ProjectFile.named {} ⟨"/p"⟩ = [] ∧
    pathOf ["p", ".x.ts"] ∈ hiddenProject.fileNames ∧ isHiddenName ".x.ts" = true ∧
    pathOf ["p", ".h", "t.ts"] ∈ hiddenProject.fileNames ∧ isHiddenName ".h" = true :=
  ⟨load_hidden, ofText_hidden, rfl, by decide +kernel, by decide, by decide +kernel, by decide⟩

end QuietEmit
