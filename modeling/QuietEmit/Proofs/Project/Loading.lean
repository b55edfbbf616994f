/-
  QuietEmit.Proofs.Project.Loading

  Projects loaded from a tree. A path leads to a project file in a directory of the tree,
  the root of the project, and its text says all there is to the project
  (`exists_of_load`). Where neither the text nor a pattern is faulty the project lists
  the inputs that its file stands for (`exists_inputs_of_load`).
-/
import QuietEmit.Proofs.FileTree.WellFormed
import QuietEmit.Proofs.Project.Inputs

namespace QuietEmit

open FileTree (Named pathOf)

variable {tree after : FileTree} {config : Path} {project : Project}

namespace Project

/-- The root directory is no text. -/
theorem readText_root (text : String) : tree.readText (pathOf []) ≠ .ok text := by
  have hlookup : tree.lookup (pathOf []) = .ok .dir := rfl
  intro h
  rw [FileTree.readText, hlookup] at h
  cases h

/-- A project that is loaded is the project of a text, in a file that has a name. -/
theorem exists_place_of_load (h : load tree config = .ok project) :
    ∃ root name text p, Named (root ++ [name]) ∧ tree.absolute config = .ok p ∧
      p.clean = pathOf (root ++ [name]) ∧ tree.readText (pathOf (root ++ [name])) = .ok text ∧
      project = ofText tree (pathOf (root ++ [name])) text := by
  rw [load] at h
  cases habsolute : tree.absolute config with
  | error e => simp [habsolute, bind, Except.bind, throw, throwThe, MonadExceptOf.throw] at h
  | ok p =>
      have hp : p.isAbsolute = true := by
        rw [FileTree.absolute] at habsolute
        split at habsolute
        · simp at habsolute
        · obtain rfl := Except.ok.inj habsolute
          exact Path.isAbsolute_join (FileTree.isAbsolute_pathOf _) config
      obtain ⟨loc, hnamed, hclean⟩ := FileTree.exists_clean_eq_pathOf hp
      cases hread : tree.readText p.clean with
      | error e => simp [habsolute, hread, bind, Except.bind, pure, Except.pure, throw, throwThe,
          MonadExceptOf.throw] at h
      | ok text =>
          have hproject : ofText tree p.clean text = project := by
            simpa [habsolute, hread, bind, Except.bind, pure, Except.pure] using h
          rw [hclean] at hread hproject
          -- the root is no file, so the location has a last name
          rcases List.eq_nil_or_concat loc with rfl | ⟨root, name, rfl⟩
          · exact absurd hread (readText_root text)
          · rw [List.concat_eq_append] at *
            exact ⟨root, name, text, p, hnamed, rfl, hclean, hread, hproject.symm⟩

/-- In a well-formed tree its file is in a directory. -/
theorem exists_of_load (wf : tree.WellFormed) (h : load tree config = .ok project) :
    ∃ root name text p, Named (root ++ [name]) ∧ tree.at? root = some .dir ∧
      tree.absolute config = .ok p ∧ p.clean = pathOf (root ++ [name]) ∧
      tree.readText (pathOf (root ++ [name])) = .ok text ∧
      project = ofText tree (pathOf (root ++ [name])) text := by
  obtain ⟨root, name, text, p, hnamed, habsolute, hclean, hread, hproject⟩ :=
    exists_place_of_load h
  obtain ⟨bytes, hat⟩ := wf.at?_of_readText hnamed hread
  exact ⟨root, name, text, p, hnamed, wf.dir_of_at? hat (by simp), habsolute, hclean, hread,
    hproject⟩

theorem absolute_congr (h : after.workingDir = tree.workingDir) (p : Path) :
    after.absolute p = tree.absolute p := by
  rw [FileTree.absolute, FileTree.absolute, FileTree.workingPath, FileTree.workingPath, h]

/-- Where the file is as before, the project is read from the same text. -/
theorem load_again {p : Path} {root : Location} {name text : String}
    (habsolute : tree.absolute config = .ok p) (hclean : p.clean = pathOf (root ++ [name]))
    (hdir : after.workingDir = tree.workingDir)
    (hread : after.readText (pathOf (root ++ [name])) = .ok text) :
    load after config = .ok (ofText after (pathOf (root ++ [name])) text) := by
  have hagain : after.absolute config = .ok p := by rw [absolute_congr hdir, habsolute]
  simp [load, hagain, hclean, hread, bind, Except.bind, pure, Except.pure]

/-- The same path leads to the same project file in another tree. -/
theorem exists_of_load_again (wf : after.WellFormed) {p : Path} {root : Location} {name : String}
    (hnamed : Named (root ++ [name])) (habsolute : tree.absolute config = .ok p)
    (hclean : p.clean = pathOf (root ++ [name])) (hdir : after.workingDir = tree.workingDir)
    (h : load after config = .ok project) :
    ∃ text, after.at? root = some .dir ∧ after.readText (pathOf (root ++ [name])) = .ok text ∧
      project = ofText after (pathOf (root ++ [name])) text := by
  obtain ⟨root', name', text, p', hnamed', hroot, habsolute', hclean', hread, hproject⟩ :=
    exists_of_load wf h
  -- the working directory is the same, so the place of the file is
  obtain rfl : p = p' := by
    rw [absolute_congr hdir, habsolute] at habsolute'
    exact Except.ok.inj habsolute'
  have hplace : root ++ [name] = root' ++ [name'] :=
    FileTree.pathOf_injective hnamed hnamed' (by rw [← hclean, hclean'])
  obtain ⟨rfl, hname⟩ := List.append_inj' hplace rfl
  obtain rfl : name = name' := by simpa using hname
  exact ⟨text, hroot, hread, hproject⟩

/-! ## What the file of a project says -/

/-- A project was read from a file in the directory at `root`, which says `file`. -/
structure ReadFrom (tree : FileTree) (project : Project) (root : Location) (file : ProjectFile) :
    Prop where
  named : Named root
  dir : tree.at? root = some .dir
  root_eq : project.root = pathOf root
  options_eq : project.options = file.options.rooted project.root
  text : ∃ text, tree.readText project.configPath = .ok text ∧ ProjectFile.ofText text = .ok file

/-- A project that is loaded is the project of a text. -/
theorem exists_text_of_load (wf : tree.WellFormed) (h : load tree config = .ok project) :
    ∃ root text, Named root ∧ tree.at? root = some .dir ∧ project.root = pathOf root ∧
      tree.readText project.configPath = .ok text ∧
      project = ofText tree project.configPath text := by
  obtain ⟨root, name, text, p, hnamed, hroot, -, -, hread, rfl⟩ := exists_of_load wf h
  exact ⟨root, text, hnamed.left, hroot, FileTree.parentOrEmpty_pathOf hnamed, hread, rfl⟩

namespace ReadFrom

variable {root : Location} {file : ProjectFile}

/-- The project of a text was read from what the text says. -/
theorem of_ofText {configPath : Path} {text : String} (hnamed : Named root)
    (hdir : tree.at? root = some .dir) (hparent : configPath.parentOrEmpty = pathOf root)
    (hread : tree.readText configPath = .ok text) (hparsed : ProjectFile.ofText text = .ok file) :
    ReadFrom tree (ofText tree configPath text) root file := by
  exact ⟨hnamed, hdir, hparent, options_ofText hparsed, text, hread, hparsed⟩

/-- A project that is loaded is the project of the text that its file is read from. -/
theorem exists_text (hfile : ReadFrom tree project root file) (wf : tree.WellFormed)
    (h : load tree config = .ok project) :
    ∃ text, ProjectFile.ofText text = .ok file ∧ project.configPath.parentOrEmpty = pathOf root ∧
      project = ofText tree project.configPath text := by
  obtain ⟨_, text, -, -, -, hread, hproject⟩ := exists_text_of_load wf h
  obtain ⟨text', hread', hparsed⟩ := hfile.text
  obtain rfl : text = text' := Except.ok.inj (hread.symm.trans hread')
  have hparent : project.root = project.configPath.parentOrEmpty :=
    congrArg Project.root hproject
  exact ⟨text, hparsed, by rw [← hparent, hfile.root_eq], hproject⟩

/-- It lists the inputs that its file stands for. -/
theorem eq_of_inputs (hfile : ReadFrom tree project root file) (wf : tree.WellFormed)
    (h : load tree config = .ok project) {files : List Path}
    (hinputs : file.inputs tree (pathOf root) project.options = .ok files) :
    project = ⟨project.configPath, project.root, project.options, files,
      if files.isEmpty then [withoutInputs project.configPath] else []⟩ := by
  obtain ⟨text, hparsed, hparent, hproject⟩ := hfile.exists_text wf h
  rw [hfile.options_eq, hfile.root_eq, ← hparent] at hinputs ⊢
  exact hproject.trans (ofText_eq_of_inputs hparsed hinputs)

/-- It lists none where an entry of the file is faulty, and tells which one. -/
theorem of_faulty (hfile : ReadFrom tree project root file) (wf : tree.WellFormed)
    (h : load tree config = .ok project) {e : PatternFault}
    (hinputs : file.inputs tree (pathOf root) project.options = .error e) :
    project.fileNames = [] ∧ project.errors = [faultyPattern project.configPath e] := by
  obtain ⟨text, hparsed, hparent, hproject⟩ := hfile.exists_text wf h
  rw [hfile.options_eq, hfile.root_eq, ← hparent] at hinputs
  rw [hproject]
  simp [ofText, hparsed, hinputs]

/-- A project is read from what its file says, and from nothing else. -/
theorem unique (hfile : ReadFrom tree project root file) {root' : Location} {file' : ProjectFile}
    (hfile' : ReadFrom tree project root' file') : root = root' ∧ file = file' := by
  obtain ⟨text, hread, hparsed⟩ := hfile.text
  obtain ⟨text', hread', hparsed'⟩ := hfile'.text
  obtain rfl : text = text' := Except.ok.inj (hread.symm.trans hread')
  refine ⟨FileTree.pathOf_injective hfile.named hfile'.named ?_,
    Except.ok.inj (hparsed.symm.trans hparsed')⟩
  rw [← hfile.root_eq, hfile'.root_eq]

end ReadFrom

/-- A project without faults in its text and its patterns lists the inputs that its file stands
for. -/
theorem exists_inputs_of_load (wf : tree.WellFormed) (h : load tree config = .ok project)
    (hvalid : ∀ d ∈ project.errors, d.code ≠ Code.configuration) :
    ∃ root file, ReadFrom tree project root file ∧
      file.inputs tree (pathOf root) project.options = .ok project.fileNames := by
  obtain ⟨root, text, hnamed, hdir, hroot, hread, hproject⟩ := exists_text_of_load wf h
  cases hparsed : ProjectFile.ofText text with
  | error e =>
      -- the text is at fault
      rw [hproject, ofText, hparsed] at hvalid
      exact absurd rfl (hvalid _ List.mem_cons_self)
  | ok file =>
      have hfile : ReadFrom tree project root file := by
        have hparent : project.configPath.parentOrEmpty = pathOf root :=
          (congrArg Project.root hproject).symm.trans hroot
        rw [hproject]
        exact .of_ofText hnamed hdir hparent hread hparsed
      cases hinputs : file.inputs tree (pathOf root) project.options with
      | error e =>
          rw [(hfile.of_faulty wf h hinputs).2] at hvalid
          exact absurd rfl (hvalid _ List.mem_cons_self)
      | ok files =>
          have hfiles := congrArg Project.fileNames (hfile.eq_of_inputs wf h hinputs)
          exact ⟨root, file, hfile, by rw [hinputs, hfiles]⟩

end Project

/-- The project of a text in a file of `/p`, from where the file is named. -/
theorem load_inP {text : String} (hdir : tree.workingDir = ["p"])
    (hread : tree.readText ⟨"/p/tsconfig.json"⟩ = .ok text) :
    Project.load tree ⟨"tsconfig.json"⟩ = .ok (Project.ofText tree ⟨"/p/tsconfig.json"⟩ text) := by
  have habsolute : tree.absolute ⟨"tsconfig.json"⟩ = .ok ⟨"/p/tsconfig.json"⟩ := by
    rw [FileTree.absolute, FileTree.workingPath, hdir]
    exact eq_ok_of_toOption (by decide +kernel)
  have hplace : pathOf (["p"] ++ ["tsconfig.json"]) = ⟨"/p/tsconfig.json"⟩ := by decide +kernel
  have hclean : Path.clean ⟨"/p/tsconfig.json"⟩ = pathOf (["p"] ++ ["tsconfig.json"]) := by
    decide +kernel
  rw [← hplace] at hread ⊢
  exact Project.load_again habsolute hclean rfl hread

/-- Such a project lists the inputs that its file stands for. -/
theorem load_inP_of_inputs {text : String} {file : ProjectFile} {files : List Path}
    (hdir : tree.workingDir = ["p"]) (hread : tree.readText ⟨"/p/tsconfig.json"⟩ = .ok text)
    (hparsed : ProjectFile.ofText text = .ok file)
    (hinputs : file.inputs tree ⟨"/p"⟩ (file.options.rooted ⟨"/p"⟩) = .ok files) :
    Project.load tree ⟨"tsconfig.json"⟩ = .ok ⟨⟨"/p/tsconfig.json"⟩, ⟨"/p"⟩,
      file.options.rooted ⟨"/p"⟩, files,
      if files.isEmpty then [Project.withoutInputs ⟨"/p/tsconfig.json"⟩] else []⟩ := by
  have hparent : Path.parentOrEmpty ⟨"/p/tsconfig.json"⟩ = ⟨"/p"⟩ := by decide +kernel
  rw [← hparent] at hinputs ⊢
  rw [load_inP hdir hread, Project.ofText_eq_of_inputs hparsed hinputs]

/-- Such a project lists what its file names and what is found, where both can be listed in
order. -/
theorem load_inP_of_found {text : String} {file : ProjectFile} {found files : List Path}
    (hdir : tree.workingDir = ["p"]) (hread : tree.readText ⟨"/p/tsconfig.json"⟩ = .ok text)
    (hparsed : ProjectFile.ofText text = .ok file)
    (hfound : file.found tree ⟨"/p"⟩ (file.options.rooted ⟨"/p"⟩) = .ok found)
    (hperm : (file.named ⟨"/p"⟩ ++ found).Perm files)
    (hsorted : files.Pairwise fun p q => p.cmp q = .lt) :
    Project.load tree ⟨"tsconfig.json"⟩ = .ok ⟨⟨"/p/tsconfig.json"⟩, ⟨"/p"⟩,
      file.options.rooted ⟨"/p"⟩, files,
      if files.isEmpty then [Project.withoutInputs ⟨"/p/tsconfig.json"⟩] else []⟩ :=
  load_inP_of_inputs hdir hread hparsed (ProjectFile.inputs_of_perm hfound hperm hsorted)

end QuietEmit
