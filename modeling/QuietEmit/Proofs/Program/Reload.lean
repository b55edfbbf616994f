/-
  QuietEmit.Proofs.Program.Reload

  Reading a project again after its program was emitted. Outputs go to locations below
  the output directory (`Project.exists_destination_eq`), so an emission changes the tree
  there and nowhere else, and what is below an output directory inside of the root is
  left out of the collection (`outputs_not_collected`).

  The output directory is left out by a pattern made of its name. A name with brackets
  is read as a class of characters then, which leaves out another directory and not
  this one (`bracketed_outputs_collected`).
-/
import QuietEmit.Program.Emit
import QuietEmit.Proofs.Program.Destinations
import QuietEmit.Proofs.Project.Loaded

namespace QuietEmit

open FileTree (Named pathOf ChangedBelow)

variable {tree after : FileTree} {config : Path} {project : Project}

namespace Project

/-! ## Locations of a project -/

/-- A project with an output directory was read from a project file. -/
theorem exists_file_of_outDir {text : String} {outDir : Path}
    (h : (ofText tree config text).options.outDir = some outDir) :
    ∃ file, ProjectFile.ofText text = .ok file ∧
      (ofText tree config text).options = file.options.rooted config.parentOrEmpty := by
  cases hfile : ProjectFile.ofText text with
  | error e =>
      rw [options_ofText_of_error hfile] at h
      simp at h
  | ok file => exact ⟨file, rfl, options_ofText hfile⟩

/-- A project depends on the tree in its inputs only. -/
theorem ofText_congr {text : String}
    (h : ∀ file, ProjectFile.ofText text = .ok file →
      file.inputs after config.parentOrEmpty (file.options.rooted config.parentOrEmpty) =
        file.inputs tree config.parentOrEmpty (file.options.rooted config.parentOrEmpty)) :
    ofText after config text = ofText tree config text := by
  rw [ofText, ofText]
  cases hfile : ProjectFile.ofText text with
  | error e => rfl
  | ok file => simp only [h file hfile]

/-! ## Locations of outputs -/

/-- An input other than the source root is laid out below the output directory. -/
theorem exists_layout_eq {out base source : Location}
    (hout : project.options.outDir = some (pathOf out)) (hbase : project.layoutRoot = pathOf base)
    (hnamed : Named out) (hbaseNamed : Named base) (hsource : Named source) (hne : source ≠ [])
    (hother : source ≠ base) :
    ∃ rest, rest ≠ [] ∧ Named (out ++ rest) ∧
      project.layout (pathOf source) = pathOf (out ++ rest) := by
  have hjoin : ∀ rest, rest ≠ [] → Named rest →
      Named (out ++ rest) ∧
        (pathOf out).join ⟨"/".intercalate rest⟩ = pathOf (out ++ rest) := by
    intro rest hrest hrestNamed
    have hboth : Named (out ++ rest) := List.forall_mem_append.mpr ⟨hnamed, hrestNamed⟩
    exact ⟨hboth, FileTree.join_pathOf hboth hrest⟩
  rw [layout, hout, hbase]
  cases hbelow : (pathOf source).below? (pathOf base) with
  | some r =>
      have hbegins : base <+: source := by
        have hcomponents := Path.components_eq_append_of_below? hbelow
        rw [← FileTree.startsWith_pathOf hsource hbaseNamed, Path.startsWith, hcomponents]
        simp
      obtain ⟨rest, rfl⟩ := hbegins
      have hrest : rest ≠ [] := by
        rintro rfl
        exact hother (List.append_nil base)
      obtain ⟨hboth, hpath⟩ := hjoin rest hrest hsource.right
      rw [FileTree.below?_pathOf hsource] at hbelow
      obtain rfl := Option.some.inj hbelow
      exact ⟨rest, hrest, hboth, hpath⟩
  | none =>
      -- an input outside of the source root is laid out by its name
      rcases List.eq_nil_or_concat source with rfl | ⟨above, s, rfl⟩
      · exact absurd rfl hne
      · rw [List.concat_eq_append] at hsource ⊢
        obtain ⟨hboth, hpath⟩ := hjoin [s] (by simp) hsource.right
        refine ⟨[s], by simp, hboth, ?_⟩
        rw [FileTree.fileName_pathOf hsource, ← hpath, String.intercalate_singleton]
        rfl

/-- What such an input asks for goes below the output directory. -/
theorem exists_destination_eq {out base source : Location}
    (hout : project.options.outDir = some (pathOf out)) (hbase : project.layoutRoot = pathOf base)
    (hnamed : Named out) (hbaseNamed : Named base) (hsource : Named source) (hne : source ≠ [])
    (hother : source ≠ base) {extension : String} (hext : extension ∈ outputExtensions) :
    ∃ rest, rest ≠ [] ∧ Named (out ++ rest) ∧
      project.destination (pathOf source) extension = pathOf (out ++ rest) := by
  obtain ⟨rest, hrest, hboth, hlayout⟩ :=
    exists_layout_eq hout hbase hnamed hbaseNamed hsource hne hother
  obtain ⟨hextNe, hextSlash⟩ := outputExtensions_wellFormed extension hext
  rcases List.eq_nil_or_concat rest with rfl | ⟨above, s, rfl⟩
  · exact absurd rfl hrest
  · rw [List.concat_eq_append, ← List.append_assoc] at hboth hlayout
    obtain ⟨hname, hpath⟩ := FileTree.withExtension_pathOf hboth hextNe hextSlash
    refine ⟨above ++ [Path.stemOf s ++ "." ++ extension], by simp, ?_, ?_⟩
    · rw [← List.append_assoc]
      exact List.forall_mem_append.mpr ⟨hboth.left, by simpa using hname⟩
    · rw [destination_eq, hlayout, hpath, List.append_assoc]

/-! ## What a compilation changes -/

/-- A compilation leaves the tree as it is, or as it is with the files that its inputs ask for. -/
theorem compile_tree (project : Project) (tree : FileTree) (passes : List Pass)
    (display : Display) :
    (project.compile tree passes display).2.1 = tree ∨
      (project.compile tree passes display).2.1 =
        storeAfter tree (project.fileNames.flatMap (project.outputsAt passes tree)) := by
  have htree : (project.compile tree passes display).2.1 =
      ((Program.ofProject tree project).writeOutputs tree passes).tree tree := rfl
  rw [htree]
  cases hblocked : (Program.ofProject tree project).isBlocked with
  | true => exact .inl (by rw [Program.writeOutputs_of_isBlocked hblocked]; rfl)
  | false => exact .inr (by rw [Program.writeOutputs_ofProject hblocked]; rfl)

/-- A compilation keeps a tree well-formed, and its directories. -/
theorem changedBelow_root_compile (wf : tree.WellFormed) (project : Project) (passes : List Pass)
    (display : Display) : ChangedBelow [] tree (project.compile tree passes display).2.1 := by
  obtain hsame | hstore := compile_tree project tree passes display
  · rw [hsame]
    exact .refl wf
  · rw [hstore]
    exact .of_storeAfter wf _

/-- Where all inputs are paths of locations other than the source root, a compilation changes only
what is below the output directory. -/
theorem changedBelow_compile (wf : tree.WellFormed) {out base : Location}
    (hout : project.options.outDir = some (pathOf out)) (hbase : project.layoutRoot = pathOf base)
    (hnamed : Named out) (hbaseNamed : Named base)
    (hinputs : ∀ path ∈ project.fileNames, ∃ source, Named source ∧ path = pathOf source ∧
      source ≠ base) (passes : List Pass) (display : Display) :
    ChangedBelow out tree (project.compile tree passes display).2.1 := by
  obtain hsame | hstore := compile_tree project tree passes display
  · rw [hsame]
    exact .refl wf
  · rw [hstore]
    refine .storeAfter wf fun o ho => ?_
    obtain ⟨path, hpath, ho⟩ := List.mem_flatMap.mp ho
    obtain ⟨source, hsource, rfl, hother⟩ := hinputs path hpath
    have hne : source ≠ [] := by
      -- the root is no file, so nothing is asked for it
      rintro rfl
      rw [outputsAt] at ho
      split at ho
      · next text hread =>
          obtain ⟨bytes, hat⟩ := wf.at?_of_readText hsource hread
          simp at hat
      · simp at ho
    have hdestination : ∀ e ∈ outputExtensions, ∃ rest, rest ≠ [] ∧ Named (out ++ rest) ∧
        project.destination (pathOf source) e = pathOf (out ++ rest) := fun e he =>
      exists_destination_eq hout hbase hnamed hbaseNamed hsource hne hother he
    obtain ⟨hcode | hdeclaration, -⟩ := project.path_of_mem_outputsAt passes tree ho
    · rw [hcode]
      exact hdestination _ (List.mem_append_left _ (emittedExtensions_fst_mem _))
    · rw [hdeclaration]
      exact hdestination _ (List.mem_append_right _ (emittedExtensions_snd_mem _))

end Project

/-! ## Reading a project again -/

/-- The location of an output directory inside of the root. -/
theorem exists_location_below {root out : Location} (hroot : Named root) (hout : Named out)
    {below : Path} (hbelow : (pathOf out).below? (pathOf root) = some below)
    (hstrict : below.components ≠ []) :
    ∃ dir, dir ≠ [] ∧ out = root ++ dir ∧ below = ⟨"/".intercalate dir⟩ := by
  have hcomponents := Path.components_eq_append_of_below? hbelow
  have hbegins : root <+: out := by
    rw [← FileTree.startsWith_pathOf hout hroot, Path.startsWith, hcomponents]
    simp
  obtain ⟨dir, rfl⟩ := hbegins
  refine ⟨dir, ?_, rfl, ?_⟩
  · rintro rfl
    rw [List.append_nil, List.self_eq_append_right] at hcomponents
    exact hstrict hcomponents
  · rw [FileTree.below?_pathOf hout] at hbelow
    exact (Option.some.inj hbelow).symm

section OfText

variable {root dir : Location} {name text : String}

/-- The source root is the path of a location. -/
theorem exists_pathOf_layoutRoot (hnamed : Named (root ++ [name]))
    (hout : (Project.ofText tree (pathOf (root ++ [name])) text).options.outDir =
      some (pathOf (root ++ dir))) :
    ∃ base, Named base ∧
      (Project.ofText tree (pathOf (root ++ [name])) text).layoutRoot = pathOf base := by
  obtain ⟨file, -, hoptions⟩ := Project.exists_file_of_outDir hout
  rw [FileTree.parentOrEmpty_pathOf hnamed] at hoptions
  rw [Project.layoutRoot, Project.root_ofText hnamed, hoptions]
  cases hdir : (file.options.rooted (pathOf root)).rootDir with
  | none => exact ⟨root, hnamed.left, rfl⟩
  | some given =>
      have hnormal := CompilerOptions.normal_rooted (FileTree.isAbsolute_pathOf root) file.options
      exact Path.normal_iff.mp (hnormal.rootDir given hdir)

/-- An input at or below the output directory is named in the project file. -/
theorem mem_named_of_startsWith (wf : tree.WellFormed) (hroot : tree.at? root = some .dir)
    (hnamed : Named (root ++ [name])) (houtNamed : Named (root ++ dir)) (hne : dir ≠ [])
    (hreads : ReadsAsItself ⟨"/".intercalate dir⟩)
    (hout : (Project.ofText tree (pathOf (root ++ [name])) text).options.outDir =
      some (pathOf (root ++ dir))) {path : Path}
    (hpath : path ∈ (Project.ofText tree (pathOf (root ++ [name])) text).fileNames)
    (hstarts : path.startsWith (pathOf (root ++ dir)) = true) :
    ∃ file, ProjectFile.ofText text = .ok file ∧ path ∈ file.named (pathOf root) := by
  obtain ⟨file, hfile, hinputs⟩ := Project.exists_file_of_mem hpath
  rw [FileTree.parentOrEmpty_pathOf hnamed] at hinputs
  obtain hmem | ⟨found, hfound, hmem⟩ := ProjectFile.mem_of_mem_inputs hinputs hpath
  · exact ⟨file, hfile, hmem⟩
  · have hno := not_startsWith_of_mem_found wf houtNamed hne hroot hreads hout hfound hmem
    rw [hno] at hstarts
    exact absurd hstarts Bool.false_ne_true

/-- The project of a text is the same after files have been written below the output directory. -/
theorem ofText_stable (wf : tree.WellFormed) (hroot : tree.at? root = some .dir)
    (hnamed : Named (root ++ [name])) (houtNamed : Named (root ++ dir)) (hne : dir ≠ [])
    (hreads : ReadsAsItself ⟨"/".intercalate dir⟩)
    (hout : (Project.ofText tree (pathOf (root ++ [name])) text).options.outDir =
      some (pathOf (root ++ dir))) (hchanged : ChangedBelow (root ++ dir) tree after)
    (h : ∀ file, ProjectFile.ofText text = .ok file →
      NoEntryArises file (pathOf root) tree after) :
    Project.ofText after (pathOf (root ++ [name])) text =
      Project.ofText tree (pathOf (root ++ [name])) text := by
  obtain ⟨file, hfile, hoptions⟩ := Project.exists_file_of_outDir hout
  refine Project.ofText_congr fun file' hfile' => ?_
  obtain rfl : file = file' := Except.ok.inj (hfile.symm.trans hfile')
  rw [hoptions] at hout
  rw [FileTree.parentOrEmpty_pathOf hnamed] at hout ⊢
  exact inputs_stable wf hroot houtNamed hne hreads hchanged (h file hfile) hout

/-- The project file stays what it is when files are written below the output directory, also where
it has the name of this directory. -/
theorem readText_config_stable (wf : tree.WellFormed) (hnamed : Named (root ++ [name]))
    (hne : dir ≠ []) (hchanged : ChangedBelow (root ++ dir) tree after)
    (hread : tree.readText (pathOf (root ++ [name])) = .ok text) :
    after.readText (pathOf (root ++ [name])) = .ok text := by
  obtain ⟨bytes, hat⟩ := wf.at?_of_readText hnamed hread
  have hnotBelow : ¬ (root ++ dir <+: root ++ [name] ∧ root ++ [name] ≠ root ++ dir) := by
    rintro ⟨hbegins, hother⟩
    -- what is strictly inside of the root begins the name of the file only if it is that name
    obtain ⟨s, rest, rfl⟩ := List.exists_cons_of_ne_nil hne
    rw [List.prefix_append_right_inj, List.cons_prefix_cons, List.prefix_nil] at hbegins
    obtain ⟨rfl, rfl⟩ := hbegins
    exact hother rfl
  obtain hsame | ⟨-, hnone, -⟩ := hchanged.elsewhere _ hnotBelow
  · exact wf.readText_of_at? hchanged.wellFormed hnamed hsame hread
  · simp [hat] at hnone

end OfText

/-- After a project was compiled that has an output directory strictly inside of its root, with a
name that reads as itself, reading it again with that output directory takes in no file from there
that the project file does not name. Where no input is the source root itself, and no entry with a
special character has become the name of a directory, the project is read again as it was. -/
theorem outputs_not_collected (wf : tree.WellFormed)
    (hload : Project.load tree config = .ok project) {outDir below : Path}
    (hout : project.options.outDir = some outDir)
    (hbelow : outDir.below? project.root = some below) (hstrict : below.components ≠ [])
    (hreads : ReadsAsItself below) (passes : List Pass) (display : Display) :
    let after := (project.compile tree passes display).2.1
    (∀ again, Project.load after config = .ok again → again.options.outDir = some outDir →
      ∀ path ∈ again.fileNames, path.startsWith outDir = true →
        ∃ text file, after.readText again.configPath = .ok text ∧
          ProjectFile.ofText text = .ok file ∧ path ∈ file.named again.root) ∧
    ∃ text file, tree.readText project.configPath = .ok text ∧
      ProjectFile.ofText text = .ok file ∧
      ((∀ path ∈ project.fileNames, path.same project.layoutRoot = false) →
        NoEntryArises file project.root tree after → Project.load after config = .ok project) := by
  intro after
  have hafter : ChangedBelow [] tree after :=
    Project.changedBelow_root_compile wf project passes display
  obtain ⟨root, name, text, p, hnamed, hroot, habsolute, hclean, hread, rfl⟩ :=
    Project.exists_of_load wf hload
  obtain ⟨file, hfile, hoptions⟩ := Project.exists_file_of_outDir hout
  obtain ⟨out, houtNamed, rfl⟩ : ∃ out, Named out ∧ outDir = pathOf out := by
    rw [hoptions, FileTree.parentOrEmpty_pathOf hnamed] at hout
    have hnormal := CompilerOptions.normal_rooted (FileTree.isAbsolute_pathOf root) file.options
    exact Path.normal_iff.mp (hnormal.outDir outDir hout)
  rw [Project.root_ofText hnamed] at hbelow
  obtain ⟨dir, hne, rfl, rfl⟩ := exists_location_below hnamed.left houtNamed hbelow hstrict
  constructor
  · intro again hagain houtAgain path hpath hstarts
    obtain ⟨text', hrootAfter, hread', rfl⟩ := Project.exists_of_load_again hafter.wellFormed hnamed
      habsolute hclean hafter.workingDir hagain
    obtain ⟨file', hfile', hmem⟩ := mem_named_of_startsWith hafter.wellFormed hrootAfter hnamed
      houtNamed hne hreads houtAgain hpath hstarts
    rw [Project.root_ofText hnamed]
    exact ⟨text', file', hread', hfile', hmem⟩
  · refine ⟨text, file, hread, hfile, fun hinputs harises => ?_⟩
    obtain ⟨base, hbaseNamed, hbase⟩ := exists_pathOf_layoutRoot hnamed hout
    have hchanged : ChangedBelow (root ++ dir) tree after := by
      refine Project.changedBelow_compile wf hout hbase houtNamed hbaseNamed (fun path hpath => ?_)
        passes display
      obtain ⟨source, hsource, rfl⟩ := Project.exists_pathOf_of_mem_fileNames wf hroot hnamed hpath
      refine ⟨source, hsource, rfl, ?_⟩
      rintro rfl
      have hother := hinputs _ hpath
      rw [hbase] at hother
      simp [Path.same] at hother
    rw [Project.root_ofText hnamed] at harises
    have hreadAfter := readText_config_stable wf hnamed hne hchanged hread
    rw [Project.load_again habsolute hclean hchanged.workingDir hreadAfter]
    refine congrArg Except.ok (ofText_stable wf hroot hnamed houtNamed hne hreads hout hchanged ?_)
    intro file' hfile'
    obtain rfl : file = file' := Except.ok.inj (hfile.symm.trans hfile')
    exact harises

/-- The text of a project file that names a source in the output directory and takes in all
others. -/
def distText : String :=
  "\x7b\"compilerOptions\": \x7b\"outDir\": \"dist\", \"declaration\": true\x7d, " ++
    "\"files\": [\"dist/b.ts\"], \"include\": [\"**/*\"]\x7d"

/-- A tree with that project file, a source, and another one in the output directory. -/
def distTree : FileTree where
  entries := [(["p"], .dir), (["p", "tsconfig.json"], .file distText.toUTF8),
    (["p", "a.ts"], .file "export const x: number = 1;\n".toUTF8), (["p", "dist"], .dir),
    (["p", "dist", "b.ts"], .file "".toUTF8)]
  workingDir := ["p"]

/-- What that text says. -/
def distFile : ProjectFile where
  options := { outDir := some ⟨"dist"⟩, declaration := true }
  files := some ["dist/b.ts"]
  «include» := some ["**/*"]

/-- The project of that tree. -/
def distProject : Project where
  configPath := ⟨"/p/tsconfig.json"⟩
  root := ⟨"/p"⟩
  options := { outDir := some ⟨"/p/dist"⟩, declaration := true }
  fileNames := [⟨"/p/a.ts"⟩, ⟨"/p/dist/b.ts"⟩]
  errors := []

theorem ofText_distText : ProjectFile.ofText distText = .ok distFile :=
  eq_ok_of_toOption (by decide +kernel)

theorem readText_dist : distTree.readText ⟨"/p/tsconfig.json"⟩ = .ok distText :=
  eq_ok_of_toOption (by decide +kernel)

theorem load_dist : Project.load distTree ⟨"tsconfig.json"⟩ = .ok distProject := by
  have hfound : distFile.found distTree ⟨"/p"⟩ distProject.options = .ok [⟨"/p/a.ts"⟩] :=
    eq_ok_of_toOption (by decide +kernel)
  have hperm : (distFile.named ⟨"/p"⟩ ++ [Path.mk "/p/a.ts"]).Perm distProject.fileNames := by
    decide +kernel
  exact load_inP_of_found rfl readText_dist ofText_distText hfound hperm (by decide +kernel)

/-- The source outside is compiled into the directory, where the other one stays the only input. -/
theorem outputs_not_collected_dist :
    let after := (distProject.compile distTree [] (.ofStyle ⟨false, none⟩)).2.1
    after.isFile ⟨"/p/dist/a.d.ts"⟩ = true ∧
    Project.load after ⟨"tsconfig.json"⟩ = .ok distProject ∧
    ∃ text file, after.readText ⟨"/p/tsconfig.json"⟩ = .ok text ∧
      ProjectFile.ofText text = .ok file ∧ ⟨"/p/dist/b.ts"⟩ ∈ file.named ⟨"/p"⟩ := by
  intro after
  have hafter : (after.isFile ⟨"/p/dist/a.d.ts"⟩, after.isDir ⟨"/p/**/*"⟩) = (true, false) := by
    decide +kernel
  obtain ⟨hwritten, hnew⟩ := Prod.mk.inj hafter
  have wf : distTree.WellFormed := by decide +kernel
  have hbelow : Path.below? ⟨"/p/dist"⟩ distProject.root = some ⟨"dist"⟩ := by decide +kernel
  have hreads : ReadsAsItself ⟨"dist"⟩ := by decide +kernel
  obtain ⟨hnamed, text, file, hread, hfile, hsame⟩ :=
    outputs_not_collected wf load_dist rfl hbelow (by decide) hreads [] (.ofStyle ⟨false, none⟩)
  obtain rfl : distText = text := Except.ok.inj (readText_dist.symm.trans hread)
  obtain rfl : distFile = file := Except.ok.inj (ofText_distText.symm.trans hfile)
  have hreload : Project.load after ⟨"tsconfig.json"⟩ = .ok distProject := by
    refine hsame (by decide +kernel) fun entry hentry hdir => ?_
    -- the only entry does not name a directory
    obtain rfl : entry = "**/*" := by simpa [distFile, ProjectFile.includes] using hentry
    have hpath : entryPath distProject.root "**/*" = ⟨"/p/**/*"⟩ := by decide +kernel
    rw [hpath, hnew] at hdir
    exact absurd hdir Bool.false_ne_true
  exact ⟨hwritten, hreload, hnamed distProject hreload rfl _ (by decide) (by decide +kernel)⟩

/-- The text of a project file with brackets in the name of its output directory. -/
def bracketedText : String :=
  "\x7b\"compilerOptions\": \x7b\"outDir\": \"out[1]\", \"declaration\": true\x7d\x7d"

/-- A tree with that project file and a source. -/
def bracketedTree : FileTree where
  entries := [(["p"], .dir), (["p", "tsconfig.json"], .file bracketedText.toUTF8),
    (["p", "a.ts"], .file "export const x: number = 1;\n".toUTF8)]
  workingDir := ["p"]

/-- The project of that tree. -/
def bracketedProject : Project where
  configPath := ⟨"/p/tsconfig.json"⟩
  root := ⟨"/p"⟩
  options := { outDir := some ⟨"/p/out[1]"⟩, declaration := true }
  fileNames := [⟨"/p/a.ts"⟩]
  errors := []

/-- What that text says. -/
def bracketedFile : ProjectFile where
  options := { outDir := some ⟨"out[1]"⟩, declaration := true }

/-- The project of that file, from what is found. -/
theorem load_bracketed {found files : List Path} (hdir : tree.workingDir = ["p"])
    (hread : tree.readText ⟨"/p/tsconfig.json"⟩ = .ok bracketedText)
    (hfound : bracketedFile.found tree ⟨"/p"⟩ bracketedProject.options = .ok found)
    (hperm : found.Perm files) (hsorted : files.Pairwise fun p q => p.cmp q = .lt)
    (hne : files ≠ []) :
    Project.load tree ⟨"tsconfig.json"⟩ = .ok { bracketedProject with fileNames := files } := by
  have hfile : ProjectFile.ofText bracketedText = .ok bracketedFile :=
    eq_ok_of_toOption (by decide +kernel)
  have hfiles : files.isEmpty = false := by simpa using hne
  have hload := load_inP_of_found hdir hread hfile hfound hperm hsorted
  rw [hfiles] at hload
  exact hload

/-- The declarations that a compilation writes to `out[1]`, strictly inside of the root, are an
input when the project is read again, though its file names no input. -/
theorem bracketed_outputs_collected :
    let after := (bracketedProject.compile bracketedTree [] (.ofStyle ⟨false, none⟩)).2.1
    Project.load bracketedTree ⟨"tsconfig.json"⟩ = .ok bracketedProject ∧
    Path.below? ⟨"/p/out[1]"⟩ bracketedProject.root = some ⟨"out[1]"⟩ ∧
    bracketedProject.options.outDir = some ⟨"/p/out[1]"⟩ ∧
    ProjectFile.ofText bracketedText = .ok bracketedFile ∧ bracketedFile.files = none ∧
    Project.load after ⟨"tsconfig.json"⟩ =
      .ok { bracketedProject with fileNames := [⟨"/p/a.ts"⟩, ⟨"/p/out[1]/a.d.ts"⟩] } := by
  intro after
  have hafter : (after.workingDir, (after.readText ⟨"/p/tsconfig.json"⟩).toOption,
      (bracketedFile.found after ⟨"/p"⟩ bracketedProject.options).toOption) =
      (["p"], some bracketedText, some [⟨"/p/a.ts"⟩, ⟨"/p/out[1]/a.d.ts"⟩]) := by
    decide +kernel
  obtain ⟨hdir, hrest⟩ := Prod.mk.inj hafter
  obtain ⟨hread, hfound⟩ := Prod.mk.inj hrest
  have hbefore : bracketedFile.found bracketedTree ⟨"/p"⟩ bracketedProject.options =
      .ok [⟨"/p/a.ts"⟩] :=
    eq_ok_of_toOption (by decide +kernel)
  refine ⟨?_, by decide +kernel, rfl, eq_ok_of_toOption (by decide +kernel), rfl, ?_⟩
  · exact load_bracketed rfl (eq_ok_of_toOption (by decide +kernel)) hbefore (.refl _)
      (by decide +kernel) (by decide)
  · exact load_bracketed hdir (eq_ok_of_toOption hread) (eq_ok_of_toOption hfound) (.refl _)
      (by decide +kernel) (by decide)

end QuietEmit
