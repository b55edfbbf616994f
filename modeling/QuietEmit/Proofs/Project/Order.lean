/-
  QuietEmit.Proofs.Project.Order

  Inputs without an order. What a project lists is told by which entries its file has and
  by which files and directories there are (`mem_inputs_iff`), and it is listed in the
  order of paths. So neither the order in which a tree is walked nor the order and the
  repetition of entries can change the inputs (`inputs_congr`), and an entry that leaves
  out decides against all entries that take in.
-/
import QuietEmit.Proofs.Project.Loading
import QuietEmit.Proofs.Project.Selection

namespace QuietEmit

open FileTree (Named pathOf)

variable {tree after : FileTree}

/-! ## Trees of one shape -/

/-- Two trees have the same files and directories, listed in any order; the files can hold
different bytes. -/
structure SameShape (tree after : FileTree) : Prop where
  workingDir : after.workingDir = tree.workingDir
  dirs : ∀ loc, after.at? loc = some .dir ↔ tree.at? loc = some .dir
  files : ∀ loc, (∃ bytes, after.at? loc = some (.file bytes)) ↔
    ∃ bytes, tree.at? loc = some (.file bytes)

namespace SameShape

variable (h : SameShape tree after)

include h

/-- What stands at a location is of one kind in both trees. -/
theorem at?_cases (loc : Location) :
    (tree.at? loc = none ∧ after.at? loc = none) ∨
    (tree.at? loc = some .dir ∧ after.at? loc = some .dir) ∨
    ∃ a b, tree.at? loc = some (.file a) ∧ after.at? loc = some (.file b) := by
  have hdirs := h.dirs loc
  have hfiles := h.files loc
  cases hbefore : tree.at? loc with
  | none =>
      cases hafter : after.at? loc with
      | none => exact .inl ⟨rfl, rfl⟩
      | some e => cases e <;> simp_all
  | some e =>
      cases e with
      | dir => exact .inr (.inl ⟨rfl, hdirs.mpr hbefore⟩)
      | file a =>
          obtain ⟨b, hb⟩ := hfiles.mpr ⟨a, hbefore⟩
          exact .inr (.inr ⟨a, b, rfl, hb⟩)

theorem follow_eq (loc : Location) (parts : List (List Char)) :
    after.follow loc parts = tree.follow loc parts := by
  induction parts generalizing loc with
  | nil => rfl
  | cons part rest ih =>
      rw [FileTree.follow, FileTree.follow]
      obtain ⟨hbefore, hafter⟩ | ⟨hbefore, hafter⟩ | ⟨a, b, hbefore, hafter⟩ := h.at?_cases loc
      · rw [hbefore, hafter]
      · rw [hbefore, hafter]
        simp only [ih]
      · rw [hbefore, hafter]

/-- A path leads to a directory in both trees or in none. -/
theorem isDir_eq (p : Path) : after.isDir p = tree.isDir p := by
  have hlocate : after.locate p = tree.locate p := by
    rw [FileTree.locate, FileTree.locate, h.workingDir, h.follow_eq]
  rw [FileTree.isDir, FileTree.isDir, FileTree.lookup, FileTree.lookup, hlocate]
  cases tree.locate p with
  | error e => rfl
  | ok loc =>
      obtain ⟨hbefore, hafter⟩ | ⟨hbefore, hafter⟩ | ⟨a, b, hbefore, hafter⟩ := h.at?_cases loc <;>
        simp [bind, Except.bind, pure, Except.pure, throw, throwThe, MonadExceptOf.throw, hbefore,
          hafter]

theorem includeLine_eq (root : Path) (entry : String) :
    includeLine after root entry = includeLine tree root entry := by
  rw [QuietEmit.includeLine_eq, QuietEmit.includeLine_eq, h.isDir_eq]

end SameShape

/-- The locations of a tree in the order in which it lists them, and which of them are directories. -/
def outline (t : FileTree) : List (Location × Bool) :=
  t.entries.map fun e => (e.1, match e.2 with | .dir => true | .file _ => false)

theorem mem_outline_iff (wf : tree.WellFormed) {loc : Location} (hne : loc ≠ []) :
    ((loc, true) ∈ outline tree ↔ tree.at? loc = some .dir) ∧
    ((loc, false) ∈ outline tree ↔ ∃ bytes, tree.at? loc = some (.file bytes)) := by
  have hlisted : ∀ e, (loc, e) ∈ tree.entries ↔ tree.at? loc = some e := fun e =>
    ⟨wf.at?_of_mem hne, FileTree.mem_entries_of_at? hne⟩
  simp only [outline, List.mem_map, Prod.mk.injEq]
  constructor
  · rw [← hlisted]
    constructor
    · rintro ⟨⟨_, _ | bytes⟩, hmem, rfl, hkind⟩
      · exact hmem
      · cases hkind
    · exact fun hmem => ⟨_, hmem, rfl, rfl⟩
  · simp only [← hlisted]
    constructor
    · rintro ⟨⟨_, _ | bytes⟩, hmem, rfl, hkind⟩
      · cases hkind
      · exact ⟨bytes, hmem⟩
    · exact fun ⟨bytes, hmem⟩ => ⟨_, hmem, rfl, rfl⟩

/-- In whatever order trees list the same locations, they have one shape. -/
theorem SameShape.of_perm (wf : tree.WellFormed) (wf' : after.WellFormed)
    (hdir : after.workingDir = tree.workingDir) (hperm : (outline after).Perm (outline tree)) :
    SameShape tree after := by
  refine ⟨hdir, fun loc => ?_, fun loc => ?_⟩ <;> by_cases hne : loc = []
  · simp [hne]
  · rw [← (mem_outline_iff wf' hne).1, ← (mem_outline_iff wf hne).1, hperm.mem_iff]
  · simp [hne]
  · rw [← (mem_outline_iff wf' hne).2, ← (mem_outline_iff wf hne).2, hperm.mem_iff]

/-! ## The same entries -/

/-- Two lists have the same members, in any order and any number of times. -/
def SameMembers {α : Type} (a b : List α) : Prop := ∀ x, x ∈ a ↔ x ∈ b

/-- Two project files say the same, but for the order and the repetition of their entries. -/
structure SameEntries (file file' : ProjectFile) : Prop where
  options_eq : file'.options = file.options
  files : Option.Rel SameMembers file.files file'.files
  taking : Option.Rel SameMembers file.include file'.include
  leaving : Option.Rel SameMembers file.exclude file'.exclude

theorem sameMembers_getD {α : Type} {a b : Option (List α)} (h : Option.Rel SameMembers a b)
    (usual : List α) : SameMembers (a.getD usual) (b.getD usual) := by
  cases h with
  | none => exact fun x => Iff.rfl
  | some hab => exact hab

namespace SameEntries

variable {file file' : ProjectFile} (h : SameEntries file file')

include h

theorem includes : SameMembers file.includes file'.includes := by
  have hfiles := h.files
  have htaking := h.taking
  rw [ProjectFile.includes, ProjectFile.includes]
  generalize file.include = taken, file'.include = taken', file.files = files,
    file'.files = files' at hfiles htaking
  cases htaking with
  | some hsame => exact hsame
  | none => cases hfiles <;> exact fun x => Iff.rfl

theorem excludes (root : Path) (outDir : Option Path) :
    SameMembers (file.excludes root outDir) (file'.excludes root outDir) := by
  intro entry
  rw [ProjectFile.excludes, ProjectFile.excludes, List.mem_append, List.mem_append,
    sameMembers_getD h.leaving usualExcludes entry]

theorem named (root : Path) : SameMembers (file.named root) (file'.named root) := by
  intro path
  simp only [ProjectFile.named, List.mem_map, sameMembers_getD h.files [] _]

theorem takesIn_iff (hshape : SameShape tree after) (root : Path) (loc : Location)
    (isDir : Bool) : file.TakesIn tree root loc isDir ↔ file'.TakesIn after root loc isDir := by
  simp only [ProjectFile.TakesIn, h.includes _, hshape.includeLine_eq]

theorem leavesOut_iff (root : Path) (outDir : Option Path) (loc : Location) :
    file.LeavesOut root outDir loc ↔ file'.LeavesOut root outDir loc := by
  simp only [ProjectFile.LeavesOut, h.excludes root outDir _]

theorem collects_iff (hshape : SameShape tree after) (root : Path) (outDir : Option Path)
    (loc : Location) :
    file.Collects tree root outDir loc ↔ file'.Collects after root outDir loc := by
  have htakes := h.takesIn_iff hshape root
  have hleaves := h.leavesOut_iff root outDir loc
  constructor
  · rintro ⟨taken, kept, way⟩
    exact ⟨(htakes _ _).mp taken, mt hleaves.mpr kept,
      fun n hn hlt hhidden => (htakes _ _).mp (way n hn hlt hhidden)⟩
  · rintro ⟨taken, kept, way⟩
    exact ⟨(htakes _ _).mpr taken, mt hleaves.mp kept,
      fun n hn hlt hhidden => (htakes _ _).mpr (way n hn hlt hhidden)⟩

/-- The inputs can be listed with both files or with none. -/
theorem exists_inputs_iff (hshape : SameShape tree after) (root : Path)
    (options : CompilerOptions) :
    (∃ files, file.inputs tree root options = .ok files) ↔
      ∃ files, file'.inputs after root options = .ok files := by
  have hempty : file.includes = [] ↔ file'.includes = [] := by
    rw [List.eq_nil_iff_forall_not_mem, List.eq_nil_iff_forall_not_mem]
    simp only [h.includes _]
  rw [ProjectFile.exists_inputs_iff, ProjectFile.exists_inputs_iff, Ne, hempty]
  simp only [h.includes _, h.excludes root options.outDir _, hshape.includeLine_eq]

/-- The same inputs are listed with both files. -/
theorem inputs_congr (wf : tree.WellFormed) (wf' : after.WellFormed)
    (hshape : SameShape tree after) {root : Location} (hroot : Named root)
    (hdir : tree.at? root = some .dir) {options : CompilerOptions} {files : List Path}
    (hfiles : file.inputs tree (pathOf root) options = .ok files) :
    file'.inputs after (pathOf root) options = .ok files := by
  obtain ⟨files', hfiles'⟩ :=
    (h.exists_inputs_iff hshape (pathOf root) options).mp ⟨files, hfiles⟩
  have hdir' := (hshape.dirs root).mpr hdir
  have hmem : ∀ path, path ∈ files ↔ path ∈ files' := by
    intro path
    rw [mem_inputs_iff wf hroot hdir hfiles, mem_inputs_iff wf' hroot hdir' hfiles',
      h.named (pathOf root) path]
    simp only [hshape.files, h.collects_iff hshape]
  rw [hfiles', eq_of_pairwise_lt (ProjectFile.pairwise_lt_inputs hfiles)
    (ProjectFile.pairwise_lt_inputs hfiles') hmem]

end SameEntries

/-! ## Projects without an order -/

/-- The same path leads to project files at the same place. -/
theorem Project.configPath_eq (wf : tree.WellFormed) (wf' : after.WellFormed)
    (hdir : after.workingDir = tree.workingDir) {config : Path} {project again : Project}
    (h : load tree config = .ok project) (h' : load after config = .ok again) :
    again.configPath = project.configPath := by
  obtain ⟨root, name, text, p, -, -, habsolute, hclean, -, rfl⟩ := exists_of_load wf h
  obtain ⟨root', name', text', p', -, -, habsolute', hclean', -, rfl⟩ := exists_of_load wf' h'
  rw [absolute_congr hdir, habsolute] at habsolute'
  obtain rfl := Except.ok.inj habsolute'
  exact hclean'.symm.trans hclean

/-- Two trees of one shape, and two project files at the same place that say the same but for the
order and the repetition of their entries: the same inputs are listed, and where the patterns are
without fault the projects are the same. A file that an entry leaves out is an input only if it is
named, whatever the entries take in. -/
theorem load_without_order (wf : tree.WellFormed) (wf' : after.WellFormed)
    (hshape : SameShape tree after) {config : Path} {project again : Project}
    (h : Project.load tree config = .ok project) (h' : Project.load after config = .ok again)
    {root root' : Location} {file file' : ProjectFile}
    (hfile : Project.ReadFrom tree project root file)
    (hfile' : Project.ReadFrom after again root' file') (hsame : SameEntries file file') :
    again.fileNames = project.fileNames ∧
      ((∀ d ∈ project.errors, d.code ≠ Code.configuration) →
        again = project ∧
        ∀ loc, Named loc → file.LeavesOut project.root project.options.outDir loc →
          pathOf (root ++ loc) ∈ project.fileNames →
          pathOf (root ++ loc) ∈ file.named project.root) := by
  have hconfig := Project.configPath_eq wf wf' hshape.workingDir h h'
  -- both files stand in the same directory, so the options are the same too
  obtain ⟨_, -, hparent, -⟩ := hfile.exists_text wf h
  obtain ⟨_, -, hparent', -⟩ := hfile'.exists_text wf' h'
  rw [hconfig, hparent] at hparent'
  have hroot : again.root = project.root := by rw [hfile.root_eq, hfile'.root_eq, hparent']
  have hoptions : again.options = project.options := by
    rw [hfile.options_eq, hfile'.options_eq, hsame.options_eq, hroot]
  have hlisted := hsame.exists_inputs_iff hshape (pathOf root) project.options
  cases hinputs : file.inputs tree (pathOf root) project.options with
  | error e =>
      -- an entry is at fault in both files, though it need not be told of the same one
      obtain ⟨e', hinputs'⟩ : ∃ e', file'.inputs after (pathOf root') again.options = .error e' := by
        rw [← hparent', hoptions]
        cases hinputs' : file'.inputs after (pathOf root) project.options with
        | error e' => exact ⟨e', rfl⟩
        | ok files =>
            obtain ⟨files, hfiles⟩ := hlisted.mpr ⟨files, hinputs'⟩
            rw [hinputs] at hfiles
            cases hfiles
      obtain ⟨hnone, herrors⟩ := hfile.of_faulty wf h hinputs
      refine ⟨by rw [hnone, (hfile'.of_faulty wf' h' hinputs').1], fun hvalid => ?_⟩
      rw [herrors] at hvalid
      exact absurd rfl (hvalid _ List.mem_cons_self)
  | ok files =>
      have hproject := hfile.eq_of_inputs wf h hinputs
      have hagain : again = project := by
        have hinputs' := hsame.inputs_congr wf wf' hshape hfile.named hfile.dir hinputs
        rw [hparent', ← hoptions] at hinputs'
        rw [hfile'.eq_of_inputs wf' h' hinputs', hproject, hconfig, hroot, hoptions]
      refine ⟨by rw [hagain], fun _ => ⟨hagain, fun loc hloc hleft hmem => ?_⟩⟩
      have hfiles : project.fileNames = files := congrArg Project.fileNames hproject
      rw [hfiles] at hmem
      rw [hfile.root_eq] at hleft ⊢
      exact mem_named_of_leavesOut wf hfile.named hfile.dir hinputs hloc hleft hmem

/-- The text of a project file that takes in a directory and leaves out one in it. -/
def skippingText : String :=
  "\x7b\"files\": [\"lib/c.ts\"], \"include\": [\"src\", \"*.ts\"], " ++
    "\"exclude\": [\"src/skip\", \"gen\"]\x7d"

/-- The same entries in another order, with repetitions. -/
def skippingTextAgain : String :=
  "\x7b\"exclude\": [\"gen\", \"src/skip\", \"gen\"], \"include\": [\"*.ts\", \"src\", \"src\"], " ++
    "\"files\": [\"lib/c.ts\", \"lib/c.ts\"]\x7d"

/-- What the first text says. -/
def skippingFile : ProjectFile where
  files := some ["lib/c.ts"]
  «include» := some ["src", "*.ts"]
  exclude := some ["src/skip", "gen"]

/-- What the second text says. -/
def skippingFileAgain : ProjectFile where
  files := some ["lib/c.ts", "lib/c.ts"]
  «include» := some ["*.ts", "src", "src"]
  exclude := some ["gen", "src/skip", "gen"]

/-- A tree with the first project file. -/
def skippingTree : FileTree where
  entries := [(["p"], .dir), (["p", "tsconfig.json"], .file skippingText.toUTF8),
    (["p", "b.ts"], .file "".toUTF8), (["p", "src"], .dir), (["p", "src", "a.ts"], .file "".toUTF8),
    (["p", "src", "skip"], .dir), (["p", "src", "skip", "d.ts"], .file "".toUTF8)]
  workingDir := ["p"]

/-- The same locations in another order, with the second project file. -/
def skippingTreeAgain : FileTree where
  entries := [(["p", "src", "skip", "d.ts"], .file "".toUTF8), (["p", "src", "a.ts"], .file "".toUTF8),
    (["p", "src", "skip"], .dir), (["p", "src"], .dir), (["p", "b.ts"], .file "".toUTF8),
    (["p", "tsconfig.json"], .file skippingTextAgain.toUTF8), (["p"], .dir)]
  workingDir := ["p"]

/-- The project of both trees: one of the sources is left out, though an entry takes it in. -/
def skippingProject : Project where
  configPath := ⟨"/p/tsconfig.json"⟩
  root := ⟨"/p"⟩
  options := {}
  fileNames := [⟨"/p/b.ts"⟩, ⟨"/p/lib/c.ts"⟩, ⟨"/p/src/a.ts"⟩]
  errors := []

theorem load_without_order_skipping :
    Project.load skippingTree ⟨"tsconfig.json"⟩ = .ok skippingProject ∧
    Project.load skippingTreeAgain ⟨"tsconfig.json"⟩ = .ok skippingProject := by
  have hread : skippingTree.readText ⟨"/p/tsconfig.json"⟩ = .ok skippingText :=
    eq_ok_of_toOption (by decide +kernel)
  have hread' : skippingTreeAgain.readText ⟨"/p/tsconfig.json"⟩ = .ok skippingTextAgain :=
    eq_ok_of_toOption (by decide +kernel)
  have hparsed : ProjectFile.ofText skippingText = .ok skippingFile :=
    eq_ok_of_toOption (by decide +kernel)
  have hparsed' : ProjectFile.ofText skippingTextAgain = .ok skippingFileAgain :=
    eq_ok_of_toOption (by decide +kernel)
  have hfound : skippingFile.found skippingTree ⟨"/p"⟩ {} =
      .ok [⟨"/p/b.ts"⟩, ⟨"/p/src/a.ts"⟩] := eq_ok_of_toOption (by decide +kernel)
  have hperm : (skippingFile.named ⟨"/p"⟩ ++ [Path.mk "/p/b.ts", ⟨"/p/src/a.ts"⟩]).Perm
      skippingProject.fileNames := by decide +kernel
  have hload : Project.load skippingTree ⟨"tsconfig.json"⟩ = .ok skippingProject :=
    load_inP_of_found rfl hread hparsed hfound hperm (by decide +kernel)
  have hload' := load_inP rfl hread'
  have wf : skippingTree.WellFormed := by decide +kernel
  have wf' : skippingTreeAgain.WellFormed := by decide +kernel
  have hshape : SameShape skippingTree skippingTreeAgain :=
    .of_perm wf wf' rfl (by decide +kernel)
  have hparent : Path.parentOrEmpty ⟨"/p/tsconfig.json"⟩ = pathOf ["p"] := by decide +kernel
  have hnamed : Named ["p"] := by decide +kernel
  have hfile : Project.ReadFrom skippingTree skippingProject ["p"] skippingFile :=
    ⟨hnamed, rfl, by decide +kernel, rfl, _, hread, hparsed⟩
  have hfile' := Project.ReadFrom.of_ofText hnamed rfl hparent hread' hparsed'
  have hsame : SameEntries skippingFile skippingFileAgain := by
    refine ⟨rfl, .some ?_, .some ?_, .some ?_⟩ <;> intro s <;> simp [or_comm]
  obtain ⟨-, hproject⟩ := load_without_order wf wf' hshape hload hload' hfile hfile' hsame
  exact ⟨hload, hload'.trans (congrArg Except.ok (hproject (by decide)).1)⟩

end QuietEmit
