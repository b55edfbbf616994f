/-
  QuietEmit.Proofs.Watch.Filter

  What the filter of a project lets through. A path below the root is heard when
  it is in no ignored directory, no step to it is hidden or holds dependencies,
  and its name is one that is watched (`Filter.ignores_eq_false_iff`).

  The names of outputs are never watched, wherever they go, so what a program
  writes starts no cycle (`outputs_start_no_cycle`). Inputs are heard where these
  rules let them (`inputs_heard`). Plain sources are not, being no different from
  code that was written, nor are inputs behind a hidden step or among dependencies,
  inputs with `.d.` in their names, or inputs whose names are no texts
  (`inputs_unheard`).
-/
import QuietEmit.Proofs.Program.Overwriting
import QuietEmit.Proofs.Project.Inputs
import QuietEmit.Proofs.Watch.Live

namespace QuietEmit

/-! ## Watched names -/

/-- A part with text on both sides is found. -/
theorem Text.contains_append (before part after : List Char) :
    contains part (before ++ (part ++ after)) = true := by
  rw [contains]
  induction before with
  | nil =>
      rw [List.nil_append]
      cases htext : part ++ after with
      | nil => simp [splitOnce?, (List.append_eq_nil_iff.mp htext).1]
      | cons c cs =>
          have hbegins : part.isPrefixOf (c :: cs) = true := by
            rw [← htext]
            simp
          rw [splitOnce?, if_pos hbegins]
          rfl
  | cons c before ih =>
      rw [List.cons_append, splitOnce?]
      split
      · rfl
      · rw [Option.isSome_map]
        exact ih

namespace Watch.Filter

variable {path : Path} {name : String}

/-- The settings file has the extension of settings. -/
theorem extension_of_settings (hname : path.fileName = some settingsFileName) :
    path.extension = some "toml" := by
  rw [Path.extension, hname]
  decide +kernel

/-- A file with an extension that is not watched is watched as settings or not at all. -/
theorem watchesName_eq_false {e : String} (hname : path.fileName = some name)
    (hext : path.extension = some e) (hlive : e ∉ liveExtensions) (hsettings : e ≠ "toml") :
    watchesName path name = false := by
  have hne : name ≠ settingsFileName := by
    rintro rfl
    rw [extension_of_settings hname] at hext
    exact hsettings (Option.some.inj hext).symm
  simp [watchesName, hne, hext, hlive]

/-- Declarations are not watched. -/
theorem watchesName_of_isDeclarations (hname : path.fileName = some name)
    (h : isDeclarations path = true) : watchesName path name = false := by
  have hending : ∃ before ending, name.toList = before ++ (".d.".toList ++ ending) ∧
      ending.getLast? = some 's' := by
    rw [isDeclarations, hname] at h
    simp only [Option.any_some, List.any_cons, List.any_nil, Bool.or_false, Bool.or_eq_true,
      List.isPrefixOf_iff_prefix, List.reverse_prefix] at h
    rcases h with ⟨before, h⟩ | ⟨before, h⟩ | ⟨before, h⟩
    · exact ⟨before, "ts".toList, by rw [← h]; rfl, rfl⟩
    · exact ⟨before, "mts".toList, by rw [← h]; rfl, rfl⟩
    · exact ⟨before, "cts".toList, by rw [← h]; rfl, rfl⟩
  obtain ⟨before, ending, heq, hlast⟩ := hending
  have hne : name ≠ settingsFileName := by
    rintro rfl
    have hlast' : settingsFileName.toList.getLast? = some 's' := by
      rw [heq, List.getLast?_append, List.getLast?_append, hlast]
      rfl
    exact absurd hlast' (by decide)
  have hdotted : Text.contains ".d.".toList name.toList = true := by
    rw [heq]
    exact Text.contains_append before _ ending
  rw [watchesName, hdotted]
  simp [hne]

/-- The settings are watched, and names with a watched extension that have no `.d.` in them. -/
theorem watchesName_iff (path : OsPath) :
    watchesName path name = true ↔ name = settingsFileName ∨
      (Text.contains ".d.".toList name.toList = false ∧
        ∃ e ∈ liveExtensions, path.extension = some e) := by
  rw [watchesName]
  cases path.extension with
  | none => simp
  | some e => simp

/-! ## Paths let through -/

section Paths

variable {f : Filter} {path : OsPath} {steps : List Component}

/-- A path below the root is let through where nothing on the way to it is ignored and its name is
watched. -/
theorem ignores_eq_false_iff (h : path.components = f.root.components ++ steps) :
    f.ignores path = false ↔
      (∀ dir ∈ f.ignored, path.startsWith dir = false) ∧
      (∀ step ∈ steps, hides step = false) ∧
      ∃ name, path.fileName = some name ∧ watchesName path name = true := by
  obtain ⟨rest, hrest, rfl⟩ := OsPath.exists_below? h
  rw [ignores, hrest]
  cases path.fileName with
  | none => simp
  | some name => simp [and_assoc]

/-- A path with a name that is not watched is passed over wherever it is. -/
theorem ignores_of_unwatched (f : Filter)
    (h : ∀ name, path.fileName = some name → watchesName path name = false) :
    f.ignores path = true := by
  rw [ignores]
  split
  · rfl
  · cases hname : path.fileName with
    | none => simp
    | some name => simp [h name hname]

/-- Declarations are passed over wherever they are. -/
theorem ignores_of_isDeclarations (f : Filter) {path : Path} (h : isDeclarations path = true) :
    f.ignores path = true :=
  f.ignores_of_unwatched fun _ hname =>
    watchesName_of_isDeclarations ((OsPath.fileName_ofPath path).symm.trans hname) h

theorem plainExtensions_unwatched : ∀ e ∈ plainExtensions, e ∉ liveExtensions ∧ e ≠ "toml" := by
  decide

/-- Plain sources are passed over wherever they are. -/
theorem ignores_of_plain (f : Filter) {path : Path} {e : String}
    (hext : path.extension = some e) (he : e ∈ plainExtensions) : f.ignores path = true := by
  obtain ⟨hlive, hsettings⟩ := plainExtensions_unwatched e he
  exact f.ignores_of_unwatched fun _ hname =>
    watchesName_eq_false ((OsPath.fileName_ofPath path).symm.trans hname) hext hlive hsettings

end Paths

@[simp] theorem root_ofProject (project : Project) : (ofProject project).root = project.root := by
  rw [ofProject]
  split <;> rfl

theorem mem_ignored_ofProject {project : Project} {dir : OsPath} :
    dir ∈ (ofProject project).ignored ↔
      ∃ outDir : Path, project.options.outDir = some outDir ∧ outDir = dir := by
  rw [ofProject]
  split
  · next out hout => simp [ofRoot, ignoring, hout, eq_comm]
  · next hout => simp [ofRoot, hout]

/-- The filter of a project lets a path through that lies below the root and outside the output
directory, if no step to it hides it and its name is watched. -/
theorem ignores_ofProject_eq_false_iff {project : Project} {path : OsPath} {steps : List Component}
    (hbelow : path.components = (project.root : OsPath).components ++ steps)
    (houtside : ∀ dir : Path, project.options.outDir = some dir → path.startsWith dir = false) :
    (ofProject project).ignores path = false ↔
      (∀ step ∈ steps, hides step = false) ∧
      ∃ name, path.fileName = some name ∧ (name = settingsFileName ∨
        (Text.contains ".d.".toList name.toList = false ∧
          ∃ e ∈ liveExtensions, path.extension = some e)) := by
  have hignored : ∀ dir ∈ (ofProject project).ignored, path.startsWith dir = false := by
    intro dir hdir
    obtain ⟨outDir, hout, rfl⟩ := mem_ignored_ofProject.mp hdir
    exact houtside outDir hout
  have hnames : (∃ name, path.fileName = some name ∧ watchesName path name = true) ↔
      ∃ name, path.fileName = some name ∧ (name = settingsFileName ∨
        (Text.contains ".d.".toList name.toList = false ∧
          ∃ e ∈ liveExtensions, path.extension = some e)) :=
    exists_congr fun name => and_congr_right fun _ => watchesName_iff path
  rw [ignores_eq_false_iff (by rw [root_ofProject]; exact hbelow), hnames]
  exact and_iff_right hignored

/-! ## Outputs -/

theorem codeExtensions_plain : ∀ e ∈ codeExtensions, e ∈ plainExtensions := by decide

/-- Code and declarations are passed over wherever they go. -/
theorem ignores_output (f : Filter) (project : Project) {source path : Path}
    (h : path = project.codePath source ∨ path = project.declarationPath source) :
    f.ignores path = true := by
  cases hname : (project.layout source).fileName with
  | none =>
      -- the output goes to a place that has no name
      have hplace : path = project.layout source := by
        rcases h with rfl | rfl <;> exact project.destination_of_fileName_eq_none _ hname
      exact f.ignores_of_unwatched fun name h => by simp [hplace, hname] at h
  | some name =>
      have hsome : (project.layout source).fileName.isSome = true := by rw [hname]; rfl
      rcases h with rfl | rfl
      · obtain ⟨e, he, hext⟩ := project.extension_codePath hsome
        exact f.ignores_of_plain hext (codeExtensions_plain e he)
      · exact f.ignores_of_isDeclarations (project.isDeclarations_declarationPath hsome)

end Watch.Filter

namespace Watch

/-! ## Changes and cycles -/

/-- A notice of a path that is passed over leaves a watch as it is. -/
theorem Live.step_of_ignores {live : Live} {n : Notice} (h : live.filter.ignores n.path = true) :
    live.step (.noticed n) = live := by
  rw [Live.step, Listener.hear_of_ignores h]

/-- When no other change waits, the watch goes on waiting with the files after the change. -/
theorem Live.changed_of_ignores {live : Live} {n : Notice}
    (h : live.filter.ignores n.path = true) (hnone : live.pending = []) (tree : FileTree) :
    live.changed tree n = { live with tree } := by
  have hsame : Live.step { live with tree } (.noticed n) = { live with tree } :=
    Live.step_of_ignores h
  show (Live.step { live with tree } (.noticed n)).turn = _
  rw [hsame, Live.turn, if_pos (by simp [hnone])]

section Outputs

variable {σ : Type} [FileStore σ]

/-- The filter of a project passes over every file that its program writes, and also those that
could not be written. No watch, whatever project it started with, does anything when it is told of
one of them, and it runs no cycle for such a change. -/
theorem outputs_start_no_cycle (project : Project) (passes : List Pass) (reads store : σ) :
    let result := (Program.ofProject reads project).writeOutputs store passes
    let asked := (project.fileNames.flatMap (project.outputsAt passes reads)).map Output.path
    (∀ path ∈ result.files, (Filter.ofProject project).ignores path = true) ∧
    (∀ path ∈ asked, (Filter.ofProject project).ignores path = true) ∧
    ∀ path ∈ asked, ∀ (live : Live) (n : Notice), n.path = path →
      live.step (.noticed n) = live ∧
      (live.pending = [] → ∀ tree : FileTree, live.changed tree n = { live with tree }) := by
  intro result asked
  have hoverlooked : ∀ path ∈ asked, ∀ f : Filter, f.ignores path = true := by
    intro path hpath f
    obtain ⟨o, ho, rfl⟩ := List.mem_map.mp hpath
    obtain ⟨source, -, ho⟩ := List.mem_flatMap.mp ho
    exact f.ignores_output project (project.path_of_mem_outputsAt passes reads ho).1
  refine ⟨?_, fun path hpath => hoverlooked path hpath _, ?_⟩
  · intro path hpath
    exact hoverlooked path ((files_sublist project passes reads store).subset hpath) _
  · rintro path hpath live n hn
    have hignored : live.filter.ignores n.path = true := by
      rw [hn]
      exact hoverlooked path hpath live.filter
    exact ⟨Live.step_of_ignores hignored, fun hnone => Live.changed_of_ignores hignored hnone⟩

/-- A tree with inputs that have hidden and dotted names. -/
def oddlyNamedTree : FileTree where
  entries := [(["p"], .dir), (["p", ".b.mts"], .file "".toUTF8),
    (["p", "c.d.e.ts"], .file "".toUTF8), (["p", "hush.toml.cts"], .file "".toUTF8)]
  workingDir := []

/-- The project of those inputs. -/
def oddlyNamedProject : Project :=
  ⟨⟨"/p/tsconfig.json"⟩, ⟨"/p"⟩, { declaration := true },
    [⟨"/p/.b.mts"⟩, ⟨"/p/c.d.e.ts"⟩, ⟨"/p/hush.toml.cts"⟩], []⟩

theorem outputs_start_no_cycle_oddlyNamed :
    let files := ((Program.ofProject oddlyNamedTree oddlyNamedProject).writeOutputs
      oddlyNamedTree []).files
    files = [⟨"/p/.b.mjs"⟩, ⟨"/p/.b.d.mts"⟩, ⟨"/p/c.d.e.js"⟩, ⟨"/p/c.d.e.d.ts"⟩,
      ⟨"/p/hush.toml.cjs"⟩, ⟨"/p/hush.toml.d.cts"⟩] ∧
    (⟨"/p/hush.toml.d.cts"⟩ : Path) ∈ files ∧
    (Filter.ofProject oddlyNamedProject).ignores (.ofText "/p/hush.toml.d.cts") = true := by
  intro files
  have hfiles : files = [⟨"/p/.b.mjs"⟩, ⟨"/p/.b.d.mts"⟩, ⟨"/p/c.d.e.js"⟩, ⟨"/p/c.d.e.d.ts"⟩,
      ⟨"/p/hush.toml.cjs"⟩, ⟨"/p/hush.toml.d.cts"⟩] := by decide +kernel
  have hmem : (⟨"/p/hush.toml.d.cts"⟩ : Path) ∈ files := by simp [hfiles]
  exact ⟨hfiles, hmem,
    (outputs_start_no_cycle oddlyNamedProject [] oddlyNamedTree oddlyNamedTree).1 _ hmem⟩

end Outputs

/-! ## Inputs -/

theorem typedExtensions_watched : ∀ e ∈ typedExtensions, e ∈ liveExtensions := by decide

/-- An input that is not named has a watched extension, unless plain sources are allowed. -/
theorem exists_liveExtension_of_unnamed {tree : FileTree} {configPath input : Path} {text : String}
    (hinput : input ∈ (Project.ofText tree configPath text).fileNames)
    (hunnamed : ∀ file, ProjectFile.ofText text = .ok file →
      input ∉ file.named (Project.ofText tree configPath text).root)
    (hjs : (Project.ofText tree configPath text).options.allowJs = false) :
    ∃ e ∈ liveExtensions, input.extension = some e := by
  rcases Project.named_or_isSource hinput with ⟨file, hfile, hnamed⟩ | hsource
  · exact absurd hnamed (hunnamed file hfile)
  · rw [hjs, isSource] at hsource
    cases hext : input.extension with
    | none => simp [hext] at hsource
    | some e => exact ⟨e, typedExtensions_watched e (by simpa [hext] using hsource), rfl⟩

/-- A path below the root and outside the output directory is let through exactly when no step to it
is hidden or holds dependencies, and it is the settings file, or has a watched extension and no `.d.`
in its name. An input that is not named in the project file has a watched extension unless plain
sources are allowed. A watch that was started on the project does nothing when it is told of a path
that is not let through, or of the one that it was just told of. When it is told of a change of
another one, it reports nothing until the loop turns, and then one more cycle on the files that
there are, whatever happened before. -/
theorem inputs_heard (tree : FileTree) (configPath : Path) (text : String) {path : OsPath}
    {steps : List Component}
    (hbelow : path.components =
      ((Project.ofText tree configPath text).root : OsPath).components ++ steps)
    (houtside : ∀ dir : Path, (Project.ofText tree configPath text).options.outDir = some dir →
      path.startsWith dir = false) :
    let project := Project.ofText tree configPath text
    let heard := (∀ step ∈ steps, Filter.hides step = false) ∧
      ∃ name, path.fileName = some name ∧ (name = settingsFileName ∨
        (Text.contains ".d.".toList name.toList = false ∧
          ∃ e ∈ liveExtensions, path.extension = some e))
    ((Filter.ofProject project).ignores path = false ↔ heard) ∧
    (∀ input ∈ project.fileNames, path = input →
      (∀ file, ProjectFile.ofText text = .ok file → input ∉ file.named project.root) →
      project.options.allowJs = false → ∃ e ∈ liveExtensions, path.extension = some e) ∧
    ∀ (i : Invocation) (p : Prepared) (live : Live), p.project = project →
      Live.start i p = .ok live → ∀ (happenings : List Happening) (n : Notice), n.path = path →
        let before := live.after happenings
        (¬ heard ∨ before.repeats n = true → before.step (.noticed n) = before) ∧
        (n.change? = none → (before.step (.noticed n)).pending = before.pending) ∧
        (heard → before.repeats n = false → n.change?.isSome = true →
          ∀ later : List Happening, .turned ∉ later →
            let waiting := before.after (.noticed n :: later)
            waiting.session = before.session ∧
            waiting.turn.session.calls = before.session.calls ++
              [.start, .done ((watchedBy p).summary waiting.tree)]) := by
  intro project heard
  have hheard : (Filter.ofProject project).ignores path = false ↔ heard :=
    Filter.ignores_ofProject_eq_false_iff hbelow houtside
  refine ⟨hheard, ?_, ?_⟩
  · rintro input hinput rfl hunnamed hjs
    rw [OsPath.extension_ofPath]
    exact exists_liveExtension_of_unnamed hinput hunnamed hjs
  · rintro i p live hproject hstarted happenings n rfl before
    have hkept : Live.Kept p before := (Live.kept_start hstarted).after happenings
    have hfilter : before.filter = .ofProject project := by rw [hkept.filter, hproject]
    refine ⟨?_, ?_, ?_⟩
    · rintro (hunheard | hrepeats)
      · refine Live.step_of_ignores ?_
        rw [hfilter, ← Bool.not_eq_false]
        exact fun hignores => hunheard (hheard.mp hignores)
      · rw [Live.step, Listener.hear_of_repeats hrepeats]
    · intro hnone
      refine Listener.pending_hear_of_not_hears fun hhears => ?_
      have hsome := hhears.change
      rw [hnone] at hsome
      exact Bool.false_ne_true hsome
    · intro h hunrepeated hchange later hlater waiting
      have hhears : before.Hears n := ⟨by rw [hfilter]; exact hheard.mpr h, hunrepeated, hchange⟩
      obtain ⟨hsession, -, hcalls, -⟩ := hkept.after_of_hears hhears hlater
      exact ⟨hsession, hcalls⟩

/-- A tree with a typed source, and with sources that changes of are passed over: one without types,
one with a name like that of declarations, one behind a hidden step, one among the dependencies of a
part. -/
def mixedTree : FileTree where
  entries := [(["p"], .dir), (["p", "a.ts"], .file "".toUTF8), (["p", "b.js"], .file "".toUTF8),
    (["p", "c.d.e.ts"], .file "".toUTF8),
    (["p", ".cfg"], .dir), (["p", ".cfg", "c.ts"], .file "".toUTF8),
    (["p", "lib"], .dir), (["p", "lib", "node_modules"], .dir),
    (["p", "lib", "node_modules", "d.ts"], .file "".toUTF8)]
  workingDir := []

/-- The text of a project file that takes them all in. -/
def mixedText : String := "\x7b\"compilerOptions\": \x7b\"outDir\": \"dist\", \"allowJs\": true\x7d\x7d"

/-- The project of those sources. -/
def mixedProject : Project where
  configPath := ⟨"/p/tsconfig.json"⟩
  root := ⟨"/p"⟩
  options := { outDir := some ⟨"/p/dist"⟩, allowJs := true }
  fileNames := [⟨"/p/.cfg/c.ts"⟩, ⟨"/p/a.ts"⟩, ⟨"/p/b.js"⟩, ⟨"/p/c.d.e.ts"⟩,
    ⟨"/p/lib/node_modules/d.ts"⟩]
  errors := []

theorem ofText_mixed : Project.ofText mixedTree ⟨"/p/tsconfig.json"⟩ mixedText = mixedProject := by
  have hfile : ProjectFile.ofText mixedText =
      .ok { options := { outDir := some ⟨"dist"⟩, allowJs := true } } :=
    eq_ok_of_toOption (by decide +kernel)
  have hfound : ProjectFile.found { options := { outDir := some ⟨"dist"⟩, allowJs := true } }
      mixedTree ⟨"/p"⟩ mixedProject.options =
      .ok [⟨"/p/a.ts"⟩, ⟨"/p/b.js"⟩, ⟨"/p/c.d.e.ts"⟩, ⟨"/p/.cfg/c.ts"⟩,
        ⟨"/p/lib/node_modules/d.ts"⟩] :=
    eq_ok_of_toOption (by decide +kernel)
  have hinputs : ProjectFile.inputs { options := { outDir := some ⟨"dist"⟩, allowJs := true } }
      mixedTree ⟨"/p"⟩ mixedProject.options = .ok mixedProject.fileNames :=
    ProjectFile.inputs_of_perm hfound (by decide +kernel) (by decide +kernel)
  exact Project.ofText_of_inputs hfile hinputs (by decide)

/-- The text of the project file that a plain run reads. -/
def plainText : String := "\x7b\"files\": [\"a.ts\"]\x7d"

theorem ofText_plain :
    Project.ofText plainRun.tree ⟨"/p/tsconfig.json"⟩ plainText = plainProject := by
  decide +kernel

/-- The typed source among the mixed ones is let through. And a watch on one input that is told twice
that it was modified listens to the first notice only, and then reports one cycle. -/
theorem inputs_heard_mixed :
    ((⟨"/p/a.ts"⟩ : Path) ∈ mixedProject.fileNames ∧
      (Filter.ofProject mixedProject).ignores (.ofText "/p/a.ts") = false) ∧
    ∃ live, plainRun.watch = .ok live ∧
      let told := live.step (.noticed inputModified)
      told.step (.noticed inputModified) = told ∧ told.session = live.session ∧
      told.turn.session.calls.length = live.session.calls.length + 2 := by
  constructor
  · have hproject := ofText_mixed
    refine ⟨by decide, ?_⟩
    have hbelow : (OsPath.ofText "/p/a.ts").components =
        ((Project.ofText mixedTree ⟨"/p/tsconfig.json"⟩ mixedText).root : OsPath).components ++
          [.name "a.ts"] := by
      rw [hproject]
      decide +kernel
    have houtside : ∀ dir : Path,
        (Project.ofText mixedTree ⟨"/p/tsconfig.json"⟩ mixedText).options.outDir = some dir →
          (OsPath.ofText "/p/a.ts").startsWith dir = false := by
      rw [hproject]
      decide +kernel
    obtain ⟨hheard, -⟩ := inputs_heard mixedTree ⟨"/p/tsconfig.json"⟩ mixedText hbelow houtside
    rw [← hproject]
    exact hheard.mpr ⟨by decide +kernel, "a.ts", by decide +kernel, .inr (by decide +kernel)⟩
  · obtain ⟨p, live, hprepared, hstarted, -, hproject⟩ := exists_watch_plainRun
    have hlistener : live.toListener = .ofFilter (.ofProject plainProject) := by
      rw [Live.listener_start hstarted, hproject]
    have hbelow : inputModified.path.components =
        ((Project.ofText plainRun.tree ⟨"/p/tsconfig.json"⟩ plainText).root : OsPath).components ++
          [.name "a.ts"] := by
      rw [ofText_plain]
      decide +kernel
    have houtside : ∀ dir : Path,
        (Project.ofText plainRun.tree ⟨"/p/tsconfig.json"⟩ plainText).options.outDir = some dir →
          inputModified.path.startsWith dir = false := by
      rw [ofText_plain]
      decide +kernel
    obtain ⟨-, -, hwatched⟩ :=
      inputs_heard plainRun.tree ⟨"/p/tsconfig.json"⟩ plainText hbelow houtside
    have hfrom := hwatched plainRun p live (hproject.trans ofText_plain.symm) hstarted
    refine ⟨live, by rw [Invocation.watch, hprepared]; exact hstarted, ?_⟩
    intro told
    have hrepeated : told.repeats inputModified = true := by
      have htold : told.toListener = live.hear inputModified := rfl
      rw [htold, hlistener]
      decide +kernel
    have hunrepeated : live.repeats inputModified = false := by rw [hlistener]; rfl
    obtain ⟨hagain, -⟩ := hfrom [.noticed inputModified] inputModified rfl
    obtain ⟨-, -, hcycle⟩ := hfrom [] inputModified rfl
    obtain ⟨hquiet, hcalls⟩ := hcycle
      ⟨by decide +kernel, "a.ts", by decide +kernel, .inr (by decide +kernel)⟩ hunrepeated rfl []
      List.not_mem_nil
    refine ⟨hagain (.inr hrepeated), hquiet, ?_⟩
    exact (congrArg List.length hcalls).trans List.length_append

/-- Of the inputs below the root and outside the output directory, none of which are declarations, one
is let through. No input would be whose name is no text. -/
theorem inputs_unheard :
    let project := Project.ofText mixedTree ⟨"/p/tsconfig.json"⟩ mixedText
    let heard : Path → Bool := fun path => !(Filter.ofProject project).ignores path
    project.fileNames.map isDeclarations = [false, false, false, false, false] ∧
    project.fileNames.map (·.startsWith project.root) = [true, true, true, true, true] ∧
    project.fileNames.map (·.startsWith ⟨"/p/dist"⟩) = [false, false, false, false, false] ∧
    project.options.outDir = some ⟨"/p/dist"⟩ ∧
    project.fileNames.map heard = [false, true, false, false, false] ∧
    (Filter.ofProject project).ignores ⟨"/p/".toUTF8.toList ++ 0xFF :: ".ts".toUTF8.toList⟩ =
      true := by
  rw [ofText_mixed]
  decide +kernel

end Watch

end QuietEmit
