/-
  QuietEmit.Proofs.Settings.File

  Which settings file is merged. The search comes before the layers are laid on top of
  each other and asks the command line alone for the project file (`file?_eq`). The
  project that settings end up with is the one of the highest source that sets it
  (`project_eq`), so the file belongs to that project where the command line names it or
  nothing does (`settings_file_beside_named_project`).

  A project that a variable of the environment names is compiled with the settings file
  of the directory of another one (`settings_file_apart_from_project`).
-/
import QuietEmit.Proofs.Settings.Loading

namespace QuietEmit

open CommandLine (Arguments)

/-! ## One key of a layer -/

namespace Setting

/-- What a layer has under a key. -/
def valueAt? (key : String) : Setting → Option Setting
  | .table _ entries => entries.lookup key
  | _ => none

/-- Of layers on top of each other, what both have under a key is laid on top of each other. -/
theorem valueAt?_laidOn {o : Origin} {entries : List (String × Setting)} (h : Ordered entries)
    (below : Setting) (key : String) :
    ((Setting.table o entries).laidOn below).valueAt? key =
      Option.merge laidOn ((Setting.table o entries).valueAt? key) (below.valueAt? key) := by
  cases below with
  | table o' lower =>
      rw [laidOn]
      exact lookup_layEntries h lower key
  -- what is no table has nothing under a key
  | plain o' p => simp [laidOn, valueAt?]
  | list o' items => simp [laidOn, valueAt?]

/-- On top of nothing a layer has what it has. -/
theorem valueAt?_laidOn_empty {v : Setting} (h : v.Keyed) (o : Origin) (key : String) :
    (v.laidOn (.table o [])).valueAt? key = v.valueAt? key := by
  cases h with
  | plain o' p => rw [laidOn.eq_def]
  | list h => rw [laidOn.eq_def]
  | @table o' entries hordered hentries =>
      rw [valueAt?_laidOn hordered]
      exact Option.merge_none_right

end Setting

namespace Settings

variable {tree : FileTree} {cwd : Path} {environment : List (String × String)} {a : Arguments}
  {s : Settings}

/-! ## The project of merged layers -/

theorem valueAt?_argumentLayer (a : Arguments) :
    (argumentLayer a).valueAt? "project" = a.project.map fun p => .plain .arguments (.text p) := by
  obtain ⟨project, compiler, watch, verbose, quiet, noColor, strays⟩ := a
  cases project <;> cases compiler <;> cases watch <;> rfl

/-- A layer that is read has the project that is under its key, or leaves the initial one. -/
theorem project_of_decode {o : Origin} {entries : List (String × Setting)}
    (hkeyed : (Setting.table o entries).Keyed) (h : decode (.table o entries) = .ok s) :
    (∀ v, entries.lookup "project" = some v → v.text?.map Path.mk = some s.project) ∧
      (entries.lookup "project" = none → s.project = initial.project) := by
  -- a table is read entry by entry, over the initial settings
  have hread : layout.entries entries initial = .ok s := by
    rw [decode, Decoder.Shape.read_table_eq_ok_iff (by simp [layout])] at h
    exact h
  exact Decoder.Shape.get_of_entries sets_project (by decide) hkeyed.ordered hread

/-- The layers of all sources are a table, as that of the command line is. -/
theorem exists_merged_eq (file : Setting) (environment : List (String × String)) (a : Arguments) :
    ∃ o entries, merged [file, Environment.layer environment, argumentLayer a] =
      .table o entries := by
  obtain ⟨given, hgiven⟩ : ∃ given, argumentLayer a = .table .arguments given := ⟨_, rfl⟩
  show ∃ o entries, (argumentLayer a).laidOn _ = .table o entries
  rw [hgiven, Setting.laidOn.eq_def]
  split
  · exact ⟨_, _, rfl⟩
  · exact ⟨_, _, rfl⟩

/-- What the layers of all sources have under the key of the project file: what the command line
gives, else what is below. -/
theorem valueAt?_merged (environment : List (String × String)) (a : Arguments) {file : Setting}
    (hfile : file.Keyed) :
    (merged [file, Environment.layer environment, argumentLayer a]).valueAt? "project" =
      (a.project.map fun p => Setting.plain .arguments (.text p)).or
        (Option.merge Setting.laidOn ((Environment.layer environment).valueAt? "project")
          (file.valueAt? "project")) := by
  obtain ⟨given, hgiven⟩ : ∃ given, argumentLayer a = .table .arguments given := ⟨_, rfl⟩
  obtain ⟨set, hset⟩ := Environment.exists_layer_eq environment
  have harguments := keyed_argumentLayer a
  have hlayer := Environment.keyed_layer environment
  have hentry := valueAt?_argumentLayer a
  -- the command line is on top, and the settings file is laid on nothing
  show ((argumentLayer a).laidOn ((Environment.layer environment).laidOn
    (file.laidOn (.table .initial [])))).valueAt? "project" = _
  rw [hgiven] at harguments hentry ⊢
  rw [hset] at hlayer ⊢
  rw [Setting.valueAt?_laidOn harguments.ordered, Setting.valueAt?_laidOn hlayer.ordered,
    Setting.valueAt?_laidOn_empty hfile, hentry]
  cases a.project with
  | none => rw [Option.map_none, Option.none_or, Option.merge_none_left]
  | some p =>
      -- a text takes the place of whatever is below
      rw [Option.map_some, Option.some_or]
      cases Option.merge Setting.laidOn ((Setting.table .environment set).valueAt? "project")
          (file.valueAt? "project") with
      | none => rfl
      | some w => rw [Option.merge_some_some, Setting.laidOn.eq_def]

theorem project_rootedAt (s : Settings) (cwd : Path) :
    (s.rootedAt cwd).project = cwd.join s.project := by
  rw [rootedAt]
  split
  · next habsolute => rw [Path.join, if_pos habsolute]
  · rfl

/-- The path of the project file, as the command line names it. -/
def namedProject (a : Arguments) : Path := ⟨a.project.getD initial.project.text⟩

/-- Neither a variable of the environment nor the settings file names a project file. -/
def ProjectUnset (tree : FileTree) (cwd : Path) (environment : List (String × String))
    (a : Arguments) : Prop :=
  (Environment.layer environment).valueAt? "project" = none ∧
    ∀ file, fileSource tree cwd a = .ok file → file.valueAt? "project" = none

/-- The command line names the project file if it gives one, and also where no source does. -/
theorem project_eq (h : gather tree cwd environment a = .ok s)
    (hnamed : a.project.isSome = true ∨ ProjectUnset tree cwd environment a) :
    s.project = cwd.join (namedProject a) := by
  obtain ⟨file, decoded, hfile, hdecode, rfl⟩ := gather_eq_ok_iff.mp h
  have hkeyed : (merged [file, Environment.layer environment, argumentLayer a]).Keyed :=
    (keyed_argumentLayer a).laidOn ((Environment.keyed_layer environment).laidOn
      ((keyed_fileSource hfile).laidOn (Setting.keyed_empty _)))
  have hentry := valueAt?_merged environment a (keyed_fileSource hfile)
  obtain ⟨o, entries, hmerged⟩ := exists_merged_eq file environment a
  rw [hmerged] at hkeyed hdecode hentry
  obtain ⟨hset, hunset⟩ := project_of_decode hkeyed hdecode
  have hvalue : decoded.project = namedProject a := by
    rw [namedProject]
    cases hproject : a.project with
    | some p =>
        rw [hproject] at hentry
        have htext := hset _ hentry
        exact (Option.some.inj htext).symm
    | none =>
        -- no layer has the key, so the initial project file is left
        obtain ⟨hvariables, hinFile⟩ := hnamed.resolve_left (by simp [hproject])
        rw [hproject, hvariables, hinFile file hfile] at hentry
        exact hunset hentry
  rw [project_rootedAt, hvalue]

/-! ## The file that is merged -/

/-- The settings file of a project file: the one beside it, else the one in the working directory,
if there is one. -/
def fileFor (tree : FileTree) (cwd project : Path) : Option Path :=
  let beside := (project.parent.getD cwd).join fileName
  if tree.isFile beside then some beside
  else if tree.isFile (cwd.join fileName) then some (cwd.join fileName)
  else none

/-- The settings file that is found is that of the project file that the command line names. -/
theorem file?_eq (tree : FileTree) (cwd : Path) (a : Arguments) :
    file? tree cwd a = fileFor tree cwd (cwd.join (namedProject a)) := by
  rw [file?, fileCandidates, fileFor, namedProject]
  simp only [List.find?_cons, List.find?_nil]
  split
  · next hbeside => rw [if_pos hbeside]
  · next hbeside =>
      rw [if_neg (by simp [hbeside])]
      split
      · next hcwd => rw [if_pos hcwd]
      · next hcwd => rw [if_neg (by simp [hcwd])]

/-- The layer of a settings file, and that of none. -/
def layerOf (tree : FileTree) : Option Path → Except SettingsError Setting
  | some file => fileLayer tree file
  | none => .ok (.table .initial [])

/-- The settings that are gathered with a settings file, or with none. -/
def gatherWith (tree : FileTree) (cwd : Path) (environment : List (String × String))
    (a : Arguments) (file : Option Path) : Except SettingsError Settings :=
  (layerOf tree file).bind fun layer =>
    ((decode (merged [layer, Environment.layer environment, argumentLayer a])).mapError
      fun f => .unloadable f.message).map (·.rootedAt cwd)

theorem gatherWith_eq_ok_iff {file : Option Path} :
    gatherWith tree cwd environment a file = .ok s ↔
      ∃ layer decoded, layerOf tree file = .ok layer ∧
        decode (merged [layer, Environment.layer environment, argumentLayer a]) = .ok decoded ∧
        s = decoded.rootedAt cwd := by
  have hmap : ∀ {x : Except SettingsError Settings},
      x.map (·.rootedAt cwd) = .ok s ↔ ∃ decoded, x = .ok decoded ∧ s = decoded.rootedAt cwd := by
    intro x
    cases x with
    | error e => simp [Except.map]
    | ok decoded => simp [Except.map, eq_comm]
  change bind (layerOf tree file) _ = _ ↔ _
  simp only [bind_eq_ok_iff, hmap, mapError_eq_ok_iff, exists_and_left]

/-- Settings are gathered with the file that is found. -/
theorem gather_eq_ok_iff_gatherWith :
    gather tree cwd environment a = .ok s ↔
      gatherWith tree cwd environment a (file? tree cwd a) = .ok s := by
  have hsource : fileSource tree cwd a = layerOf tree (file? tree cwd a) := by
    unfold fileSource layerOf
    cases file? tree cwd a with
    | none => simp only
    | some file => simp only
  rw [gather_eq_ok_iff, hsource]
  exact gatherWith_eq_ok_iff.symm

/-- Project files in one directory have one settings file. -/
theorem fileFor_congr {p q : Path} (h : p.parent = q.parent) :
    fileFor tree cwd p = fileFor tree cwd q := by
  rw [fileFor, fileFor, h]

/-- Settings are gathered with one file: that of the project file that the command line names or,
without that, of the initial one. It is the settings file of the project that they end up with where
the command line names that one, where no source names one, and where both are in one directory. -/
theorem settings_file_beside_named_project (h : load tree cwd environment a = .ok s) :
    gatherWith tree cwd environment a (file? tree cwd a) = .ok s ∧
    file? tree cwd a = fileFor tree cwd (cwd.join (namedProject a)) ∧
    (a.project.isSome = true ∨ ProjectUnset tree cwd environment a ∨
        s.project.parent = (cwd.join (namedProject a)).parent →
      file? tree cwd a = fileFor tree cwd s.project) := by
  obtain ⟨hgather, -⟩ := load_eq_ok_iff.mp h
  refine ⟨gather_eq_ok_iff_gatherWith.mp hgather, file?_eq tree cwd a, fun hplace => ?_⟩
  -- the file is one of the directory of the project, whatever its name there
  have hparent : s.project.parent = (cwd.join (namedProject a)).parent := by
    rcases hplace with hgiven | hunset | hsame
    · rw [project_eq hgather (.inl hgiven)]
    · rw [project_eq hgather (.inr hunset)]
    · exact hsame
  rw [file?_eq, fileFor_congr hparent]

/-- A tree with a settings file beside a project file in the directory `/p/app`. -/
def appTree : FileTree where
  workingDir := ["p"]
  entries := [(["p"], .dir), (["p", "app"], .dir),
    (["p", "app", "tsconfig.json"], .file "{}".toUTF8),
    (["p", "app", "hush.toml"], .file "[rewrite]\nproject = \"@app\"\n".toUTF8)]

/-- The settings for that project file, with the prefix that its settings file sets or without. -/
def appSettings (prefixText : Option String) : Settings :=
  ⟨⟨"/p/app/tsconfig.json"⟩, "oxc", false, ⟨none, prefixText, []⟩⟩

/-- The command line names the project file, and the file beside it is merged. -/
theorem settings_file_beside_named_project_app :
    let a : Arguments := { project := some "app/tsconfig.json" }
    file? appTree ⟨"/p"⟩ a = some ⟨"/p/app/hush.toml"⟩ ∧
    gatherWith appTree ⟨"/p"⟩ [] a (some ⟨"/p/app/hush.toml"⟩) = .ok (appSettings (some "@app")) := by
  intro a
  have hbeside : fileFor appTree ⟨"/p"⟩ ⟨"/p/app/tsconfig.json"⟩ = some ⟨"/p/app/hush.toml"⟩ := by
    decide +kernel
  have hload : load appTree ⟨"/p"⟩ [] a = .ok (appSettings (some "@app")) :=
    eq_ok_of_toOption (by decide +kernel)
  obtain ⟨hgather, -, hfile⟩ := settings_file_beside_named_project hload
  have hfound := (hfile (.inl rfl)).trans hbeside
  rw [hfound] at hgather
  exact ⟨hfound, hgather⟩

/-- A variable names the project file: its settings are loaded with no settings file, although one
is beside it, with which they would be others. -/
theorem settings_file_apart_from_project :
    let environment := [("HUSH_PROJECT", "app/tsconfig.json")]
    load appTree ⟨"/p"⟩ environment {} = .ok (appSettings none) ∧
    file? appTree ⟨"/p"⟩ {} = none ∧
    fileFor appTree ⟨"/p"⟩ (appSettings none).project = some ⟨"/p/app/hush.toml"⟩ ∧
    gatherWith appTree ⟨"/p"⟩ environment {} (some ⟨"/p/app/hush.toml"⟩) =
      .ok (appSettings (some "@app")) ∧
    appSettings (some "@app") ≠ appSettings none := by
  intro environment
  refine ⟨eq_ok_of_toOption (by decide +kernel), by decide +kernel, by decide +kernel,
    eq_ok_of_toOption (by decide +kernel), by decide⟩

end Settings

end QuietEmit
