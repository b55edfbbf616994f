/-
  QuietEmit.Proofs.Settings.Loading

  Loading settings from their sources. The layers are those of the file, of each
  variable of the environment in turn, and of the command line, each laid over the
  ones before it (`gather_eq_ok_iff`). So a field has the value of the highest source
  that sets it, in the order of command line, environment, file and initial values,
  and it does not matter what the sources set elsewhere
  (`load_eq_ok_iff_highest`).
-/
import Mathlib.Data.List.Induction
import QuietEmit.Proofs.Path.Join
import QuietEmit.Proofs.Project.Collection
import QuietEmit.Proofs.Settings.Decoding
import QuietEmit.Proofs.Settings.Environment
import QuietEmit.Settings.Sources

namespace QuietEmit

open CommandLine (Arguments)

/-! ## The command line -/

/-- What the command line sets. A flag that is not given sets nothing. -/
def Given.ofArguments (a : Arguments) : Given where
  project := a.project
  compiler := a.compiler
  watch := if a.watch then some true else none

namespace Settings

/-- The command line gives each key once. -/
theorem keyed_argumentLayer (a : Arguments) : (argumentLayer a).Keyed := by
  rw [argumentLayer]
  refine Setting.keyed_ofEntries _ fun e he => ?_
  have hplain : ∃ p, e.2 = .plain .arguments p := by
    simp only [List.mem_append, Option.mem_toList, Option.map_eq_some_iff] at he
    rcases he with (⟨p, -, rfl⟩ | ⟨c, -, rfl⟩) | he
    · exact ⟨_, rfl⟩
    · exact ⟨_, rfl⟩
    · split at he
      · rw [List.mem_singleton.mp he]
        exact ⟨_, rfl⟩
      · cases he
  obtain ⟨p, hp⟩ := hplain
  rw [hp]
  exact .plain ..

theorem gives_argumentLayer (a : Arguments) : (argumentLayer a).Gives (.ofArguments a) := by
  obtain ⟨project, compiler, watch, verbose, quiet, noColor, strays⟩ := a
  cases project <;> cases compiler <;> cases watch <;> exact ⟨rfl, rfl, rfl, rfl, rfl, rfl⟩

/-- The command line sets nothing that redirects. -/
theorem unknownKeys_argumentLayer (a : Arguments) : (argumentLayer a).unknownKeys = [] := by
  obtain ⟨project, compiler, watch, verbose, quiet, noColor, strays⟩ := a
  cases project <;> cases compiler <;> cases watch <;> rfl

/-! ## The file -/

/-- The layer of the settings file; where there is none, it sets nothing. -/
def fileSource (tree : FileTree) (cwd : Path) (a : Arguments) : Except SettingsError Setting :=
  match file? tree cwd a with
  | some file => fileLayer tree file
  | none => .ok (.table .initial [])

theorem keyed_fileLayer {tree : FileTree} {path : Path} {file : Setting}
    (h : fileLayer tree path = .ok file) : file.Keyed := by
  unfold fileLayer at h
  cases hread : tree.readText path with
  | error e => simp only [hread, reduceCtorEq] at h
  | ok text =>
      cases hvalue : Toml.Value.ofText text with
      | error fault => simp only [hread, hvalue, reduceCtorEq] at h
      | ok value =>
          simp only [hread, hvalue, Except.ok.injEq] at h
          rw [← h]
          exact Setting.keyed_ofToml ..

theorem keyed_fileSource {tree : FileTree} {cwd : Path} {a : Arguments} {file : Setting}
    (h : fileSource tree cwd a = .ok file) : file.Keyed := by
  unfold fileSource at h
  cases hfile : file? tree cwd a with
  | none =>
      simp only [hfile, Except.ok.injEq] at h
      rw [← h]
      exact Setting.keyed_empty _
  | some path =>
      simp only [hfile] at h
      exact keyed_fileLayer h

end Settings

/-! ## The environment -/

namespace Environment

variable {environment : List (String × String)} {given : String × String → Given}

/-- Variables set what the last of them does that sets a field. -/
theorem gives_layer (h : ∀ v ∈ environment, (layer [v]).Gives (given v)) :
    (layer environment).Gives (.stacked (environment.map given)) := by
  induction environment using List.reverseRecOn with
  | nil => exact Setting.gives_empty _
  | append_singleton before v ih =>
      obtain ⟨hbefore, hv⟩ := List.forall_mem_append.mp h
      rw [layer_concat, List.map_append, Given.stacked, List.foldl_append]
      exact (hv v (List.mem_singleton_self v)).laidOn (keyed_layer [v]) (ih hbefore)

theorem unknownKeys_layer (h : ∀ v ∈ environment, (layer [v]).Gives (given v)) :
    (layer environment).unknownKeys = [] ↔ ∀ v ∈ environment, (layer [v]).unknownKeys = [] := by
  induction environment using List.reverseRecOn with
  | nil => exact iff_of_true rfl (by simp)
  | append_singleton before v ih =>
      obtain ⟨hbefore, hv⟩ := List.forall_mem_append.mp h
      have hone := hv v (List.mem_singleton_self v)
      rw [layer_concat, Setting.unknownKeys_laidOn (keyed_layer [v]) hone (gives_layer hbefore),
        ih hbefore, List.forall_mem_append, List.forall_mem_singleton, and_comm]

end Environment

/-! ## All sources -/

namespace Settings

variable {tree : FileTree} {cwd : Path} {environment : List (String × String)} {a : Arguments}
  {s : Settings}

/-- The same settings, with the project file taken from a directory. -/
def rootedAt (s : Settings) (cwd : Path) : Settings :=
  if s.project.isAbsolute then s else { s with project := cwd.join s.project }

/-- In an absolute directory the project path is absolute. -/
theorem isAbsolute_rootedAt (s : Settings) (hcwd : cwd.isAbsolute = true) :
    (s.rootedAt cwd).project.isAbsolute = true := by
  rw [rootedAt]
  split
  · assumption
  · exact Path.isAbsolute_join hcwd s.project

/-- Settings are gathered from the layers of all sources. -/
theorem gather_eq_ok_iff :
    gather tree cwd environment a = .ok s ↔
      ∃ file decoded, fileSource tree cwd a = .ok file ∧
        decode (merged [file, Environment.layer environment, argumentLayer a]) = .ok decoded ∧
        s = decoded.rootedAt cwd := by
  have hempty : merged [.table .initial [], Environment.layer environment, argumentLayer a] =
      merged [Environment.layer environment, argumentLayer a] := by
    simp only [merged, List.foldl_cons, Setting.laidOn, Setting.layEntries]
  unfold gather fileSource
  cases hfile : file? tree cwd a with
  | none =>
      simp only [pure_bind, List.nil_append, bind_eq_ok_iff, mapError_eq_ok_iff]
      constructor
      · rintro ⟨decoded, hdecode, hresult⟩
        exact ⟨_, decoded, rfl, by rwa [hempty], (Except.ok.inj hresult).symm⟩
      · rintro ⟨_, decoded, ⟨⟩, hdecode, rfl⟩
        exact ⟨decoded, by rwa [← hempty], rfl⟩
  | some path =>
      simp only [bind_eq_ok_iff, mapError_eq_ok_iff]
      constructor
      · rintro ⟨file, hfile, _, ⟨⟩, decoded, hdecode, hresult⟩
        exact ⟨file, decoded, hfile, hdecode, (Except.ok.inj hresult).symm⟩
      · rintro ⟨file, decoded, hfile, hdecode, rfl⟩
        exact ⟨file, hfile, _, rfl, decoded, hdecode, rfl⟩

/-- In an absolute directory the project path of settings is absolute. -/
theorem isAbsolute_of_gather (hcwd : cwd.isAbsolute = true)
    (h : gather tree cwd environment a = .ok s) : s.project.isAbsolute = true := by
  obtain ⟨file, decoded, -, -, rfl⟩ := gather_eq_ok_iff.mp h
  exact isAbsolute_rootedAt decoded hcwd

/-- Settings pass their check exactly when they name a compiler and keep the rules. -/
theorem check_eq_ok_iff :
    s.check = .ok () ↔
      (∃ compiler, Compiler.find s.compiler = .ok compiler) ∧ s.redirection.fault? = none := by
  rw [check]
  cases Compiler.find s.compiler with
  | error e => simp [discard, bind, Except.bind, Functor.mapConst, Except.map]
  | ok compiler =>
      show s.redirection.check = .ok () ↔ _
      rw [RedirectionSettings.check]
      cases s.redirection.fault? with
      | none => exact iff_of_true rfl ⟨⟨compiler, rfl⟩, rfl⟩
      | some e => simp

/-- Settings are loaded exactly when they are gathered and pass their check. -/
theorem load_eq_ok_iff :
    load tree cwd environment a = .ok s ↔
      gather tree cwd environment a = .ok s ∧ s.check = .ok () := by
  rw [load]
  simp only [bind_eq_ok_iff, mapError_eq_ok_iff]
  constructor
  · rintro ⟨gathered, hgather, done, hcheck, hresult⟩
    obtain rfl := Except.ok.inj hresult
    exact ⟨hgather, hcheck⟩
  · rintro ⟨hgather, hcheck⟩
    exact ⟨s, hgather, (), hcheck, rfl⟩

/-! ## The highest source -/

variable {file : Setting} {inFile : Given} {inVariable : String × String → Given}

/-- The layers of all sources set what the highest of them does that sets a field, and have the
unknown keys of all. -/
theorem gives_merged (hfile : fileSource tree cwd a = .ok file) (hinFile : file.Gives inFile)
    (hvariables : ∀ v ∈ environment, (Environment.layer [v]).Gives (inVariable v)) :
    (merged [file, Environment.layer environment, argumentLayer a]).Keyed ∧
      (merged [file, Environment.layer environment, argumentLayer a]).Gives
        ((Given.ofArguments a).or ((Given.stacked (environment.map inVariable)).or inFile)) ∧
      ((merged [file, Environment.layer environment, argumentLayer a]).unknownKeys = [] ↔
        ∀ source ∈ file :: environment.map fun v => Environment.layer [v],
          source.unknownKeys = []) := by
  have hkeyedFile := keyed_fileSource hfile
  have hkeyedLayer := Environment.keyed_layer environment
  have hkeyedArguments := keyed_argumentLayer a
  -- from the bottom up: the file, the environment, the command line
  have hbottom := hinFile.laidOn hkeyedFile (Setting.gives_empty .initial)
  rw [Given.or_nothing] at hbottom
  have hlayer := Environment.gives_layer hvariables
  have hmiddle := hlayer.laidOn hkeyedLayer hbottom
  have htop := (gives_argumentLayer a).laidOn hkeyedArguments hmiddle
  refine ⟨?_, htop, ?_⟩
  · exact hkeyedArguments.laidOn (hkeyedLayer.laidOn (hkeyedFile.laidOn (Setting.keyed_empty _)))
  · have hempty : (Setting.table .initial []).unknownKeys = [] := rfl
    show ((argumentLayer a).laidOn ((Environment.layer environment).laidOn
      (file.laidOn (.table .initial [])))).unknownKeys = [] ↔ _
    rw [Setting.unknownKeys_laidOn hkeyedArguments (gives_argumentLayer a) hmiddle,
      Setting.unknownKeys_laidOn hkeyedLayer hlayer hbottom,
      Setting.unknownKeys_laidOn hkeyedFile hinFile (Setting.gives_empty .initial),
      Environment.unknownKeys_layer hvariables, List.forall_mem_cons, List.forall_mem_map]
    simp [unknownKeys_argumentLayer, hempty, and_comm]

/-- Settings are loaded exactly when no source has an unknown key and they pass their check, and
then each field has the value of the highest source that sets it: of the command line, the
variables of the environment, the file, and the initial settings. Their project path is absolute
in an absolute working directory. -/
theorem load_eq_ok_iff_highest (hfile : fileSource tree cwd a = .ok file)
    (hinFile : file.Gives inFile)
    (hvariables : ∀ v ∈ environment, (Environment.layer [v]).Gives (inVariable v)) :
    (load tree cwd environment a = .ok s ↔
      (∀ source ∈ file :: environment.map fun v => Environment.layer [v],
          source.unknownKeys = []) ∧
        s = ((Given.ofArguments a).or
          ((Given.stacked (environment.map inVariable)).or inFile)).settings.rootedAt cwd ∧
        s.check = .ok ()) ∧
      (cwd.isAbsolute = true → load tree cwd environment a = .ok s →
        s.project.isAbsolute = true) := by
  obtain ⟨hkeyed, hgives, hkeys⟩ := gives_merged hfile hinFile hvariables
  refine ⟨?_, fun hcwd hload => isAbsolute_of_gather hcwd (load_eq_ok_iff.mp hload).1⟩
  rw [load_eq_ok_iff, gather_eq_ok_iff, ← hkeys]
  constructor
  · rintro ⟨⟨source, decoded, hsource, hdecode, rfl⟩, hcheck⟩
    obtain rfl : file = source := Except.ok.inj (hfile.symm.trans hsource)
    obtain ⟨hknown, rfl⟩ := (hgives.decode_eq_ok_iff hkeyed).mp hdecode
    exact ⟨hknown, rfl, hcheck⟩
  · rintro ⟨hknown, rfl, hcheck⟩
    exact ⟨⟨file, _, hfile, (hgives.decode_eq_ok_iff hkeyed).mpr ⟨hknown, rfl⟩, rfl⟩, hcheck⟩

/-- A settings file in the directory `/p`. -/
def layeredTree : FileTree where
  workingDir := ["p"]
  entries := [(["p"], .dir), (["p", "hush.toml"], .file (String.toUTF8 ("\n".intercalate
    ["compiler = \"tsc\"", "watch = true", "[rewrite]", "project = \"@file\"",
      "base_url = \"src\"", "[[rewrite.alias]]", "pattern = \"^b\"", "replacement = \"./b\"",
      "[[rewrite.alias]]", "pattern = \"^a\"", "replacement = \"./a\""])))]

/-- What the file sets. -/
def layeredFile : Given where
  compiler := some "tsc"
  watch := some true
  baseUrl := some "src"
  baseText := some "@file"
  aliases := some [⟨"^b", "./b"⟩, ⟨"^a", "./a"⟩]

/-- What each of some variables sets. -/
def layeredVariable (v : String × String) : Given :=
  if v.1 = "HUSH_COMPILER" then { compiler := some v.2 }
  else if v.1 = "HUSH_REWRITE__PROJECT" then { baseText := some v.2 }
  else {}

/-- A file, two variables and an argument that set the compiler and other fields. -/
theorem load_eq_ok_iff_highest_layered :
    load layeredTree ⟨"/p"⟩
        [("PATH", "/bin"), ("HUSH_REWRITE__PROJECT", "@env"), ("HUSH_COMPILER", "none")]
        { project := some "app.json", compiler := some "oxc" } =
      .ok ⟨⟨"/p/app.json"⟩, "oxc", true,
        ⟨some ⟨"src"⟩, some "@env", [⟨"^b", "./b"⟩, ⟨"^a", "./a"⟩]⟩⟩ := by
  have hread : (match fileSource layeredTree ⟨"/p"⟩
      { project := some "app.json", compiler := some "oxc" } with
      | .ok file => decide (file.Gives layeredFile ∧ file.unknownKeys = [])
      | .error _ => false) = true := by
    decide +kernel
  obtain ⟨file, hfile, hgives, hkeys⟩ : ∃ file, fileSource layeredTree ⟨"/p"⟩
      { project := some "app.json", compiler := some "oxc" } = .ok file ∧
        file.Gives layeredFile ∧ file.unknownKeys = [] := by
    split at hread
    · next file hfile => exact ⟨file, hfile, of_decide_eq_true hread⟩
    · cases hread
  have hvariables : ∀ v ∈ [("PATH", "/bin"), ("HUSH_REWRITE__PROJECT", "@env"),
      ("HUSH_COMPILER", "none")], (Environment.layer [v]).Gives (layeredVariable v) := by
    decide +kernel
  refine (load_eq_ok_iff_highest hfile hgives hvariables).1.mpr ⟨?_, by decide +kernel, ?_⟩
  · exact List.forall_mem_cons.mpr ⟨hkeys, by decide +kernel⟩
  · exact eq_ok_of_toOption (by decide +kernel)

end Settings

end QuietEmit
