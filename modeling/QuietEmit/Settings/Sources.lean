/-
  QuietEmit.Settings.Sources

  Gathering the settings of a run. From the lowest layer to the highest: initial
  values, the settings file, environment variables, the command line. The project
  path is made absolute and the rules are checked at the end.
-/
import QuietEmit.CommandLine.Options
import QuietEmit.FileTree
import QuietEmit.Settings.Decoding
import QuietEmit.Settings.Environment
import QuietEmit.Toml.Document
import QuietEmit.Watch.Filter

namespace QuietEmit

open CommandLine (Arguments)

namespace Settings

/-! ## The settings file -/

/-- The name of the settings file. -/
def fileName : Path := ⟨Watch.settingsFileName⟩

/-- Where the settings file may be: beside the project file, then in the working directory. -/
def fileCandidates (cwd : Path) (a : Arguments) : List Path :=
  let project := cwd.join ⟨a.project.getD Settings.initial.project.text⟩
  [(project.parent.getD cwd).join fileName, cwd.join fileName]

/-- The settings file, if there is one. -/
def file? (tree : FileTree) (cwd : Path) (a : Arguments) : Option Path :=
  (fileCandidates cwd a).find? tree.isFile

/-- The name a file is shown by: relative to the directory where the program runs, if that has
fewer steps. -/
def shownFile (tree : FileTree) (file : Path) : Path :=
  let file := tree.workingPath.join file
  match file.relativeTo? tree.workingPath with
  | some short => if short.components.length < file.components.length then short else file
  | none => file

/-- The layer of the settings file. -/
def fileLayer (tree : FileTree) (file : Path) : Except SettingsError Setting :=
  let shown := shownFile tree file
  let failed (cause : String) : Except SettingsError Setting :=
    .error (.unloadable (cause ++ SettingFault.place (.file shown)))
  match tree.readText file with
  | .error e => failed (e.text ++ "\n")
  | .ok text =>
    match Toml.Value.ofText text with
    | .error fault => failed (fault.message text)
    | .ok v => .ok (Setting.ofToml (.file shown) v)

/-! ## The command line -/

/-- The layer of the command line: what is not given sets nothing. -/
def argumentLayer (a : Arguments) : Setting :=
  Setting.ofEntries .arguments
    ((a.project.map fun p => ("project", .plain .arguments (.text p))).toList ++
      (a.compiler.map fun c => ("compiler", .plain .arguments (.text c))).toList ++
      (if a.watch then [("watch", .plain .arguments (.boolean true))] else []))

/-! ## All layers -/

/-- The layers on top of each other, the first at the bottom. -/
def merged (layers : List Setting) : Setting :=
  layers.foldl (fun below layer => layer.laidOn below) (.table .initial [])

/-- The merged settings, before the rules are checked. -/
def gather (tree : FileTree) (cwd : Path) (environment : List (String × String)) (a : Arguments) :
    Except SettingsError Settings := do
  let file ← match file? tree cwd a with
    | some file => pure [← fileLayer tree file]
    | none => pure []
  let all := merged (file ++ [Environment.layer environment, argumentLayer a])
  let s ← (decode all).mapError fun f => .unloadable f.message
  return if s.project.isAbsolute then s else { s with project := cwd.join s.project }

/-- Load the settings of a run for a working directory. -/
def load (tree : FileTree) (cwd : Path) (environment : List (String × String)) (a : Arguments) :
    Except RunError Settings := do
  let s ← (gather tree cwd environment a).mapError .settings
  s.check
  return s

end Settings

end QuietEmit
