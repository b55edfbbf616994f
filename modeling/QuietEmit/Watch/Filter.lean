/-
  QuietEmit.Watch.Filter

  Which changed paths start a cycle: inputs and configuration below the root,
  outside ignored directories, dependency folders and hidden places. Declaration
  files count as output. Names are compared as texts: a directory whose name is no
  text hides nothing, and a file with such a name is not watched.
-/
import QuietEmit.OsPath

namespace QuietEmit.Watch

/-- Extensions of files that are watched. -/
def liveExtensions : List String := ["ts", "tsx", "mts", "cts", "json"]

/-- Folders that hold dependencies. -/
def dependencyFolders : List String := ["node_modules", "bower_components", "jspm_packages"]

/-- The name of the settings file. -/
def settingsFileName : String := "hush.toml"

/-- A root with the directories below it that are ignored. -/
structure Filter where
  root : OsPath
  ignored : List OsPath
deriving DecidableEq, Repr

namespace Filter

/-- A filter that ignores no directory. -/
def ofRoot (root : OsPath) : Filter := ⟨root, []⟩

/-- Ignore a directory as well. -/
def ignoring (f : Filter) (dir : OsPath) : Filter := { f with ignored := f.ignored ++ [dir] }

/-- Names that hide what lies below them. -/
def isHiding : Component → Bool
  | .name s => s.toList.head? == some '.' || dependencyFolders.contains s
  | _ => false

/-- Whether a step of a path hides what lies below it. -/
def hides (step : Component) : Bool := step.read?.any isHiding

/-- Whether a file of that name is watched. -/
def watchesName (path : OsPath) (name : String) : Bool :=
  name == settingsFileName ||
    (!Text.contains ".d.".toList name.toList &&
      path.extension.any liveExtensions.contains)

/-- Whether a change of the path is to be passed over. -/
def ignores (f : Filter) (path : OsPath) : Bool :=
  match path.below? f.root with
  | none => true
  | some rest =>
    f.ignored.any path.startsWith || rest.components.any hides ||
      !(path.fileName.any (watchesName path))

end Filter

/-- What happened to a file. -/
inductive Change where
  | created (path : OsPath)
  | modified (path : OsPath)
  | removed (path : OsPath)
deriving DecidableEq, Repr

/-- The file that changed. -/
def Change.path : Change → OsPath
  | .created p | .modified p | .removed p => p

end QuietEmit.Watch
