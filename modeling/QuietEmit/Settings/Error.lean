/-
  QuietEmit.Settings.Error

  What stops a run, as opposed to diagnostics, which never do. Context can be
  added to an error on its way up: the path that was not found, or a hint.
-/
import QuietEmit.Specifier.Redirection

namespace QuietEmit

/-- What is wrong with the settings. -/
inductive SettingsError where
  /-- The sources could not be merged into settings. -/
  | unloadable (cause : String)
  | invalidValue (field value hint : String)
deriving DecidableEq, Repr

/-- The text of the error. -/
def SettingsError.message : SettingsError → String
  | .unloadable cause =>
    "Failed to load configuration: " ++ cause ++
      "\n\nHint: Check hush.toml and HUSH_* environment variables"
  | .invalidValue field value hint =>
    "Invalid value for '" ++ field ++ "': " ++ value ++ "\n\nHint: " ++ hint

/-- What stops a run. -/
inductive RunError where
  | settings (e : SettingsError)
  | compilerNotFound (name hint : String)
  | fileNotFound (path : Path)
  | io (e : IoError)
  | watcher (text : String)
  | setup (e : SetupError)
  | custom (text : String)
deriving DecidableEq, Repr

namespace RunError

/-- The text of the error. -/
def message : RunError → String
  | .settings e => "Configuration error: " ++ e.message
  | .compilerNotFound name hint => "Cannot find compiler '" ++ name ++ "'\n\nHint: " ++ hint
  | .fileNotFound path => "File not found: " ++ path.text
  | .io e => "I/O error: " ++ e.text
  | .watcher text => "File watcher error: " ++ text
  | .setup e => e.message
  | .custom text => text

/-- Name the path of a failure to find something; other errors stay. -/
def addPath (e : RunError) (path : Path) : RunError :=
  match e with
  | .io cause => if cause.kind = .notFound then .fileNotFound path else e
  | .setup (.unreadable _ cause) => if cause.kind = .notFound then .fileNotFound path else e
  | _ => e

/-- Append a hint, which leaves nothing but the text. -/
def addHint (e : RunError) (hint : String) : RunError :=
  .custom (e.message ++ "\n\nHint: " ++ hint)

end RunError

/-- Context added to an error. -/
inductive ErrorContext where
  | path (p : Path)
  | hint (text : String)
deriving DecidableEq, Repr

/-- Add one piece of context. -/
def RunError.inContext (e : RunError) : ErrorContext → RunError
  | .path p => e.addPath p
  | .hint text => e.addHint text

/-- Add context in order. -/
def RunError.inContexts (e : RunError) (chain : List ErrorContext) : RunError :=
  chain.foldl RunError.inContext e

/-! ## Reports -/

/-- What is shown to the user when a run stops. -/
structure Report where
  message : String
  code : Option String
  help : Option String
deriving DecidableEq, Repr

/-- The report for an error. -/
def RunError.report : RunError → Report
  | .setup e =>
    match e with
    | .invalidAlias _ _ =>
      ⟨e.message, some "hush::config::invalid_alias",
        some "Alias keys are regular expressions, e.g. \"^@app/(.*)$\""⟩
    | .invalidOption _ _ => ⟨e.message, some "hush::config::invalid_option", none⟩
    | .unreadable _ _ => ⟨e.message, some "hush::io", none⟩
  | .compilerNotFound name hint =>
    ⟨"Cannot find compiler '" ++ name ++ "'", some "hush::compiler_not_found", some hint⟩
  | e => ⟨e.message, none, none⟩

end QuietEmit
