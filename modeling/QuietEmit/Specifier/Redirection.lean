/-
  QuietEmit.Specifier.Redirection

  The options that drive the redirecting of module specifiers, and the checks they
  have to pass.
-/
import QuietEmit.FileTree
import QuietEmit.OsPath
import QuietEmit.Specifier.Alias

namespace QuietEmit

/-- What can be wrong with the options, or with reading a project. -/
inductive SetupError where
  | invalidAlias (pattern reason : String)
  | invalidOption (option reason : String)
  | unreadable (path : Path) (cause : IoError)
deriving DecidableEq, Repr

namespace SetupError

/-- The text shown for the error. -/
def message : SetupError → String
  | .invalidAlias pattern reason => "Invalid alias pattern '" ++ pattern ++ "': " ++ reason
  | .invalidOption option reason => "Invalid rewrite option '" ++ option ++ "': " ++ reason
  | .unreadable path cause => "Failed to read '" ++ path.text ++ "': " ++ cause.text

/-- A bad pattern, with the reason spelt out. -/
def ofAlias (e : AliasError) : SetupError := .invalidAlias e.pattern (e.reason.message e.pattern)

end SetupError

/-- Answers a replacement for a specifier found in a file, or nothing. -/
abbrev RedirectionHook := String → OsPath → Option String

/-- The options of a redirecting pass. The base directory is kept in normal form. -/
structure Redirection where
  baseUrl : Option OsPath
  project : Option String
  hook : Option RedirectionHook
  aliases : AliasTable

namespace Redirection

/-- No option set. -/
def empty : Redirection := ⟨none, none, none, AliasTable.empty⟩

/-- Set the directory that relative specifiers are rebased from. -/
def setBaseUrl (c : Redirection) (base : OsPath) : Redirection :=
  { c with baseUrl := some base.clean }

/-- Set the text that stands for the base directory in rebased specifiers. -/
def setProject (c : Redirection) (project : String) : Redirection :=
  { c with project := some project }

/-- Set the alias table. -/
def setAliases (c : Redirection) (aliases : AliasTable) : Redirection :=
  { c with aliases := aliases }

/-- Set the hook. -/
def setHook (c : Redirection) (hook : RedirectionHook) : Redirection :=
  { c with hook := some hook }

/-- Ask the hook; an empty answer is no answer. -/
def hookAnswer (c : Redirection) (specifier : String) (file : OsPath) : Option String :=
  c.hook.bind fun hook => (hook specifier file).filter (!·.isEmpty)

/-- No rule can ever apply. -/
def isInert (c : Redirection) : Bool :=
  c.aliases.isEmpty && c.hook.isNone && (c.baseUrl.isNone || c.project.isNone)

/-- Refuse options that cannot give meaningful output. -/
def check (c : Redirection) : Except SetupError Unit :=
  match c.baseUrl.filter (!·.isAbsolute) with
  | some base =>
    .error (.invalidOption "base_url" ("'" ++ base.lossy.text ++ "' must be an absolute path"))
  | none =>
    if c.project == some "" then .error (.invalidOption "project" "must not be empty") else .ok ()

end Redirection

/-- A redirecting pass: options that passed the checks. -/
structure RedirectingPass where
  redirection : Redirection

namespace RedirectingPass

/-- The name of the pass. -/
def name : String := "rewrite-specifiers"

/-- Check the options and make them a pass. -/
def ofRedirection (c : Redirection) : Except SetupError RedirectingPass := do
  c.check
  return ⟨c⟩

end RedirectingPass

end QuietEmit
