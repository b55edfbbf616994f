/-
  QuietEmit.Settings.Redirection

  From the settings of a run to the options of the redirecting pass for a project.
-/
import QuietEmit.Project.Basic
import QuietEmit.Settings.Basic

namespace QuietEmit

namespace RedirectionSettings

/-- The compiled alias table, in the order of the settings. -/
def aliasTable (s : RedirectionSettings) : Except RunError AliasTable :=
  match AliasTable.compile (s.aliases.map fun e => (e.pattern, e.replacement)) with
  | .ok t => .ok t
  | .error e => .error (.setup (.ofAlias e))

/-- The base directory for a project: the one set, taken from the project's root, else the
project's own. -/
def baseFor (s : RedirectionSettings) (project : Project) : Option Path :=
  match s.baseUrl with
  | some base => some (project.root.join base)
  | .none => project.options.baseUrl

/-- The options of the pass for a project. -/
def redirection (s : RedirectionSettings) (project : Project) : Except RunError Redirection := do
  let table ← s.aliasTable
  let c := Redirection.empty.setAliases table
  let c := match s.baseFor project with
    | some base => c.setBaseUrl base
    | .none => c
  return match s.project with
    | some text => c.setProject text
    | .none => c

/-- The pass for a project. -/
def pass (s : RedirectionSettings) (project : Project) : Except RunError RedirectingPass := do
  (RedirectingPass.ofRedirection (← s.redirection project)).mapError .setup

end RedirectionSettings

end QuietEmit
