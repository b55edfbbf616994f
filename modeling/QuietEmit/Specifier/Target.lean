/-
  QuietEmit.Specifier.Target

  The rule that redirects one specifier. The alias table comes first, then the
  hook, then rebasing: a specifier that starts with a dot is resolved against
  the directory of its file, and the text of the base directory in the result
  gives way to the project text. Files and directories are paths of the system,
  specifiers are texts, so rebasing goes by the lossy texts of both. What no rule
  touches stays as it is.
-/
import QuietEmit.Specifier.Redirection

namespace QuietEmit

/-- A relative specifier whose target does not mention the base directory. -/
structure OutsideBase where
  specifier : String
  /-- The target as it is shown. -/
  resolved : Path
  baseUrl : OsPath
deriving DecidableEq, Repr

/-- The text shown for the error. -/
def OutsideBase.message (e : OutsideBase) : String :=
  "'" ++ e.specifier ++ "' resolves to '" ++ e.resolved.text ++
    "', which is outside the base directory '" ++ e.baseUrl.lossy.text ++ "'"

/-- What the rule makes of a specifier. -/
inductive Redirected where
  | unchanged
  | changed (text : String)
deriving DecidableEq, Repr

/-- The specifier after the rule. -/
def Redirected.text (specifier : String) : Redirected → String
  | .unchanged => specifier
  | .changed text => text

/-- The place a relative specifier of a file leads to. -/
def resolveTarget (specifier : String) (file : OsPath) : OsPath :=
  (file.parentOrEmpty.join (.ofText specifier)).clean

/-- Swap the base directory for the project text in the specifier's target. -/
def rebase (specifier : String) (file baseUrl : OsPath) (project : String) :
    Except OutsideBase String :=
  let target := (resolveTarget specifier file).lossy
  match Text.splitOnce? baseUrl.lossy.text.toList target.text.toList with
  | some (_, rest) =>
    .ok (project ++ String.ofList (rest.map fun c => if c == '\\' then '/' else c))
  | none => .error ⟨specifier, target, baseUrl⟩

/-- Redirect one specifier found in `file`. -/
def Redirection.redirect (redirection : Redirection) (specifier : String) (file : OsPath) :
    Except OutsideBase Redirected :=
  match redirection.aliases.answer specifier with
  | some text => .ok (.changed text)
  | none =>
    match redirection.hookAnswer specifier file with
    | some text => .ok (.changed text)
    | none =>
      match redirection.baseUrl, redirection.project with
      | some base, some project =>
        if specifier.toList.head? == some '.' then
          (rebase specifier file base project).map .changed
        else .ok .unchanged
      | _, _ => .ok .unchanged

end QuietEmit
