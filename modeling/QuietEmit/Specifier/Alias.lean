/-
  QuietEmit.Specifier.Alias

  The alias table: patterns with replacement templates, tried in order. Patterns
  match without regard to case, anywhere in the specifier.
-/
import QuietEmit.Regex.Replace

namespace QuietEmit

/-- A pattern that is no regular expression. -/
structure AliasError where
  pattern : String
  reason : Regex.Error
deriving DecidableEq, Repr

/-- One entry of the table, ready to match. -/
structure Alias where
  pattern : String
  replacement : String
  regex : Regex.Compiled

namespace Alias

/-- Prepare an entry. -/
def compile (pattern replacement : String) : Except AliasError Alias :=
  match Regex.compile pattern with
  | .ok regex => .ok ⟨pattern, replacement, regex⟩
  | .error reason => .error ⟨pattern, reason⟩

/-- Replace every match in the specifier; `none` if there is none. -/
def answer (rule : Alias) (specifier : String) : Option String :=
  if rule.regex.isMatch specifier.toList then
    some (rule.regex.replaceAll rule.replacement specifier)
  else none

end Alias

/-- The table in order; the first entry that matches wins. -/
structure AliasTable where
  rules : List Alias

namespace AliasTable

/-- The table without entries. -/
def empty : AliasTable := ⟨[]⟩

/-- Prepare the entries in order, up to the first bad pattern. -/
def compile (pairs : List (String × String)) : Except AliasError AliasTable := do
  return ⟨← pairs.mapM fun (pattern, replacement) => Alias.compile pattern replacement⟩

/-- Whether there is no entry. -/
def isEmpty (t : AliasTable) : Bool := t.rules.isEmpty

/-- Redirect with the first matching entry. -/
def answer (t : AliasTable) (specifier : String) : Option String :=
  t.rules.findSome? (·.answer specifier)

end AliasTable

end QuietEmit
