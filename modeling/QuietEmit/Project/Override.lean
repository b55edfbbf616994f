/-
  QuietEmit.Project.Override

  Lists of patterns that say which paths below a root are wanted. The last
  pattern that matches decides, so patterns to leave out come after those to take
  in.
-/
import QuietEmit.Path
import QuietEmit.Project.Glob
import QuietEmit.Unicode.Properties

namespace QuietEmit

/-- A pattern of an override list. -/
structure OverridePattern where
  glob : Glob
  /-- What matches is left out. -/
  leavesOut : Bool
  /-- Only directories can match. -/
  directoriesOnly : Bool

/-- A glob in an override list is faulty; `shown` is the pattern as read. -/
structure OverrideFault where
  shown : String
  cause : GlobFault
deriving DecidableEq, Repr

/-- The text of the fault. -/
def OverrideFault.message (e : OverrideFault) : String :=
  "error parsing glob '" ++ e.shown ++ "': " ++ e.cause.message

namespace OverridePattern

/-- Blanks at the end do not count, unless the last one is escaped. -/
def withoutTrailingBlanks (line : List Char) : List Char :=
  if [' ', '\\'].isPrefixOf line.reverse then line else Text.dropRightWhile Unicode.isBlank line

/-- Read a pattern anchored at the root: `/` and a glob, after `!` to leave out. -/
def read (line : List Char) : Except OverrideFault OverridePattern :=
  let line := withoutTrailingBlanks line
  let (leavesOut, body) := match line with
    | '!' :: rest => (true, rest)
    | _ => (false, line)
  let body := match body with
    | '/' :: rest => rest
    | _ => body
  let (directoriesOnly, body) :=
    if body.getLast? = some '/' then
      let kept := body.dropLast
      (true, if kept.getLast? = some '\\' then kept.dropLast else kept)
    else (false, body)
  -- Everything below a directory, but not the directory itself.
  let body := if ['*', '*', '/'].isPrefixOf body.reverse then body ++ ['/', '*'] else body
  match Glob.compile body with
  | .ok glob => .ok ⟨glob, leavesOut, directoriesOnly⟩
  | .error cause => .error ⟨String.ofList line, cause⟩

end OverridePattern

/-- What a list of patterns says about a path. -/
inductive Wanted where
  | yes
  | no
  /-- A directory that no pattern names. -/
  | undecided
deriving DecidableEq, Repr

/-- What patterns say about a path relative to their root. A file that none names is not wanted. -/
def wanted (patterns : List OverridePattern) (path : List UInt8) (isDir : Bool) : Wanted :=
  match patterns.reverse.find? fun p => (!p.directoriesOnly || isDir) && p.glob.isMatch path with
  | some p => if p.leavesOut then .no else .yes
  | none => if isDir then .undecided else .no

end QuietEmit
