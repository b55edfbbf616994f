/-
  QuietEmit.Specifier.Revision

  Redirecting the specifiers of a whole module. The tree is searched from the top;
  below a specifier that changes nothing else is looked at. The first specifier
  that the rule rejects decides the outcome, and the module then stays as it is.
-/
import QuietEmit.Specifier.Reference
import QuietEmit.Specifier.Target
import QuietEmit.Syntax.Source

namespace QuietEmit

open Syntax (Form Tree Source)

/-! ## Verdicts -/

/-- A specifier before and after. -/
structure Replacement where
  old : Reference
  new : Reference
deriving DecidableEq, Repr

/-- A specifier of a module was rejected. -/
structure Rejection where
  file : Path
  /-- Where the literal starts. -/
  offset : Nat
  cause : OutsideBase
deriving DecidableEq, Repr

/-- The text shown for the error. -/
def Rejection.message (e : Rejection) : String :=
  "Cannot rewrite module specifier in '" ++ e.file.text ++ "': " ++ e.cause.message

/-- What becomes of one reference. -/
inductive Verdict where
  | keep
  | change (r : Replacement)
  | reject (e : Rejection)
deriving DecidableEq, Repr

/-- What the rule makes of a reference found in a file. -/
def Reference.verdict (redirection : Redirection) (file : Path) (r : Reference) : Verdict :=
  match redirection.redirect r.specifier file with
  | .error e => .reject ⟨file, r.span.start, e⟩
  | .ok .unchanged => .keep
  | .ok (.changed text) =>
    if text = r.specifier then .keep else .change ⟨r, r.saying text⟩

/-- Whether the verdict changes the reference. -/
def Verdict.isChange : Verdict → Bool
  | .change _ => true
  | _ => false

/-! ## Searching a tree -/

/-- What a search has found so far: the replacements, the last one first, and the first error. -/
structure Findings where
  replacements : List Replacement
  error : Option Rejection

namespace Findings

/-- Nothing found. -/
def none : Findings := ⟨[], Option.none⟩

/-- Take a verdict into account; after an error nothing counts any more. Answers whether the
reference was changed. -/
def add (f : Findings) (v : Verdict) : Bool × Findings :=
  if f.error.isSome then (false, f)
  else
    match v with
    | .keep => (false, f)
    | .change r => (true, { f with replacements := r :: f.replacements })
    | .reject e => (false, { f with error := some e })

mutual

/-- Search a tree. -/
def search (text : List Char) (judge : Reference → Verdict) (f : Findings) : Tree → Findings
  | .node form span parts =>
    match Reference.ofTree? text (.node form span parts) with
    | some r =>
      match f.add (judge r) with
      | (true, f) => f
      | (false, f) => searchAll text judge f parts
    | Option.none => searchAll text judge f parts

/-- Search trees one after the other. -/
def searchAll (text : List Char) (judge : Reference → Verdict) (f : Findings) :
    List Tree → Findings
  | [] => f
  | t :: ts => searchAll text judge (search text judge f t) ts

end

/-- The replacements in the order of the text, or the error. -/
def outcome (f : Findings) : Except Rejection (List Replacement) :=
  match f.error with
  | some e => .error e
  | Option.none =>
    .ok (f.replacements.reverse.mergeSort fun a b => a.old.span.start ≤ b.old.span.start)

end Findings

/-! ## Listing references -/

mutual

/-- The references of a tree from the top down, without those below one that `hides` them. -/
def references (text : List Char) (hides : Reference → Bool) : Tree → List Reference
  | .node form span parts =>
    match Reference.ofTree? text (.node form span parts) with
    | some r => if hides r then [r] else r :: referencesAll text hides parts
    | none => referencesAll text hides parts

/-- The references of trees one after the other. -/
def referencesAll (text : List Char) (hides : Reference → Bool) : List Tree → List Reference
  | [] => []
  | t :: ts => references text hides t ++ referencesAll text hides ts

end

/-! ## Splicing -/

/-- Put the new literals in the places of the old ones; `cursor` is the byte offset of `text`.
There is no result if a place is out of reach or splits a character. -/
def substitute? : List Replacement → Nat → List Char → Option (List Char)
  | [], _, text => some text
  | r :: rs, cursor, text =>
    let span := r.old.span
    if cursor ≤ span.start ∧ span.start ≤ span.stop then do
      let (before, rest) ← Text.splitBytes? (span.start - cursor) text
      let (_, after) ← Text.splitBytes? (span.stop - span.start) rest
      let tail ← substitute? rs span.stop after
      return before ++ r.new.literal ++ tail
    else none

/-- The text with the new literals. A text that the places do not fit stays as it is. -/
def splice (text : String) (replacements : List Replacement) : String :=
  match substitute? replacements 0 text.toList with
  | some cs => String.ofList cs
  | none => text

/-! ## Modules -/

/-- The code of a module after a pass: the text that was there, or a new one, which can say the
same. -/
inductive RevisedCode where
  | same (text : String)
  | new (text : String)
deriving DecidableEq, Repr

/-- A module after a pass. -/
structure Revision where
  path : Path
  code : RevisedCode
  replacements : List Replacement
deriving DecidableEq, Repr

namespace Revision

/-- A module with the text that it had. -/
def unchanged (path : Path) (text : String) : Revision := ⟨path, .same text, []⟩

/-- A module with specifiers replaced; without replacements it keeps its text. -/
def ofReplacements (path : Path) (text : String) (replacements : List Replacement) : Revision :=
  if replacements.isEmpty then unchanged path text
  else ⟨path, .new (splice text replacements), replacements⟩

/-- The code is a new text. -/
def isRevised (t : Revision) : Bool :=
  match t.code with
  | .same _ => false
  | .new _ => true

/-- The text after. -/
def result (t : Revision) : String :=
  match t.code with
  | .same text => text
  | .new text => text

/-- The text after, if it is a new one. -/
def change? (t : Revision) : Option String :=
  match t.code with
  | .same _ => none
  | .new text => some text

end Revision

/-- Redirect the specifiers of a module given by its text and its tree. -/
def revise (redirection : Redirection) (path : Path) (text : String) (tree : Tree) :
    Except Rejection Revision :=
  if redirection.isInert then .ok (.unchanged path text)
  else
    (Findings.none.search text.toList (Reference.verdict redirection path) tree).outcome.map
      (Revision.ofReplacements path text)

/-- Redirect the specifiers of a module given by its text. -/
def reviseText (redirection : Redirection) (path : Path) (text : String) :
    Except Rejection Revision :=
  revise redirection path text (Source.read (.ofPath path) text).tree

end QuietEmit
