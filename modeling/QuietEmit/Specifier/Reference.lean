/-
  QuietEmit.Specifier.Reference

  Module specifiers in a module's text: where the literal stands, what it says
  and how it is quoted. Four forms of trees carry one; an import type says what
  its literal denotes, the others say the text between the quotes as written.
-/
import QuietEmit.Syntax.StringLiteral
import QuietEmit.Syntax.Tree

namespace QuietEmit

open Syntax (Form Tree)

/-- The forms that carry a specifier. -/
inductive Carrier where
  | importDeclaration
  | exportDeclaration
  | dynamicImport
  | importType
deriving DecidableEq, Repr

/-- A specifier found in a module. -/
structure Reference where
  carrier : Carrier
  /-- The literal with its quotes. -/
  span : Span
  specifier : String
  quote : Quote
deriving DecidableEq, Repr

namespace Reference

/-- The quote that a literal as written starts with. -/
def quoteOf (raw : List Char) : Quote :=
  if raw.head? = some '\'' then .single else .double

/-- The reference whose specifier is the text between the quotes. -/
def ofRaw? (carrier : Carrier) (text : List Char) (span : Span) : Option Reference := do
  let raw ← Text.slice? text span
  if 2 ≤ raw.length then
    some ⟨carrier, span, String.ofList (raw.drop 1).dropLast, quoteOf raw⟩
  else none

/-- The reference whose specifier is what the literal denotes. -/
def ofValue (carrier : Carrier) (text : List Char) (span : Span) (value : String) :
    Reference :=
  ⟨carrier, span, value, quoteOf ((Text.slice? text span).getD [])⟩

/-- The reference that a tree carries itself, if it has one of the four forms. -/
def ofTree? (text : List Char) (t : Tree) : Option Reference :=
  match t with
  | .node (.importDeclaration _ _) _ [_, .node (.string _ _) span _, _] =>
    ofRaw? .importDeclaration text span
  | .node (.exportNamed _) _ [_, _, .node (.string _ _) span _, _] =>
    ofRaw? .exportDeclaration text span
  | .node (.exportAll _) _ [_, .node (.string _ _) span _, _] =>
    ofRaw? .exportDeclaration text span
  | .node (.importCall _) _ [.node (.string _ _) span _, _] =>
    ofRaw? .dynamicImport text span
  | .node .importType _ (.node (.string value _) span _ :: _) =>
    some (ofValue .importType text span value)
  | _ => none

/-- The same place with another specifier. -/
def saying (r : Reference) (specifier : String) : Reference :=
  { r with specifier := specifier }

/-- The literal that denotes the specifier, in the same quotes. -/
def literal (r : Reference) : List Char :=
  StringLiteral.write r.quote r.specifier.toList

end Reference

end QuietEmit
