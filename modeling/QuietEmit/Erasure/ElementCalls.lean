/-
  QuietEmit.Erasure.ElementCalls

  Which functions the elements of a module call. Comments may choose them, as in
  `/* @jsx h */`, and some choices are among the faults of erasure.
-/
import QuietEmit.Syntax.Token

namespace QuietEmit.Erasure

open Syntax

/-! ## Faults -/

/-- What has no counterpart in plain modules. -/
inductive Fault where
  | mutableNamespaceExport
  | ambientModule
  | namesForImported
  | sourceForNamed
  | namespacedElement
  | keyWithoutValue
deriving DecidableEq, Repr

/-- The text of a fault. -/
def Fault.message : Fault → String
  | .mutableNamespaceExport => "Namespaces exporting non-const are not supported by Babel. Change to const or see: https://babeljs.io/docs/en/babel-plugin-transform-typescript"
  | .ambientModule => "Ambient modules cannot be nested in other modules or namespaces."
  | .namesForImported => "pragma and pragmaFrag cannot be set when runtime is automatic."
  | .sourceForNamed => "importSource cannot be set when runtime is classic."
  | .namespacedElement => "Namespace tags are not supported by default. React's JSX doesn't support namespace tags. You can set `throwIfNamespace: false` to bypass this warning."
  | .keyWithoutValue => "Please provide an explicit key value. Using \"key\" as a shorthand for \"key=\x7btrue\x7d\" is not allowed."

/-! ## Functions called -/

/-- The functions that elements call: imported ones, or with `named` ones that the module names. -/
structure ElementCalls where
  isNamed : Bool := false
  importSource : Option String := none
  element : Option String := none
  fragment : Option String := none
deriving Repr, Inhabited

namespace ElementCalls

/-- The name of the function that makes elements. -/
def elementName (r : ElementCalls) : String := r.element.getD "React.createElement"

/-- The name of what fragments are. -/
def fragmentName (r : ElementCalls) : String := r.fragment.getD "React.Fragment"

/-- The module that the functions come from. -/
def source (r : ElementCalls) : String := r.importSource.getD "react"

/-! ## Choices in comments -/

/-- What may be chosen. -/
inductive Choice where
  | element
  | manner
  | importSource
  | fragment
deriving DecidableEq, Repr

/-- The words after `@jsx` for a choice. -/
def Choice.ofWord? : String → Option Choice
  | "" => some .element
  | "Runtime" => some .manner
  | "ImportSource" => some .importSource
  | "Frag" => some .fragment
  | _ => none

/-- The first choice in a text with the word after it. -/
def choice? : List Char → Option (Choice × String)
  | [] => none
  | '@' :: rest =>
    if "jsx".toList.isPrefixOf rest then
      let isBlank (c : Char) : Bool := c == ' ' || c == '\t'
      let word := (rest.drop 3).takeWhile (!isBlank ·)
      let after := (rest.drop 3).drop word.length
      match Choice.ofWord? (String.ofList word), after with
      | some c, _ :: _ =>
        some (c, String.ofList ((after.dropWhile isBlank).takeWhile (!Char.isWhitespace ·)))
      | _, _ => choice? rest
    else choice? rest
  | _ :: rest => choice? rest

/-- The text of a comment without its marks. -/
def content (c : Comment) : List Char :=
  let text := c.text.toList.drop 2
  if c.isBlock then text.take (text.length - 2) else text

/-- Make the choice of a comment. -/
def choose (r : ElementCalls) (c : Comment) : ElementCalls :=
  match choice? (content c) with
  | some (.element, n) => { r with element := some n }
  | some (.fragment, n) => { r with fragment := some n }
  | some (.importSource, n) => { r with importSource := some n }
  | some (.manner, "classic") => { r with isNamed := true }
  | some (.manner, "automatic") => { r with isNamed := false }
  | _ => r

/-- The functions that the comments of a module choose. -/
def ofComments (cs : List Comment) : ElementCalls := cs.foldl choose {}

/-- Choices that do not go together. -/
def faults (r : ElementCalls) : List Fault :=
  if r.isNamed then if r.importSource.isSome then [.sourceForNamed] else []
  else if r.element.isSome || r.fragment.isSome then [.namesForImported] else []

end ElementCalls

end QuietEmit.Erasure
