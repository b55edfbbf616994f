/-
  QuietEmit.Erasure.Namespace

  Namespaces as functions: what a namespace exports is kept in an object, and
  its statements run in a function that is given that object.
-/
import QuietEmit.Erasure.Enumeration
import QuietEmit.Erasure.FreshName

namespace QuietEmit.Erasure

open Syntax

/-! ## Imports by an equal sign -/

/-- A name with dots as an expression. -/
def nameExpression : Tree → Tree :=
  Tree.recurse fun form span parts =>
    match form with
    | .qualifiedName => .node (.member false) span (parts.map Prod.snd)
    | _ => .node form span (parts.map Prod.snd)

/-- An import of a name or a module by an equal sign, as a variable if one is needed. -/
def importVariable (needed : Bool) (t : Tree) : Tree :=
  match t with
  | .node (.importEquals typeOnly) span [n, reference] =>
    let name := n.name?.getD ""
    if typeOnly || !needed then .none
    else
      match reference with
      | .node .externalReference _ [source] =>
        Build.declaring span .const name .none (Build.call (Build.name "require") [source])
      | _ => Build.declaring span .var name .none (nameExpression reference)
  | _ => t

namespace Namespace

/-- `_N.a = a`. -/
def keep (object n : String) : Tree :=
  Build.assign (Build.member (Build.name object) n) (Build.name n)

/-- Variables that a namespace exports are assigned to its object. -/
def exportedVariables (object : String) (t : Tree) : List Tree :=
  let isPlain := t.parts.all fun d => ((d.part 0).part 0).name?.isSome
  if isPlain then
    [t.withParts (t.parts.map fun d =>
      match d.parts, ((d.part 0).part 0).name? with
      | [b, value], some n =>
        if value.isAbsent then d
        else d.withParts [b, Build.assign (Build.member (Build.name object) n) value]
      | _, _ => d)]
  else
    let assignments := t.boundNames.map (keep object)
    [t, Build.statement ⟨0, 0⟩ (match assignments with
      | [one] => one
      | _ => Build.made .sequence assignments)]

/-- The object of a namespace: the one there is already, or a new one. -/
def target (n : String) (parent : Option String) : Tree :=
  match parent with
  | none => Build.either (Build.name n) (Build.assign (Build.name n) (Build.object []))
  | some p =>
    let there := Build.member (Build.name p) n
    Build.either (Build.name n)
      (Build.assign (Build.name n) (Build.either there (Build.assign there (Build.object []))))

/-- What is known of the declarations of a module. -/
structure Outline where
  /-- The sites of its enumerations. -/
  sites : Enumeration.Sites := []
  /-- The places of the names of namespaces that go on with a name declared before. -/
  continued : List Nat := []
deriving Inhabited

/-- The outline of a module. -/
def Outline.ofModule (t : Tree) : Outline :=
  let scopes := t.scopes
  ⟨Enumeration.sites scopes t, scopes.flatMap NameScope.continued⟩

/-- The names that statements use as values. -/
def usedValues (ss : List Tree) : List String :=
  ss.flatMap fun s => s.freeNames.filterMap fun u =>
    if u.usage == .value then some u.name else none

mutual

/-- The statements of the function of a namespace whose values are kept in `object`; `fuel` bounds
how deep namespaces are nested, and the names that are taken grow. -/
def body (o : Outline) (object : String) (used : List String) (fuel : Nat) :
    List String → List Tree → List Tree × List String
  | taken, [] => ([], taken)
  | taken, s :: rest =>
    let (here, taken) := statement o object used fuel taken s
    let (later, taken) := body o object used fuel taken rest
    (here ++ later, taken)
termination_by _ ss => (fuel, 1, ss.length)

/-- What stands for a statement of a namespace. Names exported by themselves are left out. -/
def statement (o : Outline) (object : String) (used : List String) (fuel : Nat)
    (taken : List String) (s : Tree) : List Tree × List String :=
  let kept (ns : List String) : List Tree := ns.map fun n => Build.statement ⟨0, 0⟩ (keep object n)
  match s with
  | .node (.moduleDeclaration _ _) _ _ => lower o fuel false none taken s
  | .node (.importEquals _) _ (n :: _) =>
    ([importVariable (used.contains (n.name?.getD "")) s].filter Tree.isPresent, taken)
  | .node (.exportNamed _) _ (d :: _) =>
    match d.form with
    | .absent => ([], taken)
    | .moduleDeclaration _ _ => lower o fuel false (some object) taken d
    | .importEquals _ =>
      let v := importVariable true d
      (if v.isAbsent then [] else v :: kept v.boundNames, taken)
    | .variableList _ _ => (exportedVariables object d, taken)
    | .enum _ false =>
      (Enumeration.lower o.sites false d.span d :: kept (d.declaredNames.map Declared.name), taken)
    | _ => (d :: kept (d.declaredNames.map Declared.name), taken)
  | _ => ([Enumeration.lowerStatement o.sites s], taken)
termination_by (fuel, 0, 1)

/-- The statements that stand for a namespace: its variable, where it is not declared yet, and
the call of its function. One that is named by a string leaves nothing. -/
def lower (o : Outline) (fuel : Nat) (isExported : Bool) (parent : Option String)
    (taken : List String) (t : Tree) : List Tree × List String :=
  match fuel, (t.part 0).name? with
  | fuel + 1, some n =>
    let (directives, inner) := match (t.part 1).form with
      | .moduleDeclaration _ _ => ([], [Build.exported (t.part 1).span (t.part 1)])
      | _ => (((t.part 1).part 0).parts, (t.part 1).statements)
    let object := freshName n taken
    let (statements, taken) := body o object (usedValues inner) fuel (object :: taken) inner
    let run := Build.statement ⟨0, 0⟩
      (Build.call (Build.made .paren [Build.function [object] directives statements])
        [target n parent])
    let variable_ := Build.declaring ⟨0, 0⟩ .let_ n .none .none
    let declared : List Tree :=
      if o.continued.contains (t.part 0).span.start then []
      else if isExported then [Build.exported ⟨0, 0⟩ variable_]
      else [variable_]
    (declared ++ [run], taken)
  | _, _ => ([], taken)
termination_by (fuel, 0, 0)

end

/-- Lower the namespaces among the statements of a module. -/
def lowerAll (o : Outline) (fuel : Nat) : List String → List Tree → List Tree
  | _, [] => []
  | taken, s :: rest =>
    match s with
    | .node (.moduleDeclaration _ _) _ _ =>
      let (here, taken) := lower o fuel false none taken s
      here ++ lowerAll o fuel taken rest
    | .node (.exportNamed _) _ (d :: _) =>
      match d.form with
      | .moduleDeclaration _ _ =>
        let (here, taken) := lower o fuel true none taken d
        here ++ lowerAll o fuel taken rest
      | _ => s :: lowerAll o fuel taken rest
    | _ => s :: lowerAll o fuel taken rest

end Namespace

end QuietEmit.Erasure
