/-
  QuietEmit.Check.Functions

  Where functions forbid what they hold: waiting and yielding in parameters and in
  static blocks, `use strict` below parameters that are not plain names, and
  parameters in an order that cannot be.
-/
import QuietEmit.Check.Fault
import QuietEmit.Syntax.Names

namespace QuietEmit.Check

open Syntax

/-- What surrounds an expression. -/
structure FunctionContext where
  inParameters : Bool := false
  /-- Directly in a static block, in no block or function inside it. -/
  inStaticBlock : Bool := false
deriving Inhabited

/-- Whether a parameter is a name and nothing more. -/
def isPlainParameter (t : Tree) : Bool :=
  match t with
  | .node (.parameter _) _ [_, .node (.binding _) _ [n, _]] => n.name?.isSome
  | _ => false

/-- The directives of a function's body that its parameters forbid. -/
def strictDirectives (params body : Tree) : List Finding :=
  match body.form with
  | .functionBody =>
    if params.parts.all isPlainParameter then []
    else (body.part 0).parts.filterMap fun d =>
      match d.form with
      | .directive "use strict" => some ⟨d.span.stop, .illegalStrict⟩
      | _ => none
  | _ => []

/-! ## Parameters -/

/-- Whether a parameter has to be given. -/
def isRequiredParameter (t : Tree) : Bool :=
  match t with
  | .node (.parameter _) _ [_, .node (.binding false) _ _] => true
  | _ => false

/-- Parameters that have to be given after one marked as optional; the findings stand at the end of
the list. -/
def requiredAfterOptional (place : Nat) : Bool → List Tree → List Finding
  | _, [] => []
  | optional, p :: rest =>
    let marked := match p with
      | .node (.parameter _) _ [_, .node (.binding true) _ _] => true
      | _ => false
    (if optional && isRequiredParameter p then [⟨place, .requiredAfterOptional⟩] else []) ++
      requiredAfterOptional place (optional || marked) rest

/-- Names that a list repeats. -/
def repeated : List String → List String → List String
  | _, [] => []
  | before, n :: rest =>
    (if before.contains n then [n] else []) ++ repeated (n :: before) rest

/-- The findings about a list of parameters at its end. In the type of a function, which declares
nothing, repeated names are found once more. -/
def listFaults (inType : Bool) (params : Tree) : List Finding :=
  let again := if inType && params.parts.length > 1 then repeated [] params.boundNames else []
  (again.map fun n => ⟨params.span.stop, .redeclared n⟩) ++
    requiredAfterOptional params.span.stop false params.parts

/-! ## All of a module -/

/-- The findings in a tree, in what surrounds it, from those of its parts. -/
def functionStep (form : Form) (span : Span)
    (parts : List (Tree × (FunctionContext → List Finding))) (c : FunctionContext) :
    List Finding :=
  let tree (i : Nat) : Tree := ((parts[i]?).map Prod.fst).getD Tree.none
  let inside (c : FunctionContext) : List Finding := parts.flatMap fun p => p.2 c
  let found (fault : Fault) : List Finding := [⟨span.stop, fault⟩]
  match form with
  | .function _ => inside {} ++ listFaults false (tree 2) ++ strictDirectives (tree 2) (tree 4)
  | .arrow _ => inside {} ++ listFaults false (tree 1) ++ strictDirectives (tree 1) (tree 3)
  | .functionType | .constructorType _ | .callSignature | .constructSignature =>
    inside c ++ listFaults true (tree 1)
  | .methodSignature _ _ => inside c ++ listFaults true (tree 2)
  | .parameter _ => inside { c with inParameters := true }
  | .staticBlock => inside { c with inStaticBlock := true }
  | .block | .for_ | .forIn | .forOf _ | .catch_ | .class_ _ _ =>
    inside { c with inStaticBlock := false }
  | .switch =>
    (parts.take 1).flatMap (fun p => p.2 c) ++
      (parts.drop 1).flatMap fun p => p.2 { c with inStaticBlock := false }
  | .await =>
    inside c ++ (if c.inParameters then found (.inParameter "await") else []) ++
      if c.inStaticBlock then found .staticAwait else []
  | .yield _ => inside c ++ if c.inParameters then found (.inParameter "yield") else []
  | _ => inside c

/-- What the functions of a module hold that they may not. -/
def functions (t : Tree) : List Finding := t.recurse functionStep {}

end QuietEmit.Check
