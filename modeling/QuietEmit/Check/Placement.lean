/-
  QuietEmit.Check.Placement

  Statements where they may not stand: functions as bodies of other statements,
  namespaces in blocks, classes without names, heads of loops that declare too much,
  and jumps that lead nowhere, being outside what they jump in.
-/
import QuietEmit.Check.Fault
import QuietEmit.Syntax.Names

namespace QuietEmit.Check

open Syntax

/-! ## Statements inside others -/

/-- A statement that is all another one holds. -/
def loneBodies (form : Form) (parts : List Tree) : List Tree :=
  match form with
  | .if_ => parts.drop 1
  | .while_ | .with_ | .labeled => parts.drop 1
  | .doWhile => parts.take 1
  | .for_ => parts.drop 3
  | .forIn | .forOf _ => parts.drop 2
  | _ => []

/-- The statements that a tree holds as such. -/
def heldStatements (form : Form) (parts : List Tree) : List Tree :=
  match form with
  | .program | .functionBody | .namespaceBody | .case => (parts.getD 1 .none).parts
  | .block | .staticBlock => parts
  | .exportNamed _ => parts.take 1
  | _ => loneBodies form parts

/-- Functions that are all another statement holds. Only strict text keeps them out of conditions
and labels. -/
def loneFunctions (form : Form) (bodies : List Tree) (place : Nat) : List Finding :=
  let anywhere := match form with
    | .if_ | .labeled => false
    | _ => true
  bodies.filterMap fun b =>
    match b.form with
    | .function _ => some ⟨place, .functionPlace anywhere⟩
    | _ => none

/-- Classes that have to have names. -/
def namelessClasses (statements : List Tree) : List Finding :=
  statements.filterMap fun s =>
    match s.form with
    | .class_ _ _ => if (s.part 1).isAbsent then some ⟨s.span.stop, .className⟩ else none
    | _ => none

/-! ## Loops -/

/-- What the head of a loop over something declares that it may not. In text that is not strict a
loop over keys may give a plain variable of `var` a value. -/
def loopHead (loop dashed : String) (target : Tree) (place : Nat) : List Finding :=
  match target with
  | .node (.variableList kind _) _ [d] =>
    let anywhere := kind != .var || loop != "for...in" || ((d.part 0).part 0).name?.isNone
    (if (d.part 1).isPresent then [⟨place, .loopInitializer dashed anywhere⟩] else []) ++
      if ((d.part 0).part 1).isPresent then [⟨place, .loopType loop⟩] else []
  | .node (.variableList _ _) _ (_ :: _ :: _) => [⟨place, .loopDeclarations loop⟩]
  | _ => []

/-- A default clause after another one. -/
def secondDefault (cases : List Tree) (place : Nat) : List Finding :=
  if (cases.filter fun c => (c.part 0).isAbsent).length > 1 then
    [⟨place, .redeclared "default"⟩]
  else []

/-! ## Modules -/

/-- What a statement of modules is called. -/
def moduleStatement? (t : Tree) : Option String :=
  match t.form with
  | .importDeclaration _ _ => some "import statement"
  | .exportNamed _ | .exportDefault | .exportAll _ | .exportAssignment | .namespaceExport =>
    some "export statement"
  | _ => none

/-- Statements of modules that stand elsewhere. -/
def misplacedLinks (isModule atTop : Bool) (statements : List Tree) : List Finding :=
  statements.filterMap fun s =>
    (moduleStatement? s).bind fun what =>
      if !isModule then some ⟨s.span.stop, .outsideModule what⟩
      else if atTop then none
      else some ⟨s.span.stop, .topLevel what⟩

/-- How many constructs a part of a tree adds to those around it. The body of a class is one of its
own, and so is that of an arrow function without braces, with the statement in it. -/
def depthOf (form : Form) (part : Nat) (t : Tree) : Nat :=
  match form with
  | .list | .absent | .pureCall | .exportNamed _ | .exportDefault | .binding _ => 0
  | .class_ _ _ => if part == 6 then 2 else 1
  | .function _ => if part == 2 then 2 else 1
  | .arrow _ =>
    if part == 1 then 2
    else if part == 3 then
      match t.form with
      | .functionBody => 1
      | _ => 3
    else 1
  | _ => 1

/-! ## All of a module -/

/-- What surrounds a statement. -/
structure PlaceContext where
  typed : Bool
  isModule : Bool
  /-- Constructs around, up to the module or namespace they are in. -/
  depth : Nat := 0
deriving Inhabited

/-- The findings in a tree, in what surrounds it, from those of its parts. A namespace is found once
for each construct around it. -/
def placementStep (form : Form) (span : Span) (parts : List (Tree × (PlaceContext → List Finding)))
    (c : PlaceContext) : List Finding :=
  let trees := parts.map Prod.fst
  let tree (i : Nat) : Tree := trees.getD i .none
  let bodies := loneBodies form trees
  let held := heldStatements form trees
  let isProgram := match form with
    | .program => true
    | _ => false
  let isOuter := isProgram || match form with
    | .moduleDeclaration _ _ | .namespaceBody => true
    | _ => false
  let below : List Finding := parts.zipIdx.flatMap fun (p, i) =>
    p.2 { c with depth := if isOuter then 0 else c.depth + depthOf form i p.1 }
  let own : List Finding := match form with
    | .forIn => loopHead "for...in" "for-in" (tree 0) span.stop
    | .forOf _ => loopHead "for...of" "for-of" (tree 0) span.stop
    | .switch => secondDefault (tree 1).parts span.stop
    | .moduleDeclaration _ _ => List.replicate c.depth ⟨span.stop, .namespaceInside⟩
    | .jsxContainer =>
      match (tree 0).form with
      | .sequence => [⟨span.stop, .markupComma⟩]
      | _ => []
    | _ => []
  below ++ namelessClasses held ++
    (if c.typed then [] else misplacedLinks c.isModule isProgram held) ++
    loneFunctions form bodies span.stop ++ own

/-- The statements of a module that stand where they may not. -/
def placements (typed isModule : Bool) (t : Tree) : List Finding :=
  t.recurse placementStep { typed, isModule }

/-! ## Jumps -/

/-- What surrounds a statement. -/
structure JumpContext where
  inLoop : Bool := false
  inSwitch : Bool := false
  /-- Labels around the statement, each with whether it marks a loop or another label. -/
  labels : List (String × Bool) := []
  /-- Inside a function that jumps cannot leave. -/
  inFunction : Bool := false
deriving Inhabited

/-- Why a label is no target. -/
def JumpContext.missing (c : JumpContext) : Fault :=
  if c.inFunction then .labelAcrossFunction else .undefinedLabel

/-- Whether a label marks a statement that can be continued. -/
def isContinued (t : Tree) : Bool :=
  match t.form with
  | .labeled | .for_ | .forIn | .forOf _ | .while_ | .doWhile => true
  | _ => false

/-- The findings in a tree, in what surrounds it, from those of its parts. Jumps leave arrow
functions and classes, but no other functions and no static blocks. -/
def jumpStep (form : Form) (span : Span) (parts : List (Tree × (JumpContext → List Finding)))
    (c : JumpContext) : List Finding :=
  let tree (i : Nat) : Tree := ((parts[i]?).map Prod.fst).getD Tree.none
  let inside (c : JumpContext) : List Finding := parts.flatMap fun p => p.2 c
  let found (fault : Fault) : List Finding := [⟨span.stop, fault⟩]
  match form with
  | .for_ | .forIn | .forOf _ | .while_ | .doWhile => inside { c with inLoop := true }
  | .switch => inside { c with inSwitch := true }
  | .function _ | .staticBlock => inside { inFunction := true }
  | .labeled =>
    match (tree 0).name? with
    | some n =>
      inside { c with labels := (n, isContinued (tree 1)) :: c.labels } ++
        if c.labels.any (·.1 == n) then found (.redeclaredLabel n) else []
    | none => inside c
  | .break_ =>
    match (tree 0).name? with
    | some n => if c.labels.any (·.1 == n) then [] else found c.missing
    | none => if c.inLoop || c.inSwitch then [] else found .breakOutside
  | .continue_ =>
    match (tree 0).name? with
    | some n =>
      match c.labels.lookup n with
      | some true => []
      | some false => found .labelNotLoop
      | none => found c.missing
    | none => if c.inLoop then [] else found .continueOutside
  | _ => inside c

/-- The jumps of a module that lead nowhere. -/
def jumps (t : Tree) : List Finding := t.recurse jumpStep {}

end QuietEmit.Check
