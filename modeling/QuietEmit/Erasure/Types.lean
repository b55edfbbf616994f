/-
  QuietEmit.Erasure.Types

  Trees without types. What is only there for types becomes absent, and a
  statement that is absent is dropped from the statements around it.
-/
import QuietEmit.Erasure.Markup
import QuietEmit.Erasure.Namespace

namespace QuietEmit.Erasure

open Syntax

/-- What a tree is erased with. -/
structure Setting where
  markup : MarkupSetting := {}
  outline : Namespace.Outline := {}
deriving Inhabited

/-! ## Statements -/

/-- Statements of a block or a function: enumerations are lowered, and namespaces, which have no
place there, are left out like all that is absent. -/
def blockStatements (s : Setting) (ss : List Tree) : List Tree :=
  ss.filterMap fun t =>
    match t.form with
    | .absent | .moduleDeclaration _ _ => none
    | _ => some (Enumeration.lowerStatement s.outline.sites t)

/-- Whether a statement is there only for types, or stands for something that they need. -/
def isTypeStatement (t : Tree) : Bool :=
  match t.form with
  | .typeAlias _ | .interface _ | .enum _ _ | .moduleDeclaration _ _ | .importEquals _ => true
  | .variableList _ isDeclare => isDeclare
  | .function traits => traits.isDeclare || (t.part 4).isAbsent
  | .class_ isAbstract isDeclare => isAbstract || isDeclare
  | _ => false

/-- The statement that a condition or a loop holds, from how it is written and what is left. -/
def heldStatement (p : Tree × Tree) : Tree :=
  if isTypeStatement p.1 then Build.made .block [] else p.2

/-- What is left of a statement with a label; one that is there for types stays as it is. -/
def labeledStatement (s : Setting) (p : Tree × Tree) : Tree :=
  match p.1.form with
  | .typeAlias _ | .interface _ | .moduleDeclaration _ _ => p.1
  | _ => Enumeration.lowerStatement s.outline.sites p.2

/-! ## Classes -/

/-- Whether a parameter declares a member of its class too. -/
def declaresMember (m : Modifiers) : Bool := m.access.isSome || m.isReadonly || m.isOverride

/-- The names of the parameters that declare members. Patterns declare none. -/
def memberParameters (f : Tree) : List String :=
  (f.part 2).parts.filterMap fun p =>
    match p.form, p.part 1 with
    | .parameter m, .node .defaulted _ (b :: _) => if declaresMember m then (b.part 0).name? else none
    | .parameter m, b => if declaresMember m then (b.part 0).name? else none
    | _, _ => none

/-- `this.a = a;` -/
def memberAssignment (n : String) : Tree :=
  Build.statement ⟨0, 0⟩ (Build.assign (Build.member (Build.made .this []) n) (Build.name n))

/-- Whether a statement calls the constructor of the class above. -/
def isSuperCall (t : Tree) : Bool :=
  match t.form with
  | .expression =>
    match (t.part 0).form with
    | .call _ =>
      match ((t.part 0).part 0).form with
      | .super => true
      | _ => false
    | _ => false
  | _ => false

/-- Statements with others put after the first call of the constructor above, or before all. -/
def afterSuper (added ss : List Tree) : List Tree :=
  match ss.span fun s => !isSuperCall s with
  | (before, call :: after) => before ++ call :: added ++ after
  | _ => added ++ ss

/-- A constructor that assigns its parameters to the members they declare. -/
def assigning (names : List String) (f : Tree) : Tree :=
  if names.isEmpty then f
  else
    match f with
    | .node form span [n, tps, ps, result, .node bodyForm bodySpan [ds, ss]] =>
      .node form span [n, tps, ps, result,
        .node bodyForm bodySpan [ds, .list (afterSuper (names.map memberAssignment) ss.parts)]]
    | _ => f

/-! ## Trees -/

/-- Whether a parameter stands for the type of `this`. -/
def isThisParameter (t : Tree) : Bool :=
  match t with
  | .node (.parameter _) _ [_, .node (.binding _) _ [.node (.identifier "this") _ _, _]] => true
  | _ => false

/-- A tree without types from its parts, each beside the part without types. -/
def step (s : Setting) (form : Form) (span : Span) (parts : List (Tree × Tree)) : Tree :=
  let results := parts.map Prod.snd
  let result (i : Nat) : Tree := results.getD i .none
  let former (i : Nat) : Tree := ((parts[i]?).map Prod.fst).getD Tree.none
  let held (i : Nat) : Tree := ((parts[i]?).map heldStatement).getD .none
  let same : Tree := .node form span results
  let dropIf (absent : Bool) (t : Tree) : Tree := if absent then .none else t
  match form with
  -- Expressions
  | .asType | .satisfiesType | .nonNull | .instantiation => result 0
  | .typeAssertion => result 1
  | .jsxElement | .jsxFragment => Markup.lower s.markup form span results
  -- Types
  | .colonType | .typeParameters | .typeArguments => .none
  | .interface _ | .typeAlias _ | .indexSignature _ | .namespaceExport => .none
  -- Parameters
  | .list => .node .list span ((results.filter fun t => !isThisParameter t).filter Tree.isPresent)
  | .binding optional =>
    .node (.binding (optional && (result 0).name?.isNone)) span results
  | .parameter _ => .node (.parameter {}) span results
  | .declarator _ => .node (.declarator false) span results
  -- Functions and classes
  | .function traits =>
    dropIf (traits.isDeclare || (result 0).isPresent && (result 4).isAbsent) same
  | .class_ _ isDeclare =>
    dropIf isDeclare (.node (.class_ false false) span (results.take 5 ++ [.list [], result 6]))
  | .field m =>
    let kept : Modifiers :=
      { isStatic := m.isStatic, isAccessor := m.isAccessor, isComputed := m.isComputed
        isOverride := m.isAccessor && m.isOverride }
    dropIf (m.isDeclare || m.isAbstract) (.node (.field kept) span results)
  | .method kind m =>
    let f := match kind with
      | .constructor_ => assigning (memberParameters (former 2)) (result 2)
      | _ => result 2
    dropIf (m.isAbstract || (f.part 4).isAbsent)
      (.node (.method kind { isStatic := m.isStatic, isComputed := m.isComputed }) span
        [result 0, result 1, f])
  -- Statements
  | .variableList _ isDeclare => dropIf isDeclare same
  | .enum _ isDeclare => dropIf isDeclare same
  -- The value as written decides what is known of it.
  | .enumMember _ => .node form span [result 0, former 1, result 1]
  | .moduleDeclaration keyword isDeclare =>
    dropIf (isDeclare || !(former 1).isInstantiated || keyword == .global) same
  | .block | .staticBlock => .node form span (blockStatements s results)
  | .functionBody | .case =>
    .node form span [result 0, .list (blockStatements s (result 1).parts)]
  | .if_ =>
    .node .if_ span [result 0, held 1, if isTypeStatement (former 2) then .none else result 2]
  | .for_ => .node .for_ span [result 0, result 1, result 2, held 3]
  | .forIn | .forOf _ => .node form span [result 0, result 1, held 2]
  | .while_ => .node .while_ span [result 0, held 1]
  | .doWhile => .node .doWhile span [held 0, result 1]
  | .labeled => .node .labeled span [result 0, ((parts[1]?).map (labeledStatement s)).getD .none]
  | .exportDefault =>
    dropIf (match (result 0).form with
      | .function _ => ((result 0).part 4).isAbsent
      | _ => false) same
  | _ => same

/-- A tree without types. -/
def withoutTypes (s : Setting) (t : Tree) : Tree := t.recurse (step s)

end QuietEmit.Erasure
