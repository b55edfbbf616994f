/-
  QuietEmit.Syntax.Scope

  The scopes of a module: what each block, function and namespace declares, and
  as what. Variables declared by `var` belong to the function around them.
-/
import QuietEmit.Syntax.Names

namespace QuietEmit.Syntax

/-! ## What names stand for -/

/-- What a declared name stands for. -/
inductive Meaning where
  /-- A variable of a function: a parameter, or one declared by `var`. -/
  | functionVariable
  | blockVariable
  | catchVariable
  /-- A function, `plain` when it is neither async nor a generator. -/
  | function (plain : Bool)
  | class_
  | import_
  | enum (isConst : Bool)
  /-- A namespace, `instantiated` when it leaves something when the module runs. -/
  | namespace_ (instantiated : Bool)
  | interface
  | typeAlias
  | typeParameter
deriving DecidableEq, Repr, Inhabited

namespace Meaning

/-- Whether the name stands for a value of the module. -/
def isValue : Meaning → Bool
  | .interface | .typeAlias | .typeParameter | .namespace_ false | .import_ => false
  | _ => true

/-- Whether the name stands for a type of the module. -/
def isType : Meaning → Bool
  | .class_ | .enum _ | .interface | .typeAlias | .typeParameter => true
  | _ => false

end Meaning

/-- A declaration of a name. -/
structure Declaration where
  name : String
  meaning : Meaning
  place : Nat
deriving DecidableEq, Repr, Inhabited

/-! ## Declarations -/

/-- The names that a pattern binds, with their places. -/
def boundPlaces : Tree → List (String × Nat) :=
  Tree.recurse fun form span parts =>
    let result (i : Nat) : List (String × Nat) := ((parts[i]?).map Prod.snd).getD []
    match form with
    | .identifier n => [(n, span.start)]
    | .binding _ | .defaulted | .rest | .declarator _ => result 0
    | .property _ _ | .parameter _ => result 1
    | .objectPattern | .arrayPattern | .list | .variableList _ _ => parts.flatMap Prod.snd
    | _ => []

namespace Declaration

/-- The names that a pattern binds, as declarations. -/
def ofPattern (meaning : Meaning) (t : Tree) : List Declaration :=
  (boundPlaces t).map fun (n, place) => ⟨n, meaning, place⟩

/-- Type parameters, as declarations. -/
def ofTypeParameters (t : Tree) : List Declaration :=
  t.parts.flatMap fun p => ofPattern .typeParameter (p.part 0)

/-- The declarations of a statement that belong to the block around it. -/
def ofStatement (t : Tree) : List Declaration :=
  let d := t.declarationOf.unlabeled
  let named (n : Tree) (meaning : Meaning) : List Declaration := ofPattern meaning n
  match d.form with
  | .variableList .var _ => []
  | .variableList _ _ => ofPattern .blockVariable d
  | .function traits => named (d.part 0) (.function (!traits.isAsync && !traits.isGenerator))
  | .class_ _ _ => named (d.part 1) .class_
  | .enum isConst _ => named (d.part 0) (.enum isConst)
  | .moduleDeclaration .global _ => []
  | .moduleDeclaration _ _ => named (d.part 0) (.namespace_ d.isInstantiated)
  | .importEquals _ => named (d.part 0) .import_
  | .interface _ => named (d.part 0) .interface
  | .typeAlias _ => named (d.part 0) .typeAlias
  | .importDeclaration _ _ =>
    (d.part 0).parts.flatMap fun s => named (s.parts.getLastD .none) .import_
  | _ => []

end Declaration

/-! ## Scopes -/

/-- Kinds of scopes. -/
inductive ScopeKind where
  | module
  | function
  | block
deriving DecidableEq, Repr, Inhabited

/-- What a scope declares. -/
structure NameScope where
  kind : ScopeKind
  own : List Declaration
  /-- Variables of the function around that are declared inside. -/
  passing : List Declaration := []
deriving Repr, Inhabited

/-- The scopes in a tree. -/
structure NameScopes where
  /-- Variables that belong to the function around the tree; of a function's body, all that it
  declares. -/
  outward : List Declaration := []
  scopes : List NameScope := []
deriving Inhabited

/-- The scopes in a tree from those of its parts. -/
def NameScopes.step (form : Form) (_ : Span) (parts : List (Tree × NameScopes)) : NameScopes :=
  let tree (i : Nat) : Tree := ((parts[i]?).map Prod.fst).getD Tree.none
  let result (i : Nat) : NameScopes := ((parts[i]?).map Prod.snd).getD {}
  let inner := parts.flatMap fun p => p.2.scopes
  let outward := parts.flatMap fun p => p.2.outward
  let block (own : List Declaration) : NameScopes := ⟨outward, inner ++ [⟨.block, own, outward⟩]⟩
  let closed (kind : ScopeKind) (own : List Declaration) : NameScopes :=
    ⟨[], inner ++ [⟨kind, own, []⟩]⟩
  match form with
  | .variableList .var _ =>
    ⟨parts.flatMap fun p => Declaration.ofPattern .functionVariable p.1, inner⟩
  | .block => block (parts.flatMap fun p => Declaration.ofStatement p.1)
  | .program | .namespaceBody =>
    closed .module ((tree 1).parts.flatMap Declaration.ofStatement ++ outward)
  | .functionBody => ⟨(tree 1).parts.flatMap Declaration.ofStatement ++ outward, inner⟩
  | .staticBlock =>
    closed .function ((parts.flatMap fun p => Declaration.ofStatement p.1) ++ outward)
  | .for_ | .forIn | .forOf _ => block (Declaration.ofStatement (tree 0))
  | .switch =>
    block ((tree 1).parts.flatMap fun c => (c.part 1).parts.flatMap Declaration.ofStatement)
  | .catch_ =>
    let b := tree 0
    let meaning : Meaning := if (b.part 0).name?.isSome then .catchVariable else .blockVariable
    block (Declaration.ofPattern meaning b ++ (tree 1).parts.flatMap Declaration.ofStatement)
  | .function _ =>
    closed .function (Declaration.ofTypeParameters (tree 1) ++
      Declaration.ofPattern .functionVariable (tree 2) ++ (result 4).outward)
  | .arrow _ =>
    closed .function (Declaration.ofTypeParameters (tree 0) ++
      Declaration.ofPattern .functionVariable (tree 1) ++ (result 3).outward)
  | _ => ⟨outward, inner⟩

/-- The scopes of a module. -/
def Tree.scopes (t : Tree) : List NameScope := (t.recurse NameScopes.step).scopes

/-- The places of the names of enumerations and namespaces that go on with a name declared before
them in their scope: for an enumeration anything at all, for a namespace a value. -/
def NameScope.continued (s : NameScope) : List Nat :=
  let sorted := s.own.mergeSort fun a b => a.place ≤ b.place
  sorted.filterMap fun d =>
    let first? := sorted.find? fun e =>
      e.name == d.name && match d.meaning with
        | .namespace_ _ => e.meaning.isValue
        | _ => true
    let isLater := first?.any fun e => e.place != d.place
    match d.meaning with
    | .enum _ | .namespace_ _ => if isLater then some d.place else none
    | _ => none

end QuietEmit.Syntax
