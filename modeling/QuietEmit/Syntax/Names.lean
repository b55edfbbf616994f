/-
  QuietEmit.Syntax.Names

  Which names a tree declares, and which names it uses without declaring them.
-/
import QuietEmit.Syntax.Tree

namespace QuietEmit.Syntax

/-! ## Declared names -/

/-- A declared name, and whether it can stand for a value or for a type. -/
structure Declared where
  name : String
  isValue : Bool
  isType : Bool
deriving DecidableEq, Repr, Inhabited

namespace Tree

/-- The names that a pattern, or a list of patterns, binds. -/
def boundNames : Tree → List String :=
  recurse fun form _ parts =>
    let result (i : Nat) : List String := ((parts[i]?).map Prod.snd).getD []
    match form with
    | .identifier n => [n]
    | .binding _ | .defaulted | .rest | .declarator _ => result 0
    | .property _ _ | .parameter _ => result 1
    | .objectPattern | .arrayPattern | .list | .variableList _ _ => parts.flatMap Prod.snd
    | _ => []

/-- The names of the variables declared by `var` in a statement, outside the functions in it. -/
def hoistedNames : Tree → List String :=
  recurse fun form _ parts =>
    match form with
    | .variableList .var _ => parts.flatMap fun p => p.1.boundNames
    | .list | .block | .functionBody | .if_ | .for_ | .forIn | .forOf _ | .while_ | .doWhile
    | .labeled | .with_ | .switch | .case | .try_ | .catch_ | .exportNamed _ =>
      parts.flatMap Prod.snd
    | _ => []

/-- The leftmost identifier of a name with dots. -/
def leftmost? : Tree → Option String :=
  recurse fun form _ parts =>
    match form with
    | .identifier n => some n
    | .qualifiedName | .member _ => (parts[0]?).bind Prod.snd
    | _ => Option.none

/-- A declaration without the export around it. -/
def declarationOf : Tree → Tree
  | .node (.exportNamed _) _ (d :: _) => d
  | .node .exportDefault _ [d] => d
  | t => t

/-- The function below any labels. -/
def unlabeled : Tree → Tree
  | .node .labeled _ [_, body] => unlabeled body
  | t => t

/-- The names that a statement declares in the block around it. -/
def declaredNames (t : Tree) : List Declared :=
  let named (name : Tree) (isValue isType : Bool) : List Declared :=
    match name.name? with
    | some n => [⟨n, isValue, isType⟩]
    | Option.none => []
  let d := t.declarationOf.unlabeled
  match d.form with
  | .variableList _ _ => d.boundNames.map fun n => ⟨n, true, false⟩
  | .function _ => named (d.part 0) true false
  | .class_ _ _ => named (d.part 1) true true
  | .enum _ _ | .moduleDeclaration _ _ | .importEquals _ => named (d.part 0) true true
  | .interface _ | .typeAlias _ => named (d.part 0) false true
  | .importDeclaration typeOnly _ =>
    (d.part 0).parts.flatMap fun s =>
      match s with
      | .node (.importSpecifier typeToo) _ [_, l] => named l (!typeOnly && !typeToo) true
      | .node .importDefault _ [l] | .node .importNamespace _ [l] => named l (!typeOnly) true
      | _ => []
  | _ => []

/-- A declaration of a value that exists elsewhere: one marked with `declare`. A namespace counts
if it holds anything but types. -/
def isAmbientValue (t : Tree) : Bool :=
  let d := t.declarationOf
  match d.form with
  | .variableList _ isDeclare | .class_ _ isDeclare | .enum _ isDeclare => isDeclare
  | .function traits => traits.isDeclare
  | .moduleDeclaration _ isDeclare =>
    isDeclare && (d.part 1).statements.any fun s =>
      match s.declarationOf.form with
      | .interface _ | .typeAlias _ => false
      | _ => true
  | _ => false

/-! ## Namespaces -/

/-- Whether a statement of a namespace leaves something when the module runs; of the body of a
namespace, whether one of its statements does. -/
def isInstantiated : Tree → Bool :=
  recurse fun form _ parts =>
    let result (i : Nat) : Bool := ((parts[i]?).map Prod.snd).getD false
    let tree (i : Nat) : Tree := ((parts[i]?).map Prod.fst).getD none
    match form with
    | .interface _ | .typeAlias _ | .importDeclaration _ _ | .importEquals _ | .absent => false
    | .list => parts.any fun p => p.2
    | .namespaceBody => result 1
    | .moduleDeclaration _ isDeclare => !isDeclare && result 1
    | .exportNamed _ =>
      match (tree 0).form with
      | .absent => !(tree 1).parts.isEmpty
      | .importEquals _ => true
      | _ => result 0
    | _ => true

end Tree

/-! ## Places of names -/

namespace Form

/-- The parts that bind a name, when they are identifiers. -/
def bindingParts : Form → List Nat
  | .binding _ | .function _ | .importDefault | .importNamespace | .importEquals _ | .interface _
  | .typeAlias _ | .enum _ _ | .moduleDeclaration _ _ | .typeParameter _ _ _
  | .mappedType _ _ => [0]
  | .class_ _ _ | .importSpecifier _ => [1]
  | _ => []

/-- The parts that neither bind nor use a name: names of members, and those that other modules
give. -/
def memberParts : Form → List Nat
  | .property false _ | .methodProperty _ false | .importSpecifier _ | .enumMember _
  | .namedElement _ | .predicate _ | .indexSignature _ | .namespaceExport => [0]
  | .propertySignature m | .methodSignature _ m => if m.isComputed then [] else [0]
  | .field m | .method _ m => if m.isComputed then [] else [1]
  | .member _ | .qualifiedName | .exportSpecifier _ => [1]
  | .metaProperty => [0, 1]
  | .importType => [1, 2]
  | .exportAll _ => [0, 2]
  | .importAttributes _ => [0]
  | .importAttribute => [0]
  | _ => []

/-- The parts that are labels. -/
def labelParts : Form → List Nat
  | .labeled | .break_ | .continue_ => [0]
  | _ => []

end Form

/-! ## Used names -/

/-- How a name is used. -/
inductive Usage where
  | value
  | type
  /-- The type of a value. -/
  | typeOfValue
  /-- Exported, whatever it stands for. -/
  | export_
  /-- Exported as a type. -/
  | exportedType
deriving DecidableEq, Repr, Inhabited

/-- A use of a name. -/
structure Use where
  name : String
  usage : Usage
  /-- Where the name stands, or zero where that is not known. -/
  place : Nat
deriving DecidableEq, Repr, Inhabited

namespace Use

/-- Whether a declared name is what the use means. -/
def isOf (u : Use) (d : Declared) : Bool :=
  u.name == d.name &&
    match u.usage with
    | .value | .typeOfValue => d.isValue
    | .type => d.isType
    | .export_ | .exportedType => true

/-- The uses that are of none of the declared names. -/
def without (us : List Use) (ds : List Declared) : List Use :=
  us.filter fun u => !ds.any u.isOf

end Use

/-- The names that a tree uses and does not declare, when it is read as an expression or
statement, and when it is read as a pattern. -/
structure FreeNames where
  asExpression : List Use := []
  asPattern : List Use := []
deriving Inhabited

namespace FreeNames

/-- Names for values. -/
def values (ns : List String) : List Declared := ns.map fun n => ⟨n, true, false⟩

/-- Type parameters as declared names. -/
def typeNames (t : Tree) : List Declared :=
  t.parts.filterMap fun p => (p.part 0).name?.map fun n => ⟨n, false, true⟩

/-- The type parameters introduced by `infer` in a type. -/
def inferred : Tree → List Declared :=
  Tree.recurse fun form _ parts =>
    match form with
    | .inferType => parts.flatMap fun p => ((p.1.part 0).name?.map fun n => ⟨n, false, true⟩).toList
    | _ => parts.flatMap Prod.snd

/-- The name of an element of markup, when it stands for a component. -/
def component? (t : Tree) : Option String :=
  match t with
  | .node (.jsxName n) _ _ =>
    let head := (n.splitOn ".").headD ""
    let lower := head.toList.head?.any fun c => c.isLower
    if n.toList.contains '.' then some head
    else if lower || n.toList.contains '-' || n.toList.contains ':' then none
    else some head
  | _ => none

/-- The free names of a tree from those of its parts. -/
def step (form : Form) (span : Span) (parts : List (Tree × FreeNames)) : FreeNames :=
  let tree (i : Nat) : Tree := ((parts[i]?).map Prod.fst).getD Tree.none
  let result (i : Nat) : FreeNames := ((parts[i]?).map Prod.snd).getD {}
  let uses (i : Nat) : List Use := (result i).asExpression
  let patternUses (i : Nat) : List Use := (result i).asPattern
  let all : List Use := parts.flatMap fun p => p.2.asExpression
  let allPatterns : List Use := parts.flatMap fun p => p.2.asPattern
  let expression (us : List Use) : FreeNames := ⟨us, us⟩
  let keyed (computed : Bool) : List Use := if computed then uses 0 else []
  -- A function from its type parameters on.
  let callable (i : Nat) (rest : List Use) : List Use :=
    Use.without (uses i ++ patternUses (i + 1) ++ rest)
      (typeNames (tree i) ++ values (tree (i + 1)).boundNames)
  match form with
  | .identifier n => ⟨[⟨n, .value, span.start⟩], []⟩
  -- Patterns
  | .binding _ => expression (patternUses 0 ++ uses 1)
  | .objectPattern | .arrayPattern => expression allPatterns
  | .defaulted => expression (patternUses 0 ++ uses 1)
  | .rest => expression (patternUses 0)
  | .parameter _ => expression (uses 0 ++ patternUses 1)
  | .list => ⟨all, allPatterns⟩
  | .property computed _ => ⟨keyed computed ++ uses 1, keyed computed ++ patternUses 1⟩
  -- Names that are not uses
  | .member _ => expression (uses 0)
  | .metaProperty | .privateName _ | .break_ | .continue_ | .importAttributes _ | .jsxName _
  | .importDeclaration _ _ | .namespaceExport | .importSpecifier _ => expression []
  | .labeled => expression (uses 1)
  | .methodProperty _ computed => expression (keyed computed ++ uses 1)
  | .field m =>
    expression (uses 0 ++ (if m.isComputed then uses 1 else []) ++ uses 2 ++ uses 3)
  | .method _ m => expression (uses 0 ++ (if m.isComputed then uses 1 else []) ++ uses 2)
  | .jsxAttribute => expression (uses 1)
  | .jsxElement =>
    expression ((component? (tree 0)).toList.map (⟨·, .value, 0⟩) ++ uses 1 ++ uses 2 ++ uses 3)
  -- Functions and classes
  | .function _ =>
    let own := (tree 0).name?.toList
    let body := Use.without (uses 4) (values ["arguments"])
    expression (Use.without (callable 1 (uses 3 ++ body)) (values own))
  | .arrow _ => expression (callable 0 (uses 2 ++ uses 3))
  | .functionType | .constructorType _ | .callSignature | .constructSignature =>
    expression (callable 0 (uses 2))
  | .methodSignature _ m => expression (keyed m.isComputed ++ callable 1 (uses 3))
  | .propertySignature m => expression (keyed m.isComputed ++ uses 1)
  | .indexSignature _ => expression (uses 1 ++ uses 2)
  | .class_ _ _ =>
    let own : List Declared := (tree 1).name?.toList.map fun n => ⟨n, true, true⟩
    let inner := uses 2 ++ uses 3 ++ uses 4 ++ uses 5 ++ uses 6
    expression (uses 0 ++ Use.without inner (typeNames (tree 2) ++ own))
  -- Scopes
  | .block | .staticBlock =>
    expression (Use.without all (parts.flatMap fun p => p.1.declaredNames))
  | .functionBody | .namespaceBody | .program =>
    expression (Use.without all
      ((tree 1).parts.flatMap Tree.declaredNames ++ values (tree 1).hoistedNames))
  | .for_ | .forIn | .forOf _ =>
    expression (Use.without (uses 0 ++ patternUses 0 ++ uses 1 ++ uses 2 ++ uses 3)
      (tree 0).declaredNames)
  | .switch =>
    let declared := (tree 1).parts.flatMap fun c => (c.part 1).parts.flatMap Tree.declaredNames
    expression (uses 0 ++ Use.without (uses 1) declared)
  | .catch_ => expression (Use.without (patternUses 0 ++ uses 1) (values (tree 0).boundNames))
  | .variableList _ _ => expression all
  | .declarator _ => expression (patternUses 0 ++ uses 1)
  -- Modules
  | .exportNamed typeOnly =>
    if (tree 2).isPresent then expression []
    else if typeOnly then expression ((uses 1).map fun u => { u with usage := .exportedType })
    else expression (uses 0 ++ uses 1)
  | .exportSpecifier typeOnly =>
    let usage : Usage := if typeOnly then .exportedType else .export_
    expression ((tree 0).name?.toList.map (⟨·, usage, 0⟩))
  | .exportDefault =>
    match (tree 0).name? with
    | some n => expression [⟨n, .export_, 0⟩]
    | none => expression (uses 0)
  | .exportAll _ => expression []
  | .importEquals typeOnly =>
    expression ((tree 1).leftmost?.toList.map (⟨·, if typeOnly then .type else .value, 0⟩))
  -- Declarations of types
  | .interface _ =>
    expression (Use.without (uses 1 ++ uses 2 ++ uses 3) (typeNames (tree 1)))
  | .typeAlias _ => expression (Use.without (uses 1 ++ uses 2) (typeNames (tree 1)))
  | .enum _ _ =>
    let members := (tree 1).parts.flatMap fun m => ((m.part 0).name?).toList
    expression (Use.without (uses 1) (values members))
  | .enumMember _ => expression (uses 1)
  | .moduleDeclaration _ _ => expression (uses 1)
  -- Types
  | .typeReference | .heritage =>
    expression ((tree 0).leftmost?.toList.map (⟨·, .type, 0⟩) ++ uses 1)
  | .qualifiedName | .keywordType _ => expression []
  | .typeQuery =>
    let ofImport := match (tree 0).form with
      | .importType => uses 0
      | _ => (tree 0).leftmost?.toList.map (⟨·, .typeOfValue, 0⟩)
    expression (ofImport ++ uses 1)
  | .importType => expression (uses 3)
  | .namedElement _ => expression (uses 1)
  | .predicate _ => expression (uses 1)
  | .typeParameter _ _ _ => expression (uses 1 ++ uses 2)
  | .mappedType _ _ =>
    let own : List Declared := (tree 0).name?.toList.map fun n => ⟨n, false, true⟩
    expression (uses 1 ++ Use.without (uses 2 ++ uses 3) own)
  | .conditionalType =>
    expression (uses 0 ++ uses 1 ++ Use.without (uses 2) (inferred (tree 1)) ++ uses 3)
  | _ => expression all

end FreeNames

/-- The names that a statement or an expression uses and does not declare. -/
def Tree.freeNames (t : Tree) : List Use := (t.recurse FreeNames.step).asExpression

end QuietEmit.Syntax
