/-
  QuietEmit.Declaration.Module

  The declarations of a module: what it exports, with types and without values,
  and what the exported declarations refer to.
-/
import QuietEmit.Declaration.Class
import QuietEmit.Erasure.Enumeration

namespace QuietEmit.Declaration

open Syntax

/-! ## Declarations -/

/-- A declared variable. One with a pattern cannot be declared, which is noted for the names that
are wanted. -/
def declarator? (fuel : Nat) (keep : Declared → Bool) (kind : VariableKind) (t : Tree) :
    Declaring (Option Tree) := do
  match t with
  | .node (.declarator definite) span [.node (.binding _) bSpan [pattern, type], value] =>
    match pattern.name? with
    | none =>
      for d in FreeNames.values pattern.boundNames do
        if keep d then note .bindingElement
      return none
    | some n =>
      if !keep ⟨n, true, false⟩ then return none
      let made (type value : Tree) : Tree :=
        .node (.declarator definite) span [.node (.binding false) bSpan [pattern, type], value]
      if type.isPresent then return some (made type .none)
      else if value.isPresent && kind == .const && isPlainValue value then
        return some (made .none (plainValue value))
      else
        let type? ← if value.isPresent then typeOf? fuel .widened value else pure none
        match type? with
        | some t => return some (made (colon t) .none)
        | none =>
          if !isFunction value then note .variableType
          return some (made (colon (wordType "unknown")) .none)
  | _ => return none

/-- Declared variables, as many as are wanted. -/
def variableList (fuel : Nat) (isDeclare : Bool) (keep : Declared → Bool) (t : Tree) :
    Declaring Tree := do
  match t with
  | .node (.variableList kind _) span ds =>
    return .node (.variableList kind isDeclare) span (← ds.filterMapM (declarator? fuel keep kind))
  | _ => return t

/-- A declared function. -/
def function (fuel : Nat) (isDeclare : Bool) (t : Tree) : Declaring Tree := do
  match t with
  | .node (.function _) span [name, tps, ps, result, body] =>
    let r ← functionResult? fuel (.node (.function {}) span [name, tps, ps, result, body])
    let isAsync := match t.form with
      | .function traits => traits.isAsync || traits.isGenerator
      | _ => false
    let r := if isAsync && result.isAbsent then none else r
    if r.isNone then note .functionResult
    let ps ← parameters fuel ps
    return .node (.function { isDeclare }) span [name, tps, ps, colon? r, .none]
  | _ => return t

/-- An expression whose templates say no more than the texts in them. -/
def withoutSubstitutions (t : Tree) : Tree :=
  t.recurse fun form span parts => plainValue (.node form span (parts.map Prod.snd))

/-- The members of an enumeration with their values. -/
def enumMembers (enum : String) :
    Erasure.Members → Option Constant → List Tree → Declaring (List Tree)
  | _, _, [] => return []
  | before, previous, m :: rest => do
    let n := Erasure.Enumeration.memberName (m.part 0)
    let value : Option Constant ←
      if (m.part 1).isPresent then do
        let v := Constant.ofExpression?
          (Erasure.Enumeration.value? [(enum, before)] before) (withoutSubstitutions (m.part 1))
        if v.isNone then note .enumValue
        pure v
      else
        match previous with
        | some (.number x) => pure (some (.number (x + 1)))
        | _ => pure none
    let here := m.withParts
      [m.part 0, (value.map Erasure.Enumeration.constant).getD .none]
    let known := value.toList.map fun v => (n, some v)
    return here :: (← enumMembers enum (known ++ before) value rest)

/-- A declared enumeration. -/
def enumeration (isDeclare : Bool) (t : Tree) : Declaring Tree := do
  match t with
  | .node (.enum isConst _) span [name, ms] =>
    let members ← enumMembers (name.name?.getD "") [] (some (.number (-1))) ms.parts
    return .node (.enum isConst isDeclare) span [name, .node .list ms.span members]
  | _ => return t

/-- Members of an interface where the accessors of a name share the type that one of them has. -/
def sharingTypes (ms : List Tree) : List Tree :=
  let setterType (t : Tree) : Tree := ((((t.part 2).part 0).part 1).part 1)
  let other (kind : MethodKind) (n : Option String) : Option Tree := ms.find? fun m =>
    match m.form with
    | .methodSignature k m' =>
      k == kind && n.isSome && fixedName? m'.isComputed (m.part 0) == n
    | _ => false
  ms.map fun m =>
    match m with
    | .node (.methodSignature .get mods) span [key, tps, ps, result] =>
      match result.isAbsent, other .set (fixedName? mods.isComputed key) with
      | true, some s => .node (.methodSignature .get mods) span [key, tps, ps, setterType s]
      | _, _ => m
    | .node (.methodSignature .set mods) span
        [key, tps, .node .list pSpan (.node form iSpan [ds, .node bForm bSpan [n, type]] :: rest), result] =>
      match type.isAbsent, other .get (fixedName? mods.isComputed key) with
      | true, some g =>
        .node (.methodSignature .set mods) span
          [key, tps, .node .list pSpan (.node form iSpan
            [ds, .node bForm bSpan [n, g.part 3]] :: rest), result]
      | _, _ => m
    | _ => m

/-- Whether a computed name of a signature can be declared: a literal, a variable, or a name with
dots. -/
def isDottedKey : Tree → Bool :=
  Tree.recurse fun form span parts =>
    match form, parts with
    | .identifier _, _ => true
    | .member false, (_, left) :: _ => left
    | _, _ => isLiteralKey (.node form span (parts.map Prod.fst))

/-- The faults of the signatures in a type. -/
def signatureFaults : Tree → List Fault :=
  Tree.recurse fun form _ parts =>
    let inside := parts.flatMap Prod.snd
    let ofKey (m : Modifiers) : List Fault :=
      match parts with
      | (key, _) :: _ => if m.isComputed && !isDottedKey key then [.signatureName] else []
      | [] => []
    match form with
    | .propertySignature m => ofKey m ++ inside
    | .methodSignature kind m =>
      let isTyped := parts.getLast?.any fun p => p.1.isPresent
      let ofResult : List Fault := match kind with
        | .get => if isTyped then [] else [.accessorResult]
        | .method => if isTyped then [] else [.expressionType]
        | _ => []
      ofKey m ++ ofResult ++ inside
    | _ => inside

/-- The declaration of a type: accessors share their types, and what its signatures lack is
noted. -/
def typeDeclaration (t : Tree) : Declaring Tree := do
  let shared := t.recurse fun form span parts =>
    let results := parts.map Prod.snd
    match form, results with
    | .typeLiteral, _ => .node form span (sharingTypes results)
    | .interface _, [name, tps, extended, ms] =>
      .node form span [name, tps, extended, ms.withParts (sharingTypes ms.parts)]
    | _, _ => .node form span results
  for f in signatureFaults shared do note f
  return shared

/-! ## Statements -/

/-- Whether a statement imports or exports. -/
def isLink (t : Tree) : Bool :=
  match t.form with
  | .importDeclaration _ _ | .exportNamed _ | .exportDefault | .exportAll _ | .exportAssignment
  | .namespaceExport => true
  | _ => false

/-- Whether a statement declares something outside the module. -/
def isAmbientModule (t : Tree) : Bool :=
  match t with
  | .node (.moduleDeclaration .global _) _ _ => true
  | .node (.moduleDeclaration _ _) _ (.node (.string _ _) _ _ :: _) => true
  | _ => false

/-- Statements without the implementations of overloaded functions. -/
def withoutImplementations : Option String → List Tree → List Tree
  | _, [] => []
  | overloaded, s :: rest =>
    match s.declarationOf with
    | .node (.function traits) _ [name, _, _, _, body] =>
      let n := name.name?.getD ""
      if body.isAbsent then
        s :: withoutImplementations (if traits.isDeclare then overloaded else some n) rest
      else if overloaded == some n then withoutImplementations none rest
      else s :: withoutImplementations none rest
    | _ => s :: withoutImplementations overloaded rest

/-- Statements whose declarations are not said to be exported. -/
def withoutExports (ss : List Tree) : List Tree :=
  ss.map fun s =>
    match s with
    | .node (.exportNamed _) _ (d :: _) => if d.isPresent then d else s
    | _ => s

/-- An import of the names that are used, whenever it is evaluated. -/
def import? (uses : List String) (t : Tree) : Option Tree :=
  match t with
  | .node form span [specifiers, source, attributes] =>
    if specifiers.isAbsent then some t
    else
      let kept := specifiers.parts.filter fun s =>
        match (s.parts.getLastD .none).name? with
        | some n => uses.contains n
        | none => false
      let form : Form := match form with
        | .importDeclaration typeOnly _ => .importDeclaration typeOnly .none
        | _ => form
      if kept.isEmpty then none else some (.node form span [.list kept, source, attributes])
  | _ => none

/-- A name that a declaration refers to. -/
structure Reference where
  name : String
  /-- It stands for a value there, not for a type alone. -/
  isValue : Bool
deriving Inhabited

/-- Whether a declared name is what a reference may mean: what is a value and no type is not meant
by the name of a type. -/
def Reference.isOf (r : Reference) (d : Declared) : Bool :=
  r.name == d.name && (r.isValue || d.isType)

/-- The names that a declaration refers to, wherever they are declared. -/
def references : Tree → List Reference :=
  Tree.recurse fun form _ parts =>
    match form, parts with
    | .identifier n, _ => [⟨n, true⟩]
    | .typeReference, (_, ofName) :: rest | .heritage, (_, ofName) :: rest =>
      ofName.map (fun r => { r with isValue := false }) ++ rest.flatMap Prod.snd
    | .exportNamed _, [(d, ofDeclaration), (_, ofSpecifiers), (source, _), _] =>
      if source.isPresent then [] else if d.isPresent then ofDeclaration else ofSpecifiers
    | _, _ =>
      let skipped (i : Nat) (t : Tree) : Bool :=
        (form.memberParts ++ form.labelParts).contains i ||
          form.bindingParts.contains i && t.name?.isSome
      (parts.mapIdx fun i p => if skipped i p.1 then [] else p.2).flatten

/-- The names that the declarations of an exported statement refer to. One of variables that exist
elsewhere is taken as it is, and does not count. -/
def exportReferences (written : Tree) (declared : List Tree) : List Reference :=
  match written with
  | .node (.exportNamed _) _ (.node (.variableList _ true) _ _ :: _) => []
  | _ => declared.flatMap references

/-- The first of `base`, `base_1`, `base_2`, … that is not used; one of as many as the names in use
and one more is not. -/
def unusedName (uses : List String) (base : String) : String :=
  let numbered := (List.range uses.length).map fun i => base ++ "_" ++ toString (i + 1)
  ((base :: numbered).find? fun n => !uses.contains n).getD base

/-- A variable that stands for an exported expression, and the expression that names it. -/
def exportedExpression (fuel : Nat) (isDeclare : Bool) (uses : List String) (e : Tree) :
    Declaring (List Tree × Tree) := do
  match e.name? with
  | some _ => return ([], e)
  | none =>
    let type? ← typeOf? fuel .widened e
    if type?.isNone then note .defaultExport
    let n := unusedName uses "_default"
    let v := Build.declaring ⟨0, 0⟩ .const n (colon? type?) .none
    let v := match v.form with
      | .variableList kind _ => v.withForm (.variableList kind isDeclare)
      | _ => v
    return ([v], Build.name n)

/-! ## Properties of functions -/

/-- The names of the functions that a statement exports, with a body. -/
def exportedFunctions (s : Tree) : List String :=
  if !isLink s then []
  else
    match s.declarationOf with
    | .node (.function _) _ [n, _, _, _, body] => if body.isPresent then n.name?.toList else []
    | .node (.variableList _ _) _ ds => ds.filterMap fun d =>
      match d with
      | .node (.declarator _) _ [.node (.binding _) _ [n, type], value] =>
        if type.isAbsent && isFunction value then n.name? else none
      | _ => none
    | _ => []

/-- The plain names that namespaces of that name export. -/
def namespaceNames (n : String) (ss : List Tree) : List String :=
  let plainNames (d : Tree) : List String :=
    match d.form with
    | .variableList _ _ => d.parts.filterMap fun v => ((v.part 0).part 0).name?
    | _ => d.declaredNames.map Declared.name
  ss.flatMap fun s =>
    match s.declarationOf with
    | .node (.moduleDeclaration _ _) _ [name, body] =>
      if name.name? == some n then
        body.statements.flatMap fun s =>
          match s with
          | .node (.exportNamed _) _ (d :: _) => plainNames d
          | _ => []
      else []
    | _ => []

/-- Note the properties that statements give to functions exported before them, given the names of
those. A namespace of the same name may declare them. -/
def noteFunctionProperties (all : List Tree) : List String → List Tree → Declaring Unit
  | _, [] => return
  | functions, s :: rest => do
    match s with
    | .node .expression _ [.node (.assign _) _ [.node (.member false) _ [o, p], _]] =>
      match o.name?, p.name? with
      | some n, some property =>
        if functions.contains n && !(namespaceNames n all).contains property then
          note .functionProperty
      | _, _ => pure ()
    | _ => pure ()
    noteFunctionProperties all (exportedFunctions s ++ functions) rest

/-! ## What is needed -/

/-- A declaration, or one variable of several, with the number of its statement. -/
structure Piece where
  index : Nat
  tree : Tree

/-- The pieces of a statement that are declared only where they are needed. -/
def Piece.ofStatement (index : Nat) (s : Tree) : List Piece :=
  match s with
  | .node (.variableList kind isDeclare) span ds =>
    ds.map fun d => ⟨index, .node (.variableList kind isDeclare) span [d]⟩
  | _ => if isLink s || isAmbientModule s then [] else [⟨index, s⟩]

/-- What is declared so far. -/
structure Progress where
  /-- The names that it refers to. -/
  uses : List Reference := []
  declared : List Piece := []

/-- Declare a tree, too. -/
def Progress.add (p : Progress) (piece : Piece) : Progress :=
  ⟨p.uses ++ references piece.tree, p.declared ++ [piece]⟩

/-- The declared pieces of a statement with that number; variables of one statement are put
together again. A statement of several variables stays even if none of them is needed. -/
def Progress.ofStatement (p : Progress) (isDeclare : Bool) (index : Nat) (s : Tree) : List Tree :=
  match (p.declared.filter fun piece => piece.index == index).map Piece.tree with
  | .node form span ds :: rest =>
    match form with
    | .variableList _ _ => [.node form span (ds ++ rest.flatMap Tree.parts)]
    | _ => .node form span ds :: rest
  | [] =>
    match s with
    | .node (.variableList kind _) span (_ :: _ :: _) =>
      [.node (.variableList kind isDeclare) span []]
    | _ => []

mutual

/-- A declaration as it is declared, if it is wanted. -/
def declaration? (isDeclare : Bool) (keep : Declared → Bool) :
    Nat → Tree → Declaring (Option Tree)
  | 0, _ => return none
  | fuel + 1, t => do
    let wanted := t.declaredNames.any keep
    match t.form with
    | .variableList _ _ =>
      let vs ← variableList fuel isDeclare keep t
      return if vs.parts.isEmpty then none else some vs
    | .function _ => if wanted then return some (← function fuel isDeclare t) else return none
    | .class_ _ _ => if wanted then return some (← class_ fuel isDeclare t) else return none
    | .enum _ _ => if wanted then return some (← enumeration isDeclare t) else return none
    | .interface _ | .typeAlias _ =>
      if wanted then return some (← typeDeclaration t) else return none
    | .importEquals _ => return if wanted then some t else none
    | .moduleDeclaration _ isDeclared =>
      if isAmbientModule t then return some t
      else if !wanted then return none
      else if isDeclared then return some t
      else
        let body ← match (t.part 1).form with
          | .moduleDeclaration _ _ => do
            match ← declaration? false (fun _ => true) fuel (t.part 1) with
            | some b => pure b
            | none => pure .none
          | _ => do
            let ss ← statements false fuel (t.part 1).statements
            pure ((t.part 1).withParts [.list [], .list ss])
        match t.form with
        | .moduleDeclaration keyword _ =>
          return some (.node (.moduleDeclaration keyword isDeclare) t.span [t.part 0, body])
        | _ => return none
    | _ => return none
termination_by fuel => (fuel, 0, 0)

/-- An export as it is declared, with what has to stand before it, given the names that exports
before it refer to. -/
def exported (isDeclare : Bool) (fuel : Nat) (uses : List String) (t : Tree) :
    Declaring (List Tree) := do
  match t with
  | .node (.exportNamed typeOnly) span [d, specifiers, source, attributes] =>
    match d.form with
    | .absent | .variableList _ true => return [t]
    -- Variables are declared even if none is left.
    | .variableList _ _ =>
      let d ← variableList fuel isDeclare (fun _ => true) d
      return [.node (.exportNamed typeOnly) span [d, specifiers, source, attributes]]
    | _ =>
      match ← declaration? isDeclare (fun _ => true) fuel d with
      | some d => return [.node (.exportNamed typeOnly) span [d, specifiers, source, attributes]]
      | none => return []
  | .node .exportDefault span [e] =>
    match e.form with
    | .function _ => return [.node .exportDefault span [← function fuel false e]]
    | .class_ _ _ => return [.node .exportDefault span [← class_ fuel false e]]
    | .interface _ => return [t]
    | _ =>
      let (before, e) ← exportedExpression fuel isDeclare uses e
      return before ++ [.node .exportDefault span [e]]
  | .node .exportAssignment span [e] =>
    let (before, e) ← exportedExpression fuel isDeclare uses e
    return before ++ [.node .exportAssignment span [e]]
  | .node (.exportAll _) _ _ | .node .namespaceExport _ _ => return [t]
  | .node (.moduleDeclaration keyword d) span [name, body] =>
    if !isAmbientModule t then return []
    match keyword with
    | .global => return [t]
    -- All that a module of that name declares is exported.
    | _ => return [.node (.moduleDeclaration keyword d) span
        [name, body.withStatements (withoutExports body.statements)]]
  | _ => return []
termination_by (fuel, 1, 0)

/-- The exports among statements as they are declared, each with what has to stand before it. -/
def allExported (isDeclare : Bool) (fuel : Nat) (uses : List String) :
    List Tree → Declaring (List (List Tree))
  | [] => return []
  | s :: rest => do
    let here ← exported isDeclare fuel uses s
    return here :: (← allExported isDeclare fuel (uses ++ (exportReferences s here).map Reference.name) rest)
termination_by ss => (fuel, 2, ss.length)

/-- Declare the pieces that are used by what is declared so far. -/
def needed (isDeclare : Bool) (fuel : Nat) (progress : Progress) :
    List Piece → Declaring (Progress × List Piece)
  | [] => return (progress, [])
  | piece :: rest => do
    let keep (d : Declared) : Bool := progress.uses.any fun r => r.isOf d
    match ← declaration? isDeclare keep fuel piece.tree with
    | some t => needed isDeclare fuel (progress.add ⟨piece.index, t⟩) rest
    | none =>
      let (progress, left) ← needed isDeclare fuel progress rest
      -- A pattern is seen once, as it is never declared.
      let isPattern := (piece.tree.declaredNames.any keep) && !piece.tree.declaredNames.isEmpty
      return (progress, if isPattern then left else piece :: left)
termination_by ps => (fuel, 2, ps.length)

/-- The same until no more is needed; in each of the `rounds` but the last a piece is declared. -/
def allNeeded (isDeclare : Bool) (fuel : Nat) : Nat → Progress → List Piece → Declaring Progress
  | 0, progress, _ => return progress
  | rounds + 1, progress, pieces => do
    let (next, left) ← needed isDeclare fuel progress pieces
    if next.declared.length == progress.declared.length then return next
    allNeeded isDeclare fuel rounds next left
termination_by rounds => (fuel, 3, rounds)

/-- The statements of a module or namespace that are declared: exports, and what they need.
Where a whole statement is kept that is not exported, or nothing is exported, that is said by
exporting nothing besides; in a namespace where all is exported the word is left out. -/
def statements (isDeclare : Bool) (fuel : Nat) (all : List Tree) : Declaring (List Tree) := do
  noteFunctionProperties all [] all
  let ss := withoutImplementations none all
  let exports ← allExported isDeclare fuel [] ss
  let start : Progress := ⟨(ss.zip exports).flatMap fun (s, here) => exportReferences s here, []⟩
  let pieces := (ss.mapIdx Piece.ofStatement).flatten
  let progress ← allNeeded isDeclare fuel (pieces.length + 1) start pieces
  let declared := (ss.zip exports).mapIdx fun i (s, exported) =>
    match s.form with
    | .importDeclaration _ _ => (import? (progress.uses.map Reference.name) s).toList
    | _ => exported ++ progress.ofStatement isDeclare i s
  let declared := declared.flatten
  let isMark (t : Tree) : Bool :=
    match t with
    | .node (.exportNamed _) _ (d :: _) => d.isAbsent
    | .node .exportDefault _ [e] =>
      match e.form with
      | .function _ | .class_ _ _ | .interface _ => false
      | _ => true
    | .node (.exportAll _) _ _ | .node .exportAssignment _ _ => true
    | _ => false
  let isWhole (index : Nat) (s : Tree) : Bool :=
    let count := (progress.declared.filter fun piece => piece.index == index).length
    count > 0 && count == (Piece.ofStatement index s).length
  let hasUnexported := (ss.mapIdx isWhole).any id
  let hasMark := declared.any isMark
  if !hasMark && (hasUnexported || !declared.any isLink) then
    return declared ++ [Build.exportNothing]
  else return if isDeclare then declared else withoutExports declared
termination_by (fuel, 4, 0)

end

/-! ## Modules -/

/-- The declarations of a module and the faults found on the way. A text without imports and
exports declares everything in it. -/
def ofModule (t : Tree) : Tree × List Fault :=
  let fuel := 2 * t.height + 16
  let ss := (t.part 1).parts
  let (declared, faults) :=
    if ss.any isLink then (statements true fuel ss).run []
    else
      let all : Declaring (List Tree) := do
        let declared ← (withoutImplementations none ss).mapM fun s =>
          match s.form with
          | .variableList _ true => pure (some s)
          | .variableList _ false => some <$> variableList fuel true (fun _ => true) s
          | _ => declaration? true (fun _ => true) fuel s
        return declared.filterMap id
      all.run []
  (.node .program t.span [.list [], .list declared], faults)

end QuietEmit.Declaration
