/-
  QuietEmit.Erasure.Module

  Modules without types: imports that only types need are dropped, and so are
  exports of types. A module that loses all its imports and exports says that
  it exports nothing, so that it stays a module.
-/
import QuietEmit.Erasure.Types

namespace QuietEmit.Erasure

open Syntax

/-! ## Uses of names -/

/-- What is known about the names of a module. -/
structure Names where
  /-- Uses of names from inside the module. -/
  uses : List Use
  /-- Names given by an equal sign that stand for no value. -/
  unneeded : List String
  declared : List Declared
  /-- Names that imports bring in. -/
  imported : List String
  /-- Names that markup stands for. -/
  markup : List String
  /-- Names of values that exist elsewhere. -/
  ambient : List String
  /-- Names that stand for values without being imported. -/
  ownValues : List String
deriving Inhabited

/-- The names that a tree's markup stands for. -/
def markupNames (r : ElementCalls) : Tree → List String :=
  let root (n : String) : String := (n.splitOn ".").headD ""
  Tree.recurse fun form _ parts =>
    let inside := (parts.flatMap Prod.snd).eraseDups
    match form with
    | .jsxElement => root r.elementName :: inside
    | .jsxFragment => root r.fragmentName :: inside
    | _ => inside

/-- Whether a statement is an import. -/
def isImport (t : Tree) : Bool :=
  match t.form with
  | .importDeclaration _ _ => true
  | _ => false

/-- The names that stand for values of a module. -/
def moduleValues (t : Tree) : List String :=
  let own := (t.scopes.getLast?.map NameScope.own).getD []
  (own.filter fun d => d.meaning.isValue).map Declaration.name

/-- Whether some uses of a name need a value. -/
def needValue (uses : List Use) (n : String) : Bool :=
  uses.any fun u => u.name == n && (u.usage == .value || u.usage == .export_)

/-- The uses of names in statements, after those before them, and the names given by an equal sign
that stand for no value. What such a name is given to is not used as a value. -/
def usesAfter (before : List Use) (unneeded : List String) : List Tree → List Use × List String
  | [] => (before, unneeded)
  | s :: rest =>
    match s with
    | .node (.importEquals _) _ (n :: _) =>
      let name := n.name?.getD ""
      if needValue (before ++ rest.flatMap Tree.freeNames) name then
        usesAfter (before ++ s.freeNames) unneeded rest
      else usesAfter before (name :: unneeded) rest
    | _ => usesAfter (before ++ s.freeNames) unneeded rest

/-- The names of a module. -/
def Names.ofModule (r : ElementCalls) (t : Tree) : Names :=
  let ss := (t.part 1).parts
  let (uses, unneeded) := usesAfter [] [] ss
  { uses
    unneeded
    declared := ss.flatMap fun s => s.declaredNames
    imported := (ss.filter isImport).flatMap fun s => s.declaredNames.map Declared.name
    markup := markupNames r t
    ambient := (ss.filter Tree.isAmbientValue).flatMap fun s => s.declaredNames.map Declared.name
    ownValues := moduleValues t }

namespace Names

/-- Whether an imported name may stand for a value that the module uses. -/
def needsValue (names : Names) (n : String) : Bool :=
  needValue names.uses n || names.markup.contains n

/-- Whether a name that is imported stays imported: it may stand for a value, and nothing else in
the module gives it one. -/
def keepsImport (names : Names) (n : String) : Bool :=
  names.needsValue n && !names.ownValues.contains n

/-- Whether a name stands for no value of the module: only for types, or only for values that
exist elsewhere. -/
def isErased (names : Names) (n : String) : Bool :=
  let own := names.declared.filter (·.name == n)
  let ambient := names.ambient.filter (· == n)
  !own.isEmpty && (own.all (fun d => !d.isValue) || ambient.length == own.length)

end Names

/-! ## Imports and exports -/

/-- An import without what only types need. -/
def keptImport? (names : Names) (t : Tree) : Option Tree :=
  match t with
  | .node (.importDeclaration true _) _ _ => none
  | .node (.importDeclaration false phase) span [specifiers, source, attributes] =>
    if specifiers.isAbsent then some t
    else if specifiers.parts.isEmpty then
      some (.node (.importDeclaration false phase) span [.none, source, attributes])
    else
      let kept := specifiers.parts.filter fun s =>
        match s with
        | .node (.importSpecifier typeOnly) _ [_, l] =>
          !typeOnly && names.keepsImport (l.name?.getD "")
        | .node _ _ [l] => names.keepsImport (l.name?.getD "")
        | _ => false
      if kept.isEmpty then none
      else some (.node (.importDeclaration false phase) span [.list kept, source, attributes])
  | _ => some t

/-- An export without types. -/
def keptExport? (names : Names) (t : Tree) : Option Tree :=
  match t with
  | .node (.exportNamed typeOnly) span [d, specifiers, source, attributes] =>
    if typeOnly then none
    else if d.isPresent then some t
    else if specifiers.parts.isEmpty then some t
    else
      let kept := specifiers.parts.filter fun s =>
        match s with
        | .node (.exportSpecifier typeOnly) _ (l :: _) =>
          !typeOnly && (source.isPresent || !names.isErased (l.name?.getD ""))
        | _ => false
      if kept.isEmpty then none
      else some (.node (.exportNamed false) span [d, .list kept, source, attributes])
  | .node .exportDefault _ [e] =>
    match e.name? with
    | some n => if names.isErased n then none else some t
    | none => if e.isAbsent then none else some t
  | .node (.exportAll typeOnly) _ _ => if typeOnly then none else some t
  | _ => some t

/-- The statement that stands for a statement of the module, if one is left. Those that import
or export are marked when they are dropped. -/
inductive Outcome where
  | kept (t : Tree)
  | dropped
  | droppedLink

/-- Whether a statement imports or exports. -/
def isLink (t : Tree) : Bool :=
  match t.form with
  | .importDeclaration _ _ | .exportNamed _ | .exportDefault | .exportAll _ => true
  | _ => false

/-- A statement without types: `written` as it stands in the module, `erased` without types. An
exported namespace that leaves nothing is no link. -/
def outcome (setting : Setting) (names : Names) (written erased : Tree) : Outcome :=
  match written with
  | .node (.exportNamed _) span (d :: _) =>
    match d.form with
    | .importEquals _ =>
      let t := importVariable true d
      if t.isAbsent then .droppedLink
      else .kept (.node (.exportNamed false) span [t, .list [], .none, .none])
    | .moduleDeclaration _ false =>
      if (erased.part 0).isAbsent then .dropped else .kept erased
    | _ =>
      if d.isPresent && (erased.part 0).isAbsent then .droppedLink
      else
        match keptExport? names erased with
        | some t => .kept t
        | none => .droppedLink
  | .node (.importDeclaration _ _) _ _ =>
    match keptImport? names erased with
    | some t => .kept t
    | none => .droppedLink
  | .node .exportDefault _ _ | .node (.exportAll _) _ _ =>
    match keptExport? names erased with
    | some t => .kept t
    | none => .droppedLink
  | .node (.importEquals _) _ (n :: _) =>
    let t := importVariable (!names.unneeded.contains (n.name?.getD "")) written
    if t.isAbsent then .dropped else .kept t
  | .node .exportAssignment span [e] =>
    .kept (Build.statement span
      (Build.assign (Build.member (Build.name "module") "exports") (withoutTypes setting e)))
  | _ => if erased.isAbsent then .dropped else .kept erased

/-! ## Modules -/

/-- The faults of the namespaces in a statement: variables that are exported, and names that are
strings. -/
def namespaceFaults : Tree → List Fault :=
  Tree.recurse fun form _ parts =>
    let inside := parts.flatMap Prod.snd
    match form, parts.map Prod.fst with
    | .moduleDeclaration _ true, _ => []
    | .moduleDeclaration _ false, .node (.string _ _) _ _ :: _ => [.ambientModule]
    | .exportNamed _, .node (.variableList kind false) _ ds :: _ =>
      if kind == .const then [] else ds.map fun _ => .mutableNamespaceExport
    | .moduleDeclaration _ false, _ | .namespaceBody, _ | .exportNamed _, _ | .list, _ => inside
    | _, _ => []

/-- The other faults of a statement. -/
def faultsOf : Tree → List Fault :=
  Tree.recurse fun form _ parts =>
    let inside := parts.flatMap Prod.snd
    match form, parts.map Prod.fst with
    | .moduleDeclaration _ true, _ => []
    | _, trees => inside ++ Markup.faultsOf form trees

/-- Statements with imports added after the imports at their head. -/
def withImports (imports ss : List Tree) : List Tree :=
  let (head, rest) := ss.span isImport
  head ++ imports ++ rest

/-- A module without types. -/
def typedModule (comments : List Comment) (t : Tree) : Tree × List Fault :=
  let calls := ElementCalls.ofComments comments
  let taken := takenNames t
  let setting : Setting := ⟨⟨calls, taken⟩, Namespace.Outline.ofModule t⟩
  let names := Names.ofModule calls t
  match t with
  | .node .program span [directives, body] =>
    let outcomes := body.parts.map fun s => outcome setting names s (withoutTypes setting s)
    let kept := outcomes.filterMap fun o =>
      match o with
      | .kept t => some t
      | _ => none
    let lost := outcomes.any fun o =>
      match o with
      | .droppedLink => true
      | _ => false
    let lowered := Namespace.lowerAll setting.outline (t.height + 1) taken
      (kept.map (Enumeration.lowerTop setting.outline.sites))
    let imports := Markup.imports setting.markup t
    let ending := if lost && imports.isEmpty && !lowered.any isLink then [Build.exportNothing] else []
    let namespaces := body.parts.flatMap fun s =>
      match s.declarationOf.form with
      | .moduleDeclaration _ _ => namespaceFaults s.declarationOf
      | _ => []
    (.node .program span [directives, .list (withImports imports lowered ++ ending)],
      calls.faults ++ namespaces ++ body.parts.flatMap faultsOf)
  | _ => (t, [])

/-- A module without markup; it has no types. -/
def plainModule (comments : List Comment) (t : Tree) : Tree × List Fault :=
  let m : MarkupSetting := ⟨ElementCalls.ofComments comments, takenNames t⟩
  let lowered := t.recurse fun form span parts => Markup.lower m form span (parts.map Prod.snd)
  let faults := t.recurse fun form _ parts =>
    parts.flatMap Prod.snd ++ Markup.faultsOf form (parts.map Prod.fst)
  let faults := m.calls.faults ++ faults
  match lowered with
  | .node .program span [directives, body] =>
    (.node .program span [directives, .list (withImports (Markup.imports m t) body.parts)], faults)
  | _ => (lowered, faults)

end QuietEmit.Erasure
