/-
  QuietEmit.Erasure.Markup

  Elements of markup as calls: the element's name, its attributes and children,
  and its key. The calls are of imported functions, which take attributes and
  children as one object, or of functions that the module names, which take the
  children as arguments.
-/
import QuietEmit.Erasure.Entity
import QuietEmit.Erasure.FreshName
import QuietEmit.Erasure.ElementCalls
import QuietEmit.Syntax.Build
import QuietEmit.Syntax.Lexer

namespace QuietEmit.Erasure

open Syntax

/-- What elements are lowered with: the functions they call, and the names of the module. -/
structure MarkupSetting where
  calls : ElementCalls := {}
  taken : List String := []
deriving Inhabited

namespace Markup

/-! ## Texts -/

/-- The text between tags: each line without the blanks at its ends, except at the ends of the
whole text; lines of blanks are dropped and the others joined by one blank. -/
def cleaned (raw : String) : Option String :=
  let lines := raw.toList.splitOnP Lexer.isLineEnd
  let count := lines.length
  let trimmed := lines.mapIdx fun i line =>
    let line := if i == 0 then line else line.dropWhile Lexer.isBlank
    if i + 1 == count then line else (line.reverse.dropWhile Lexer.isBlank).reverse
  let kept := trimmed.filter fun line => !line.isEmpty
  if kept.isEmpty then none
  else some (String.ofList (List.intercalate [' '] (kept.map Entity.decoded)))

/-! ## Names -/

/-- The imported functions, each needed by some calls. -/
inductive Factory where
  | single
  | many
  | fragment
  /-- For a key after spread attributes. -/
  | element
deriving DecidableEq, Repr

/-- The name a factory is imported by. -/
def Factory.exported : Factory → String
  | .single => "jsx"
  | .many => "jsxs"
  | .fragment => "Fragment"
  | .element => "createElement"

/-- The name a factory has in the module. -/
def Factory.localName (m : MarkupSetting) (f : Factory) : String := freshName f.exported m.taken

/-- A name with dots as an expression. -/
def dotted (n : String) : Tree :=
  match n.splitOn "." with
  | first :: rest =>
    rest.foldl Build.member (if first == "this" then Build.made .this [] else Build.name first)
  | [] => Build.name n

/-- The name of an element: a string if it starts with a small letter or has a hyphen or colon. -/
def elementName (span : Span) (n : String) : Tree :=
  let small := n.toList.head?.any Char.isLower
  let t :=
    if n.toList.contains '.' || n == "this" then dotted n
    else if small || n.toList.any (fun c => c == '-' || c == ':') then Build.text n
    else Build.name n
  t.withSpan span

/-- The key of an attribute or of the children. -/
def propertyKey (n : String) : Tree :=
  if n.toList.any fun c => c == '-' || c == ':' then Build.text n else Build.name n

/-! ## Attributes and children -/

/-- The value of an attribute. Without one, and without anything between its braces, it is true. -/
def attributeValue (t : Tree) : Tree :=
  let yes := Build.made (.boolean true) []
  match t with
  | .node (.jsxString raw) _ _ => Build.text (String.ofList (Entity.decoded raw.toList))
  | .node .jsxContainer _ [e] => if e.isAbsent then yes else e
  | .node .absent _ _ => yes
  | _ => t

/-- The children that are not nothing. -/
def children (ts : List Tree) : List Tree :=
  ts.filterMap fun t =>
    match t with
    | .node (.jsxText raw) _ _ => (cleaned raw).map Build.text
    | .node .jsxContainer _ [e] => if e.isAbsent then none else some e
    | .node .jsxSpreadChild span [e] => some (.node .spread span [e])
    | _ => some t

/-- A child as a value: of children that are spread, the array of them. -/
def childValue (t : Tree) : Tree :=
  match t.form with
  | .spread => Build.made .array [t]
  | _ => t

/-- The name of an attribute. -/
def attributeName? (t : Tree) : Option String :=
  match t with
  | .node .jsxAttribute _ (.node (.jsxName n) _ _ :: _) => some n
  | _ => none

/-- Whether an attribute is a key with a value. -/
def isKey (t : Tree) : Bool := attributeName? t == some "key" && (t.part 1).isPresent

/-- Whether a key follows spread attributes. -/
def keyAfterSpread : Bool → List Tree → Bool
  | _, [] => false
  | spread, a :: rest =>
    match a.form with
    | .jsxSpreadAttribute => keyAfterSpread true rest
    | _ => (spread && attributeName? a == some "key") || keyAfterSpread spread rest

/-- Whether an object sets what it inherits from. -/
def setsPrototype (ps : List Tree) : Bool :=
  ps.any fun p =>
    match p with
    | .node (.property false false) _ (key :: _) =>
      match key.form with
      | .identifier n | .string n _ => n == "__proto__"
      | _ => false
    | _ => false

/-- The properties of attributes; the key is left out unless it stays among them. -/
def properties (keepKey : Bool) (attributes : List Tree) : List Tree :=
  attributes.flatMap fun a =>
    match a with
    | .node .jsxAttribute span [.node (.jsxName n) _ _, value] =>
      if isKey a && !keepKey then []
      else [(Build.property (propertyKey n) (attributeValue value)).withSpan span]
    | .node .jsxSpreadAttribute around [.node .object span ps] =>
      if setsPrototype ps then [.node .spread around [.node .object span ps]] else ps
    | .node .jsxSpreadAttribute around [e] => [.node .spread around [e]]
    | _ => []

/-! ## Elements -/

/-- The call for an element by a function that the module names, or by an imported one that is
called like it. Nothing stands for no attributes, and spread attributes alone for themselves. -/
def namedCall (span : Span) (factory callee : Tree) (attributes inner : List Tree) : Tree :=
  let argument : Tree := match attributes with
    | [.node .jsxSpreadAttribute _ [.node .object span ps]] =>
      if setsPrototype ps then Build.object (properties true attributes)
      else .node .object span ps
    | [.node .jsxSpreadAttribute _ [e]] => e
    | [] => Build.made .null []
    | _ => Build.object (properties true attributes)
  Build.pureCallAt span factory (callee :: argument :: inner)

/-- The call for an element by an imported function. -/
def importedCall (m : MarkupSetting) (span : Span) (callee : Tree) (attributes inner : List Tree) : Tree :=
  let key : List Tree := (attributes.filter isKey).getLast?.toList.map fun a =>
    attributeValue (a.part 1)
  let nested : List Tree := match inner with
    | [] => []
    | [one] => [Build.property (Build.name "children") (childValue one)]
    | _ => [Build.property (Build.name "children") (Build.made .array (inner.map childValue))]
  let factory : Factory := if inner.length > 1 then .many else .single
  Build.pureCallAt span (Build.name (factory.localName m))
    (callee :: Build.object (properties false attributes ++ nested) :: key)

/-- The call for an element. -/
def element (m : MarkupSetting) (span : Span) (callee : Tree) (attributes childTrees : List Tree) :
    Tree :=
  let inner := children childTrees
  if m.calls.isNamed then namedCall span (dotted m.calls.elementName) callee attributes inner
  else if keyAfterSpread false attributes then
    namedCall span (Build.name (Factory.element.localName m)) callee attributes inner
  else importedCall m span callee attributes inner

/-- The call for an element or fragment whose parts are lowered already. -/
def lower (m : MarkupSetting) (form : Form) (span : Span) (parts : List Tree) : Tree :=
  match form, parts with
  | .jsxElement, [.node (.jsxName n) place _, _, attributes, inner, _] =>
    element m span (elementName place n) attributes.parts inner.parts
  | .jsxFragment, [inner] =>
    let callee :=
      if m.calls.isNamed then dotted m.calls.fragmentName
      else Build.name (Factory.fragment.localName m)
    element m span callee [] inner.parts
  | _, _ => .node form span parts

/-! ## Faults -/

/-- The faults of an element, after those inside it. -/
def faultsOf (form : Form) (parts : List Tree) : List Fault :=
  match form, parts with
  | .jsxElement, [.node (.jsxName n) _ _, _, attributes, _, _] =>
    attributes.parts.flatMap (fun a =>
      if attributeName? a == some "key" && !isKey a then [.keyWithoutValue] else []) ++
      (if n.toList.contains ':' then [.namespacedElement] else [])
  | _, _ => []

/-! ## Imports -/

/-- The factories that a tree needs, in the order its calls need them. -/
def factories : Tree → List Factory :=
  Tree.recurse fun form _ parts =>
    let inside := parts.flatMap Prod.snd
    let tree (i : Nat) : Tree := ((parts[i]?).map Prod.fst).getD Tree.none
    let call (inner : Tree) : Factory :=
      if (children inner.parts).length > 1 then .many else .single
    match form with
    | .jsxElement =>
      inside ++ [if keyAfterSpread false (tree 2).parts then .element else call (tree 3)]
    | .jsxFragment => inside ++ [.fragment, call (tree 0)]
    | _ => inside

/-- The import of some factories. -/
def importOf (m : MarkupSetting) (source : String) (fs : List Factory) : Tree :=
  Build.made (.importDeclaration false .none)
    [.list (fs.map fun f =>
      Build.made (.importSpecifier false) [Build.name f.exported, Build.name (f.localName m)]),
     Build.text source, .none]

/-- The imports that a module with markup needs; the module that is needed first comes first. -/
def imports (m : MarkupSetting) (t : Tree) : List Tree :=
  let used := if m.calls.isNamed then [] else (factories t).eraseDups
  let (elements, others) := used.partition (· == .element)
  let ofElements :=
    if elements.isEmpty then [] else [importOf m m.calls.source elements]
  let ofOthers :=
    if others.isEmpty then [] else [importOf m (m.calls.source ++ "/jsx-runtime") others]
  if used.head? == some .element then ofElements ++ ofOthers else ofOthers ++ ofElements

end Markup

end QuietEmit.Erasure
