/-
  QuietEmit.Check.Types

  What modules with types forbid: members of enumerations without values, names
  that types of the language have, methods without bodies, and spellings of types
  from documentation.
-/
import QuietEmit.Check.Placement
import QuietEmit.Syntax.Printer.Literals

namespace QuietEmit.Check

open Syntax

/-- Names of types that the language itself has. -/
def ownTypeNames : List String :=
  ["any", "unknown", "never", "number", "bigint", "boolean", "string", "symbol", "void", "object",
    "undefined"]

/-- A declared type with a name that the language itself has. -/
def typeNamed (construct : String) (name : Tree) (place : Nat) : List Finding :=
  match name.name? with
  | some n => if ownTypeNames.contains n then [⟨place, .reservedTypeName construct n⟩] else []
  | none => []

/-! ## Enumerations -/

/-- Whether a member after one with this value may go without a value. -/
def countsOn (value : Tree) : Bool :=
  match value.inner.form with
  | .number _ | .identifier _ | .member _ | .computedMember _ | .unary _ => true
  | .binary operator => operator != "&&" && operator != "||" && operator != "??"
  | _ => false

/-- Members without a value after one that cannot be counted on; the findings stand at the end of
the enumeration. -/
def missingValues (place : Nat) : Bool → List Tree → List Finding
  | _, [] => []
  | needed, m :: rest =>
    if (m.part 1).isPresent then missingValues place (!countsOn (m.part 1)) rest
    else
      (if needed then [⟨place, .enumValueMissing⟩] else []) ++ missingValues place needed rest

/-! ## Members of classes -/

/-- The name of a key that is known without running the module; none for a private one. -/
def staticKey? (t : Tree) : Option String :=
  let computed := match t.form with
    | .method _ m => m.isComputed
    | _ => false
  match t.part 1 with
  | .node (.identifier n) _ _ => if computed then none else some n
  | .node (.string n _) _ _ => some n
  | .node (.number raw) _ _ => some (Literal.numberText (Literal.numberValue raw))
  | .node (.bigint raw) _ _ => some (Literal.bigintText raw)
  | .node (.template [text]) _ [] => some (StringLiteral.templateText text)
  | .node .null _ _ => some "null"
  | _ => none

/-- Methods without a body that no method of the same name follows. Names that are not known are
taken to be the same. -/
def missingBodies : List Tree → List Finding
  | [] => []
  | t :: rest =>
    let here : List Finding := match t.form with
      | .method kind m =>
        let follows := match rest with
          | next :: _ => match next.form with
            | .method _ _ => staticKey? next == staticKey? t
            | _ => false
          | [] => false
        if m.isAbstract || m.isOptional || ((t.part 2).part 4).isPresent || follows then []
        else
          [⟨t.span.stop,
            if kind == .constructor_ then .missingConstructorBody else .missingFunctionBody⟩]
      | _ => []
    here ++ missingBodies rest

/-- Abstract members of a class that is not. -/
def abstractMembers (members : List Tree) : List Finding :=
  members.filterMap fun t =>
    match t.form with
    | .method _ m =>
      if m.isAbstract then some ⟨t.span.stop, .abstractMember "methods"⟩ else none
    | .field m => if m.isAbstract then some ⟨t.span.stop, .abstractMember "properties"⟩ else none
    | _ => none

/-- Whether a parameter declares a member of its class. -/
def declaresMember (t : Tree) : Bool :=
  match t.form with
  | .parameter m => m.access.isSome || m.isReadonly || m.isOverride
  | _ => false

/-- Whether a method is a getter or setter. -/
def isAccessor (kind : MethodKind) : Bool := kind == .get || kind == .set

/-- The findings about a method at its end: abstract constructors, and what has to have a body. -/
def methodFaults (inDeclared : Bool) (kind : MethodKind) (m : Modifiers) (f : Tree) : List Fault :=
  let bare := (f.part 4).isAbsent
  (if m.isAbstract && kind == .constructor_ then [.abstractConstructor] else []) ++
    (if kind == .constructor_ && bare then
      ((f.part 2).parts.filter declaresMember).map fun _ => .parameterMember
    else []) ++
    if isAccessor kind && bare && !m.isAbstract && !inDeclared then [.missingAccessorBody] else []

/-! ## All of a module -/

/-- What surrounds a tree. -/
structure TypeContext where
  /-- Types may be written. -/
  typed : Bool
  /-- Everything is only declared. -/
  ambient : Bool
  /-- In a class that is declared. -/
  inDeclared : Bool := false
  /-- The type parameters of a class, an interface or an alias. -/
  isVariant : Bool := false
  /-- After the colon of a mapped type, which is no annotation. -/
  inMapped : Bool := false
deriving Inhabited

/-- A mark from documentation where a type is annotated. -/
def markFault (t : Tree) (place : Nat) : List Finding :=
  match t.form with
  | .markedType mark after => [⟨place, .markedType mark (if after then "end" else "start")⟩]
  | _ => []

/-- The elements of a pattern that have what only whole patterns may have. -/
def elementFaults (elements : List Tree) (place : Nat) : List Finding :=
  elements.flatMap fun e =>
    match e with
    | .node (.binding optional) _ [_, a] =>
      (if optional then [⟨place, .optionalElement⟩] else []) ++
        if a.isPresent then [⟨place, .typedElement⟩] else []
    | _ => []

/-- The findings in a tree, in what surrounds it, from those of its parts. -/
def typeStep (form : Form) (span : Span) (parts : List (Tree × (TypeContext → List Finding)))
    (c : TypeContext) : List Finding :=
  let trees := parts.map Prod.fst
  let tree (i : Nat) : Tree := trees.getD i .none
  let plain : TypeContext := { c with isVariant := false, inMapped := false }
  -- The parts, with what goes for the type parameters among them.
  let insideWith (c : TypeContext) (isVariant : Bool) : List Finding :=
    parts.flatMap fun p =>
      match p.1.form with
      | .typeParameters => p.2 { c with isVariant := isVariant }
      | _ => p.2 c
  let inside : List Finding := insideWith plain false
  let found (fault : Fault) : List Finding := [⟨span.stop, fault⟩]
  match form with
  | .enum _ _ =>
    inside ++ missingValues span.stop false (tree 1).parts ++ typeNamed "Enum" (tree 0) span.stop
  | .interface _ => insideWith plain true ++ typeNamed "Interface" (tree 0) span.stop
  | .typeAlias _ => insideWith plain true ++ typeNamed "Type alias" (tree 0) span.stop
  | .typeParameters => parts.flatMap fun p => p.2 c
  | .typeParameter _ isIn isOut =>
    inside ++ typeNamed "Type parameter" (tree 0) span.stop ++
      (if isIn && !c.isVariant then found (.varianceModifier "in") else []) ++
      if isOut && !c.isVariant then found (.varianceModifier "out") else []
  | .mappedType _ _ =>
    typeNamed "Type parameter" (tree 0) (tree 1).span.stop ++
      parts.flatMap fun p => p.2 { plain with inMapped := true }
  | .importEquals true =>
    match (tree 1).form with
    | .externalReference => []
    | _ => found .typeOnlyAlias
  | .class_ isAbstract isDeclare =>
    let members := (tree 6).parts
    let ambient := c.ambient || isDeclare
    insideWith { plain with ambient := ambient, inDeclared := isDeclare } true ++
      (if isAbstract then [] else abstractMembers members) ++
      (if c.typed then typeNamed "Class" (tree 1) span.stop else []) ++
      if ambient then [] else
        -- Every finding belongs to the class as a whole.
        (missingBodies members).map fun f => { f with place := span.stop }
  | .method kind m =>
    inside ++ (methodFaults c.inDeclared kind m (tree 2)).map fun f => ⟨span.stop, f⟩
  | .methodProperty kind _ =>
    inside ++
      if isAccessor kind && ((tree 1).part 4).isAbsent then found .missingAccessorBody else []
  | .moduleDeclaration keyword isDeclare =>
    let ambient := c.ambient || isDeclare
    insideWith { plain with ambient := ambient } false ++
      if keyword == .global && !ambient then found .globalWithoutDeclare else []
  | .arrayPattern => inside ++ elementFaults trees span.stop
  | .colonType => inside ++ if c.inMapped then [] else markFault (tree 0) span.stop
  | .predicate _ => inside ++ markFault (tree 1) (tree 1).span.stop
  | _ => inside

/-- What a module holds by way of types that it may not. -/
def typeFaults (typed ambient : Bool) (t : Tree) : List Finding :=
  t.recurse typeStep { typed, ambient }

end QuietEmit.Check
