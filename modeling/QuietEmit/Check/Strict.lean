/-
  QuietEmit.Check.Strict

  Where text is strict, and what strict text forbids: `with`, `delete` of a name,
  giving `eval` or `arguments` another value, giving an object two prototypes, octal
  numbers after a plain zero, and escapes of digits. Text is strict in classes, and in
  functions and scripts that say so. All of a module is.
-/
import QuietEmit.Check.Fault
import QuietEmit.Syntax.Names
import QuietEmit.Syntax.StringLiteral

namespace QuietEmit.Check

open Syntax

/-- Whether directives ask for strict text. -/
def asksStrict (directives : Tree) : Bool :=
  directives.parts.any fun d =>
    match d.form with
    | .directive "use strict" => true
    | _ => false

/-- The strict parts of a script. The name of a class is not one of them. -/
def strictParts : Tree → List Span :=
  Tree.recurse fun form span parts =>
    let tree (i : Nat) : Tree := ((parts[i]?).map Prod.fst).getD Tree.none
    let inside := parts.flatMap Prod.snd
    match form with
    | .program => if asksStrict (tree 0) then [span] else inside
    | .function _ => if asksStrict ((tree 4).part 0) then [span] else inside
    | .arrow _ => if asksStrict ((tree 3).part 0) then [span] else inside
    | .class_ _ _ => ⟨max span.start (tree 1).span.stop, span.stop⟩ :: inside
    | _ => inside

/-- Whether a place lies in strict text. -/
def isStrictAt (isModule : Bool) (t : Tree) : Nat → Bool :=
  if isModule then fun _ => true
  else
    let spans := strictParts t
    fun place => spans.any fun s => s.start < place && place ≤ s.stop

/-- Names that cannot be given another value. -/
def isFixedName (n : String) : Bool := n == "eval" || n == "arguments"

/-- The expression inside parentheses and annotations. -/
def bare : Nat → Tree → Tree
  | 0, t => t
  | fuel + 1, t =>
    match t.form with
    | .paren | .asType | .satisfiesType | .nonNull | .instantiation => bare fuel (t.part 0)
    | .typeAssertion => bare fuel (t.part 1)
    | _ => t

/-- Properties that give an object its prototype once more. -/
def repeatedPrototypes (properties : List Tree) : List Finding :=
  let given := properties.filter fun p =>
    match p.form, (p.part 0).form with
    | .property false false, .identifier n | .property false false, .string n _ => n == "__proto__"
    | _, _ => false
  (given.drop 1).map fun p => ⟨p.span.stop, .redeclared "__proto__"⟩

/-- What surrounds a name. -/
structure AssignContext where
  /-- Names that assignments around give another value. -/
  assigned : List String := []
  /-- Inside something that is assigned to. -/
  inTarget : Bool := false
  /-- Names are bound here that may be fixed ones: parameters of what is only declared. -/
  free : Bool := false
deriving Inhabited

namespace AssignContext

/-- What surrounds a part of a tree. An assignment is about its whole text, up to members of
something. -/
def inside (c : AssignContext) (form : Form) (target : Tree) (part : Nat) : AssignContext :=
  let plain := { c with free := false }
  match form with
  | .assign _ =>
    match target.name? with
    | some n => { plain with assigned := n :: c.assigned }
    | none => plain
  | .arrayTarget | .objectTarget | .update _ _ => { plain with inTarget := true }
  | .forIn | .forOf _ =>
    match part, target.form with
    | 0, .variableList _ _ => plain
    | 0, _ => { plain with inTarget := true }
    | _, _ => plain
  | .member _ | .computedMember _ => {}
  | .parameter _ | .list | .rest => c
  | _ => plain

end AssignContext

/-- The findings in a tree, in what surrounds it, from those of its parts. -/
def strictStep (form : Form) (span : Span) (parts : List (Tree × (AssignContext → List Finding)))
    (c : AssignContext) : List Finding :=
  let tree (i : Nat) : Tree := ((parts[i]?).map Prod.fst).getD Tree.none
  let bound (n : Tree) (free : Bool) : List Finding :=
    if n.name?.any isFixedName && !free then
      [⟨n.span.stop, .assignStrict (n.name?.getD "")⟩]
    else []
  -- Only declared: a function with a name and no body.
  let isBare := match form with
    | .function _ => (tree 0).isPresent && (tree 4).isAbsent
    | _ => false
  let isFreelyNamed := isBare || match form with
    | .typeAlias _ | .interface _ => true
    | _ => false
  let freeParameters : Option Nat := match form with
    | .functionType => some 1
    | .methodSignature _ _ => some 2
    | _ => if isBare then some 2 else none
  let inside : List Finding := parts.zipIdx.flatMap fun (p, i) =>
    if form.memberParts.contains i || form.labelParts.contains i then []
    else if form.bindingParts.contains i && p.1.name?.isSome then bound p.1 (c.free || isFreelyNamed)
    else if freeParameters == some i then p.2 { c with free := true }
    else p.2 (c.inside form (tree 0) i)
  match form with
  | .identifier n =>
    if isFixedName n && (c.inTarget || c.assigned.contains n) then
      [⟨span.stop, .assignStrict n⟩]
    else []
  | .with_ => inside ++ [⟨span.stop, .withStatement⟩]
  | .unary "delete" =>
    let operand := bare span.stop (tree 0)
    let operand := match operand.form with
      | .chain => operand.part 0
      | _ => operand
    match operand with
    | .node (.identifier _) _ _ => inside ++ [⟨span.stop, .deleteName⟩]
    | .node (.member _) _ [_, .node (.privateName _) _ _] => inside ++ [⟨span.stop, .deletePrivate⟩]
    | _ => inside
  | .object => inside ++ repeatedPrototypes (parts.map Prod.fst)
  | .exportNamed _ => if (tree 2).isPresent then [] else inside
  | .moduleDeclaration .global _ => ((parts[1]?).map fun p => p.2 {}).getD []
  | _ => inside

/-- What a module does that strict text forbids. -/
def strictness (t : Tree) : List Finding := t.recurse strictStep {}

/-! ## Literals -/

/-- What is wrong with a number as written. -/
def numberFault? (raw : String) : Option Fault :=
  match raw.toList with
  | '0' :: c :: rest =>
    if !c.isDigit then none
    else if (c :: rest).all fun d => '0' ≤ d && d ≤ '7' then some .legacyOctal
    else some .leadingZero
  | _ => none

/-- What is wrong with the escapes in a string, from its bytes as written. -/
def escapeFault? : List UInt8 → Option Fault
  | [] => none
  | 0x5C :: c :: rest =>
    let digit (d : UInt8) : Bool := 0x30 ≤ d && d ≤ 0x39
    if c == 0x30 then
      if rest.head?.any digit then some .legacyOctal else escapeFault? rest
    else if 0x31 ≤ c && c ≤ 0x37 then some .legacyOctal
    else if c == 0x38 || c == 0x39 then some .digitEscape
    else escapeFault? rest
  | _ :: rest => escapeFault? rest

/-- How many bytes the value of a string between quotes takes, with halves of pairs marked. -/
def valueSize (quote : Char) (raw : String) : Nat :=
  let units := (StringLiteral.scan quote raw.toList).units
  Text.utf8Length ((StringLiteral.textOfUnits? units).getD (StringLiteral.markedText units))

/-- The findings about the literals in a tree from those of its parts, given the bytes of the
text. -/
def literalStep (bytes : ByteArray) (form : Form) (span : Span)
    (parts : List (Tree × List Finding)) : List Finding :=
  let found (fault? : Option Fault) : List Finding := (fault?.map (⟨span.stop, ·⟩)).toList
  let written : List UInt8 := (bytes.extract span.start span.stop).toList
  match form with
  | .number raw => found (numberFault? raw)
  -- A string that is as long as its value, quotes and all, is taken to have no escapes.
  | .string value _ => if value.utf8ByteSize == written.length then [] else found (escapeFault? written)
  | .directive raw =>
    let quote := Char.ofUInt8 (written.headD 0)
    if valueSize quote raw == written.length then [] else found (escapeFault? written)
  | .jsxString _ => found (escapeFault? written)
  | _ => parts.flatMap Prod.snd

/-- The literals of a module that are not allowed. -/
def wrongLiterals (text : String) (t : Tree) : List Finding :=
  t.recurse (literalStep text.toUTF8)

end QuietEmit.Check
