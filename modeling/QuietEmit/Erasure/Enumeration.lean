/-
  QuietEmit.Erasure.Enumeration

  Enumerations as objects: a function fills an object with the value of each
  member under its name, and with the name of each member under its number.
-/
import QuietEmit.Syntax.Build
import QuietEmit.Syntax.Constant
import QuietEmit.Syntax.Scope

namespace QuietEmit.Erasure

open Syntax

/-- The members of an enumeration, the last one first, each with its value where that is known. -/
abbrev Members := List (String × Option Constant)

/-- Enumerations by name. -/
abbrev Enumerations := List (String × Members)

namespace Enumeration

/-! ## Values of members -/

/-- The name of a member. -/
def memberName (key : Tree) : String :=
  match key.form with
  | .identifier n | .string n _ => n
  | .template texts => String.join (texts.map StringLiteral.templateText)
  | .number raw => Literal.numberText (Literal.numberValue raw)
  | _ => ""

/-- What names mean in the value of a member: members before it, and members of enumerations
before the one at hand. -/
def value? (known : Enumerations) (before : Members) : Option String → String → Option Constant
  | none, n => (before.lookup n).join
  | some o, n => ((known.lookup o).bind (·.lookup n)).join

/-- The value after a number. -/
def following? : Constant → Option Constant
  | .number x => some (.number (x + 1))
  | .text _ => none

/-- The values of members, given the members before them and the value of the last one. A member
without a value has the one that follows. -/
def values (known : Enumerations) : Members → Option Constant → List Tree → List (Option Constant)
  | _, _, [] => []
  | before, previous, m :: rest =>
    let value :=
      if (m.part 1).isPresent then Constant.ofExpression? (value? known before) (m.part 1)
      else previous.bind following?
    value :: values known ((memberName (m.part 0), value) :: before) value rest

/-- The values of the members of an enumeration. One that goes on with another of its name sees
the members of that one. -/
def valuesOf (known : Enumerations) (t : Tree) : List (Option Constant) :=
  let n := (t.part 0).name?.getD ""
  values known ((known.lookup n).getD []) (some (.number (-1))) (t.part 1).parts

/-- The enumerations known after one. -/
def after (known : Enumerations) (t : Tree) : Enumerations :=
  let n := (t.part 0).name?.getD ""
  let names := (t.part 1).parts.map fun m => memberName (m.part 0)
  (n, (names.zip (valuesOf known t)).reverse ++ (known.lookup n).getD []) ::
    known.filter (·.1 != n)

/-! ## Where enumerations stand -/

/-- What is known where an enumeration stands. -/
structure Site where
  /-- The enumerations before it, whatever blocks they are in. -/
  known : Enumerations := []
  /-- It goes on with a name that is declared before it. -/
  isContinued : Bool := false
  /-- It stands outside of all functions and blocks. -/
  isTop : Bool := false
deriving Inhabited

/-- Sites by the places of the names of enumerations. -/
abbrev Sites := List (Nat × Site)

/-- The enumerations in a tree that leave something when the module runs, in their order. -/
def allIn : Tree → List Tree :=
  Tree.recurse fun form span parts =>
    let inside := parts.flatMap Prod.snd
    match form with
    | .enum _ false => .node form span (parts.map Prod.fst) :: inside
    | .moduleDeclaration _ true => []
    | _ => inside

/-- The sites of enumerations, given those known before them. -/
def sitesOf (continued top : List Nat) : Enumerations → List Tree → Sites
  | _, [] => []
  | known, t :: rest =>
    let place := (t.part 0).span.start
    (place, ⟨known, continued.contains place, top.contains place⟩) ::
      sitesOf continued top (after known t) rest

/-- The sites of the enumerations of a module. -/
def sites (scopes : List NameScope) (t : Tree) : Sites :=
  let top := (t.statements.flatMap Declaration.ofStatement).map Declaration.place
  sitesOf (scopes.flatMap NameScope.continued) top [] (allIn t)

/-! ## Names of members -/

/-- A tree with some names replaced, and the same tree as the target of an assignment, whose own
names stay. -/
structure Renamed where
  asExpression : Tree
  asTarget : Tree
deriving Inhabited

/-- A tree with the names at some places replaced. -/
def renamedStep (replace : Nat → String → Option Tree) (form : Form) (span : Span)
    (parts : List (Tree × Renamed)) : Renamed :=
  let former (i : Nat) : Tree := ((parts[i]?).map Prod.fst).getD Tree.none
  let expression (i : Nat) : Tree := ((parts[i]?).map fun p => p.2.asExpression).getD Tree.none
  let target (i : Nat) : Tree := ((parts[i]?).map fun p => p.2.asTarget).getD Tree.none
  let expressions := parts.map fun p => p.2.asExpression
  let targets := parts.map fun p => p.2.asTarget
  let both (t : Tree) : Renamed := ⟨t, t⟩
  match form with
  | .identifier n =>
    let same : Tree := .node form span expressions
    ⟨(replace span.start n).getD same, same⟩
  | .property false shorthand =>
    let stays := shorthand && (expression 1).name?.isSome
    ⟨.node (.property false stays) span [former 0, expression 1],
      .node form span [former 0, target 1]⟩
  | .arrayTarget | .objectTarget => both (.node form span targets)
  | .spread | .property true _ => ⟨.node form span expressions, .node form span targets⟩
  | .assign _ => both (.node form span [target 0, expression 1])
  | .update _ _ => both (.node form span [target 0])
  | .forIn | .forOf _ => both (.node form span (target 0 :: expressions.drop 1))
  | _ => both (.node form span expressions)

/-- Names of members stand for those members of the enumeration, except where something else of
that name is declared inside. -/
def qualified (enum : String) (members : List String) (t : Tree) : Tree :=
  let places := t.freeNames.filterMap fun u =>
    if members.contains u.name && u.place != 0 then some u.place else none
  let replace (place : Nat) (n : String) : Option Tree :=
    if places.contains place then some (Build.member (Build.name enum) n) else none
  (t.recurse (renamedStep replace)).asExpression

/-! ## Enumerations as statements -/

/-- A value as an expression. -/
def constant : Constant → Tree
  | .number x => Build.number x
  | .text s => Build.text s

/-- `E["a"] = value`, and for a number `E[E["a"] = value] = "a"`. -/
def entry (enum n : String) (isText : Bool) (value : Tree) : Tree :=
  let here := Build.name enum
  let set := Build.assign (Build.index here (Build.text n)) value
  if isText then set else Build.assign (Build.index here set) (Build.text n)

/-- The value of a member that is not known: as it is written, or one more than the value of the
member before. -/
def unknownValue (enum : String) (names : List String) (previous : Option String) (m : Tree) :
    Tree :=
  if (m.part 1).isPresent then qualified enum names (m.part 2)
  else
    match previous with
    | some p =>
      Build.made (.binary "+") [Build.number 1, Build.index (Build.name enum) (Build.text p)]
    | none => Build.number 0

/-- Whether the value of a member is a text, as far as that can be seen. -/
def isText (m : Tree) : Option Constant → Bool
  | some (.text _) => true
  | some (.number _) => false
  | none =>
    match (m.part 1).form with
    | .template _ => true
    | _ => false

/-- The statements that fill an enumeration, given the names of the members before and the last of
them. Each member has its name, its value as written, and its value without types. -/
def entries (enum : String) :
    List String → Option String → List (Tree × Option Constant) → List Tree
  | _, _, [] => []
  | names, previous, (m, c?) :: rest =>
    let n := memberName (m.part 0)
    let value := match c? with
      | some c => constant c
      | none => unknownValue enum (n :: names) previous m
    Build.statement m.span (entry enum n (isText m c?) value) ::
      entries enum (n :: names) (some n) rest

/-- Whether the value of a member may do something besides. -/
def mayAct (m : Tree) : Bool :=
  match (m.part 1).form with
  | .call _ | .new | .pureCall => true
  | _ => false

/-- The statement that stands for an enumeration. The first of a name declares a variable: at the
top of a module one that may exist already. -/
def lower (sites : Sites) (isExported : Bool) (span : Span) (t : Tree) : Tree :=
  let n := (t.part 0).name?.getD ""
  let site := (sites.lookup (t.part 0).span.start).getD {}
  let earlier := ((site.known.lookup n).getD []).map Prod.fst
  let members := (t.part 1).parts
  let body := entries n earlier none (members.zip (valuesOf site.known t))
  let f := Build.function [n] [] (body ++ [Build.made .return_ [Build.name n]])
  let isLocal := isExported || !site.isTop
  let start :=
    if isLocal && !site.isContinued then Build.object []
    else Build.either (Build.name n) (Build.object [])
  let filled := if members.any mayAct then Build.call f [start] else Build.pureCall f [start]
  if site.isContinued then Build.statement span (Build.assign (Build.name n) filled)
  else
    let d := Build.declaring span (if isLocal then .let_ else .var) n .none filled
    if isExported then Build.exported span d else d

/-- A statement, or what stands for it if it is an enumeration. -/
def lowerStatement (sites : Sites) (t : Tree) : Tree :=
  match t with
  | .node (.enum _ false) span _ => lower sites false span t
  | _ => t

/-- A statement of a module, or what stands for it if it is an enumeration, exported or not. -/
def lowerTop (sites : Sites) (t : Tree) : Tree :=
  match t with
  | .node (.exportNamed _) span (d :: _) =>
    match d.form with
    | .enum _ false => lower sites true span d
    | _ => t
  | _ => lowerStatement sites t

end Enumeration

end QuietEmit.Erasure
