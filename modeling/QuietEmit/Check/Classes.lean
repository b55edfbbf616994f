/-
  QuietEmit.Check.Classes

  Classes: constructors, calls of the class above, and private names.
-/
import QuietEmit.Check.Fault

namespace QuietEmit.Check

open Syntax

/-- What may be done with the class above. -/
structure SuperAccess where
  /-- Members of it may be reached. -/
  members : Bool := false
  /-- Its constructor may be called. -/
  call : Bool := false
  /-- The class around has one above it. -/
  isDerived : Bool := false
  /-- Inside a constructor, whether its class has one above it or not. -/
  inConstructor : Bool := false
deriving Inhabited

/-- What surrounds an expression. -/
structure ClassContext where
  isModule : Bool
  /-- Inside a function or a static block, where `new.target` means something. -/
  hasTarget : Bool := false
  above : SuperAccess := {}
  /-- The same outside the class around, as it goes for the names and decorators of its members. -/
  aboveOutside : SuperAccess := {}
  /-- Private names of the classes around; none outside classes. -/
  privateNames : Option (List String) := none
  /-- Where the class around ends. -/
  classStop : Nat := 0
  /-- The function is a method's, which keeps what its method allows. -/
  isMethod : Bool := false
  /-- Directly a part of a call or construction. -/
  inCall : Bool := false
deriving Inhabited

/-- The private names that members declare. -/
def privateMembers (members : List Tree) : List String :=
  members.filterMap fun m =>
    match m.form with
    | .field _ | .method _ _ =>
      match (m.part 1).form with
      | .privateName n => some n
      | _ => none
    | _ => none

/-- Whether a member is a constructor with a body. -/
def isConstructor (m : Tree) : Bool :=
  match m.form with
  | .method .constructor_ _ => ((m.part 2).part 4).isPresent
  | _ => false

/-- A constructor after another one. -/
def extraConstructor (members : List Tree) (place : Nat) : List Finding :=
  if (members.filter isConstructor).length > 1 then [⟨place, .secondConstructor⟩] else []

/-- The findings in a tree, in what surrounds it, from those of its parts. -/
def classStep (form : Form) (span : Span) (parts : List (Tree × (ClassContext → List Finding)))
    (c : ClassContext) : List Finding :=
  let tree (i : Nat) : Tree := ((parts[i]?).map Prod.fst).getD Tree.none
  let apart : ClassContext := { c with inCall := false }
  let at_ (i : Nat) (c : ClassContext) : List Finding :=
    match parts[i]? with
    | some p => p.2 c
    | none => []
  let inside (c : ClassContext) : List Finding := parts.flatMap fun p => p.2 c
  let found (fault : Fault) : List Finding := [⟨span.stop, fault⟩]
  let inMember : SuperAccess := { c.above with members := true, call := false, inConstructor := false }
  let outside : ClassContext := { apart with above := c.aboveOutside }
  let key (computed : Bool) (i : Nat) : List Finding := if computed then at_ i outside else []
  match form with
  | .class_ _ _ =>
    let members := (tree 6).parts
    let own : ClassContext :=
      { apart with
        privateNames := some (privateMembers members ++ c.privateNames.getD [])
        classStop := span.stop }
    let inner : ClassContext :=
      { own with
        above := { isDerived := (tree 3).isPresent }, aboveOutside := c.above, isMethod := false }
    at_ 0 apart ++ at_ 3 apart ++ at_ 6 inner ++ extraConstructor members span.stop
  | .method kind m =>
    let isConstructor := kind == .constructor_
    let above :=
      { inMember with call := isConstructor && c.above.isDerived, inConstructor := isConstructor }
    at_ 0 outside ++ key m.isComputed 1 ++ at_ 2 { apart with above := above, isMethod := true }
  | .methodProperty _ computed =>
    (if computed then at_ 0 apart else []) ++
      at_ 1 { apart with above := inMember, isMethod := true }
  | .field m =>
    at_ 0 outside ++ key m.isComputed 1 ++ at_ 3 { apart with above := inMember }
  | .staticBlock => inside { apart with above := inMember, hasTarget := true }
  | .function _ =>
    let above :=
      if c.isMethod then c.above
      else { c.above with members := false, call := false, inConstructor := false }
    inside { apart with above := above, hasTarget := true, isMethod := false }
  | .call _ | .new => inside { c with inCall := true }
  | .list => inside c
  | .super =>
    if c.inCall then
      if c.above.call then []
      else if c.above.inConstructor then found .superNotDerived
      else found .superCall
    else if c.above.members then [] else found .superReference
  | .member _ =>
    inside apart ++
      match (tree 0).form, (tree 1).form with
      | .super, .privateName _ => found .superPrivate
      | _, _ => []
  | .metaProperty =>
    match (tree 0).name?, (tree 1).name? with
    | some "new", some "target" => if c.hasTarget then [] else found .newTarget
    | some "import", some "meta" => if c.isModule then [] else found .importMeta
    | _, _ => []
  | .privateName n =>
    match c.privateNames with
    | none => found (.privateOutside n)
    | some ns => if ns.contains n then [] else [⟨c.classStop, .privateUndeclared n⟩]
  | _ => inside apart

/-- The findings about the classes of a module. -/
def classes (isModule : Bool) (t : Tree) : List Finding := t.recurse classStep { isModule }

end QuietEmit.Check
