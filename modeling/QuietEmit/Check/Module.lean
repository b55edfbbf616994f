/-
  QuietEmit.Check.Module

  The faults of a module that can be read, in the order of the text.
-/
import QuietEmit.Check.Classes
import QuietEmit.Check.Functions
import QuietEmit.Check.Names
import QuietEmit.Check.Placement
import QuietEmit.Check.Redeclaration
import QuietEmit.Check.Strict
import QuietEmit.Check.Types
import QuietEmit.Syntax.Source

namespace QuietEmit.Check

open Syntax

/-! ## Exports -/

/-- Exported names that are not declared; only modules without types are asked. -/
def undefinedExports (t : Tree) : List Finding :=
  let ss := (t.part 1).parts
  let declared := ss.flatMap (fun s => s.declaredNames.map Declared.name) ++
    (t.part 1).hoistedNames
  ss.flatMap fun s =>
    match s with
    | .node (.exportNamed _) _ [_, specifiers, source, _] =>
      if source.isPresent then []
      else specifiers.parts.filterMap fun p =>
        match (p.part 0).name? with
        | some n => if declared.contains n then none else some ⟨t.span.stop, .undefinedExport n⟩
        | none => none
    | _ => []

/-! ## All faults -/

/-- All faults of a module, in the order in which they can be known: a part before the whole, a
second declaration where it stands, and members declared twice at the end. -/
def findings (source : Source) : List Finding :=
  let typed := source.dialect.typed
  let isModule := source.dialect.isModule
  let ambient := source.dialect.declarations
  let t := source.tree
  let isStrict := isStrictAt isModule t
  let all := redeclarations ⟨typed, isModule, isStrict⟩ t ++ wrongLiterals source.text t ++
    wrongNames ambient t ++ strictness t ++ functions t ++ jumps t ++ placements typed isModule t ++
    classes isModule t ++ typeFaults typed ambient t
  let all := all.filter fun f =>
    if f.fault == .reservedKeyword "await" then isModule
    else if f.fault == .withStatement then typed || isStrict f.place
    else if isStrict f.place then !f.fault.isSloppyOnly
    else !f.fault.isStrictOnly
  all.mergeSort (fun a b => a.place ≤ b.place) ++
    (if typed then [] else undefinedExports t) ++ repeatedMembers typed t

/-- The texts of the faults of a module. -/
def messages (source : Source) : List String := (findings source).map fun f => f.fault.message

end QuietEmit.Check
