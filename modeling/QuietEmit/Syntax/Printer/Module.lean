/-
  QuietEmit.Syntax.Printer.Module

  The printers tied together, and the text of a whole module.
-/
import QuietEmit.Syntax.Printer.Statements

namespace QuietEmit.Syntax

namespace Printer

/-- The printer for each task; the bound is at least the height of the tree, counted in the
few steps that each level of it takes. -/
def printers : Nat → Printers
  | 0 => fun _ _ => pure ()
  | bound + 1 => fun task t =>
    let g := printers bound
    match task with
    | .statement => statement g t
    | .substatement => substatement g t
    | .block => block g t
    | .functionBody => functionBody g t
    | .expression level around => expression g level around t
    | .type => type g t
    | .binding => binding g t
    | .parameters => parameters g t
    | .classMember => classMember g t
    | .variableList around => variableList g around t
    | .declaration => declaration g t

/-- A whole module. -/
def program (g : Printers) (hashbang : Option String) (t : Tree) : Printer Unit := do
  match hashbang with
  | some line => write ("#!" ++ line ++ "\n")
  | none => pure ()
  bodyStatements g (t.part 0).parts (t.part 1).parts
  commentsAt t.span.stop

end Printer

/-- Comments that are printed: those before something. Marks are printed with what they mark or
not at all. -/
def isPrintedComment (c : Comment) : Bool := !c.isTrailing && c.mark?.isNone

/-- The text of a module. -/
def Tree.printModule (t : Tree) (hashbang : Option String) (comments : List Comment) : String :=
  let bound := 4 * t.height + 16
  let start : PrintState := { comments := comments.filter isPrintedComment }
  ((Printer.program (Printer.printers bound) hashbang t).run start).2.out

end QuietEmit.Syntax
