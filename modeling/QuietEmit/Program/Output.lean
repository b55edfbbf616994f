/-
  QuietEmit.Program.Output

  What one module becomes: plain code, declarations where they are asked for,
  and the diagnostics of both.
-/
import QuietEmit.Check.Module
import QuietEmit.Declaration.Module
import QuietEmit.Diagnostic.Basic
import QuietEmit.Erasure.Module
import QuietEmit.Syntax.Printer.Module

namespace QuietEmit

open Syntax

/-- What a module becomes. -/
structure EmittedModule where
  code : String
  declaration : Option String
  diagnostics : List Diagnostic
deriving Repr, Inhabited

namespace EmittedModule

/-- The diagnostics of reading and checking a module. One that cannot be read to its end is not
checked. -/
def check (path : Path) (text : String) : List Diagnostic :=
  let source := Source.read (.ofPath path) text
  let record (code : UInt32) (message : String) : Diagnostic := (Diagnostic.error code message).inFile path
  source.faults.map (fun f => record Code.syntaxError f.text) ++
    if source.aborted then []
    else (Check.messages source).map (record Code.semantic)

/-- The declarations of a module, if it has types. -/
def declare (path : Path) (source : Source) : String × List Diagnostic :=
  let (tree, faults) := Declaration.ofModule source.tree
  (tree.printModule none source.comments,
    faults.map fun f => (Diagnostic.error Code.declaration f.message).inFile path)

/-- The code of a module without types. -/
def erase (path : Path) (source : Source) : String × List Diagnostic :=
  -- Comments have a say where markup may be written.
  let comments := if source.dialect.markup then source.comments else []
  let (tree, faults) :=
    if source.dialect.typed then Erasure.typedModule comments source.tree
    else Erasure.plainModule comments source.tree
  (tree.printModule source.hashbang source.comments,
    faults.map fun f => (Diagnostic.error Code.output f.message).inFile path)

/-- What a module becomes; its declarations come first among the diagnostics. -/
def ofText (path : Path) (text : String) (declaration : Bool) : EmittedModule :=
  let source := Source.read (.ofPath path) text
  let (code, emitted) := erase path source
  if declaration && source.dialect.typed then
    let (declared, faults) := declare path source
    ⟨code, some declared, faults ++ emitted⟩
  else ⟨code, none, emitted⟩

end EmittedModule

end QuietEmit
