/-
  QuietEmit.Syntax.Printer.Task

  What can be asked for while printing. Each printer asks for the parts of its
  tree by a task, and one recursion over the height of trees ties them together.
-/
import QuietEmit.Syntax.Printer.Literals
import QuietEmit.Syntax.Printer.State

namespace QuietEmit.Syntax

/-- How tightly the place of an expression binds; an operator that binds no tighter needs
parentheses there. -/
abbrev Level := Nat

namespace Level

/-- Anything goes. -/
def lowest : Level := 0
def comma : Level := 1
def yield : Level := 3
def assign : Level := 4
def conditional : Level := 5
def shift : Level := 14
def exponent : Level := 17
def unary : Level := 18
def postfix_ : Level := 19
def new : Level := 20
def call : Level := 21

/-- How tightly a binary operator binds. -/
def ofBinary : String → Level
  | "??" => 6
  | "||" => 7
  | "&&" => 8
  | "|" => 9
  | "^" => 10
  | "&" => 11
  | "==" | "!=" | "===" | "!==" => 12
  | "<" | ">" | "<=" | ">=" | "instanceof" | "in" => 13
  | "<<" | ">>" | ">>>" => shift
  | "+" | "-" => 15
  | "*" | "/" | "%" => 16
  | _ => 17

end Level

/-- What the place of an expression forbids. -/
structure Surroundings where
  /-- An `in` needs parentheses. -/
  noIn : Bool := false
  /-- A call needs parentheses. -/
  noCall : Bool := false
deriving Repr, Inhabited

/-- A kind of thing to print. -/
inductive Task where
  | statement
  /-- The body of a control structure, on the same line. -/
  | substatement
  /-- Statements between braces. -/
  | block
  | functionBody
  | expression (level : Level) (around : Surroundings)
  | type
  /-- A binding, with its type. -/
  | binding
  /-- Parameters between parentheses. -/
  | parameters
  /-- A member of a class. -/
  | classMember
  /-- Variables without the end of the statement. -/
  | variableList (around : Surroundings)
  /-- A declaration without the indentation before it. -/
  | declaration
deriving Repr

/-- Printers for everything that can be asked for. -/
abbrev Printers := Task → Tree → Printer Unit

end QuietEmit.Syntax
