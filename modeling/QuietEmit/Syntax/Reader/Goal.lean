/-
  QuietEmit.Syntax.Reader.Goal

  What can be asked for while reading. Constructs contain each other without end;
  each reader asks for the parts it needs by their goal, and one recursion over a
  bound ties the readers together.
-/
import QuietEmit.Syntax.Reader.State

namespace QuietEmit.Syntax

/-- Whose parameters are read. -/
inductive ParameterOwner where
  | function
  | method
  | constructor_
deriving DecidableEq, Repr

/-- A kind of construct. -/
inductive Goal where
  /-- An expression without commas at its top. -/
  | assignment
  /-- An expression. -/
  | expression
  /-- An expression that binary operators can join. -/
  | unary
  /-- An expression that can be called. -/
  | leftHandSide
  /-- A type. -/
  | type
  /-- A type that conditional types are made of. -/
  | unionType
  /-- A name or a pattern that binds names. -/
  | pattern
  /-- A statement where declarations are welcome. -/
  | statement
  /-- The body of a control structure. -/
  | substatement
  /-- Statements between braces. -/
  | block
  /-- The body of a function. -/
  | functionBody
  /-- Parameters between parentheses, as a list. -/
  | parameters (owner : ParameterOwner)
  /-- A class from its keyword on, with decorators read before. -/
  | classExpression
  /-- A function from its keyword on. -/
  | functionExpression
  /-- What follows the name of a method: its parameters and its body. -/
  | method (traits : FunctionTraits) (owner : ParameterOwner)
  /-- An element or fragment of markup. -/
  | markup
deriving Repr

/-- Readers for everything that can be asked for. -/
abbrev Grammar := Goal → Reader Tree

end QuietEmit.Syntax
