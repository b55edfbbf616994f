/-
  QuietEmit.Syntax.Reader.Grammar

  The readers tied together. Every construct inside another one is asked for with
  a smaller bound, and a bound of a few steps for each character is never used up.
-/
import QuietEmit.Syntax.Reader.Markup
import QuietEmit.Syntax.Reader.Statements

namespace QuietEmit.Syntax.Reader

/-- The reader for each goal. -/
def grammar : Nat → Grammar
  | 0 => fun _ => fail .unexpectedToken
  | bound + 1 => fun goal =>
    let g := grammar bound
    match goal with
    | .assignment => assignment g
    | .expression => expression g
    | .unary => unary g
    | .leftHandSide => leftHandSide g
    | .type => type g
    | .unionType => unionType g
    | .pattern => pattern g
    | .statement => statement g
    | .substatement => substatement g
    | .block => block g
    | .functionBody => functionBody g
    | .parameters owner => parameters g owner
    | .classExpression => classExpression g
    | .functionExpression => functionExpression g
    | .method traits owner => method g traits owner
    | .markup => markup g

/-- A whole module. A token that cannot be read ends it early. -/
def program (g : Grammar) : Reader Tree := do
  let (ds, ss) ← directivesAndStatements g
  if ← atPunctuator "\x7d" then unexpected
  let stop := (← get).start
  return .node .program ⟨0, stop⟩ [.list ds, .list ss]

end QuietEmit.Syntax.Reader
