/-
  QuietEmit.Syntax.Reader.Marks

  Comments that mark the calls or functions after them to have no effects.
-/
import QuietEmit.Syntax.Reader.State

namespace QuietEmit.Syntax.Reader

/-- Whether a comment with that mark stands before the current token. -/
def marked (m : Mark) : Reader Bool := do
  let s ← get
  return (s.comments.takeWhile fun c => c.attachedTo == s.start).any fun c => c.mark? == some m

/-- Mark the call or construction that an expression starts with; members of it are none. -/
def markCall : Tree → Tree
  | t@(.node (.call _) span _) | t@(.node .new span _) => .node .pureCall span [t]
  | .node .chain span [t@(.node (.call _) inner _)] => .node .chain span [.node .pureCall inner [t]]
  | .node .paren span [e] => .node .paren span [markCall e]
  | .node .nonNull span [e] => .node .nonNull span [markCall e]
  | .node .asType span [e, t] => .node .asType span [markCall e, t]
  | .node .satisfiesType span [e, t] => .node .satisfiesType span [markCall e, t]
  | .node .instantiation span [e, ts] => .node .instantiation span [markCall e, ts]
  | .node .typeAssertion span [t, e] => .node .typeAssertion span [t, markCall e]
  | .node (.binary operator) span [left, right] => .node (.binary operator) span [markCall left, right]
  | .node .conditional span [test, yes, no] => .node .conditional span [markCall test, yes, no]
  | t => t

/-- Mark a function. -/
def markFunction : Tree → Tree
  | .node (.function traits) span ps => .node (.function { traits with isPure := true }) span ps
  | .node (.arrow traits) span ps => .node (.arrow { traits with isPure := true }) span ps
  | t => t

/-- Mark the function that a statement declares, or the value of its first constant. -/
def markDeclared : Tree → Tree
  | .node .exportDefault span [d] => .node .exportDefault span [markFunction d]
  | .node (.exportNamed typeOnly) span (d :: rest) =>
    .node (.exportNamed typeOnly) span (markPlain d :: rest)
  | t => markPlain t
where
  /-- The same for a declaration. -/
  markPlain : Tree → Tree
    | .node (.variableList .const isDeclare) span (.node form inner [b, value] :: rest) =>
      .node (.variableList .const isDeclare) span
        (.node form inner [b, markFunction value] :: rest)
    | t@(.node (.function _) _ _) => markFunction t
    | t => t

/-- An expression with the mark that stands before it. -/
def markedBefore (calls functions : Bool) (t : Tree) : Tree :=
  let t := if calls then markCall t else t
  if functions then markFunction t else t

end QuietEmit.Syntax.Reader
