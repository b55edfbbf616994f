/-
  QuietEmit.Syntax.Reader.Targets

  From expressions to targets of assignments: what stands before an equals sign is
  read as an expression first, and must then be something to assign to.
-/
import QuietEmit.Syntax.Reader.Types

namespace QuietEmit.Syntax.Reader

/-- The expression inside parentheses and annotations. -/
def unannotated : Nat → Tree → Tree
  | 0, t => t
  | fuel + 1, t =>
    match t.form with
    | .paren | .asType | .satisfiesType | .nonNull | .instantiation => unannotated fuel (t.part 0)
    | .typeAssertion => unannotated fuel (t.part 1)
    | _ => t

/-- Whether a tree is a name or a member of something. -/
def isReference (t : Tree) : Bool :=
  match t.form with
  | .identifier _ | .member false | .computedMember false => true
  | _ => false

/-- A target that is no array and no object; parentheses around it go. -/
def simpleTarget : Nat → Tree → Reader Tree
  | 0, _ => fail .invalidAssignment
  | fuel + 1, t => do
    if isReference t then return t
    match t.form with
    | .paren =>
      match (t.part 0).form with
      | .array | .object => fail .invalidAssignment
      | _ => simpleTarget fuel (t.part 0)
    | .asType | .satisfiesType | .nonNull | .typeAssertion =>
      if isReference (unannotated (fuel + 1) t) then return t else fail .invalidAssignment
    | .instantiation => fail .invalidLeftSide
    | _ => fail .invalidAssignment

/-- Whether a rest may go to an expression: to a name or a member, and from an array also to a
pattern. -/
def isRestTarget (allowPattern : Bool) : Nat → Tree → Bool
  | 0, _ => false
  | fuel + 1, t =>
    match t.form with
    | .paren => isRestTarget allowPattern fuel (t.part 0)
    | .array | .object => allowPattern
    | _ => isReference t

/-- The items of an array or object that starts at `start`, of which a spread comes last. -/
def targetItems (start : Nat) (allowPattern : Bool) (target item : Tree → Reader Tree) :
    List Tree → Reader (List Tree)
  | [] => return []
  | .node .spread span [e] :: later => do
    if !later.isEmpty then fail .spreadNotLast
    if !isRestTarget allowPattern (e.height + 1) e then note .restArgument
    let t ← target e
    if (← get).trailingCommas.contains start then note .restTrailingComma
    return [.node .spread span [t]]
  | e :: later => return (← item e) :: (← targetItems start allowPattern target item later)

/-- A target of an assignment. -/
def targetAt : Nat → Tree → Reader Tree
  | 0, _ => fail .invalidAssignment
  | fuel + 1, t => do
    -- An assignment inside gives a default, whatever its operator.
    let defaulted (t : Tree) : Reader Tree := do
      match t.form with
      | .assign operator =>
        if operator != "=" then note .defaultOperator
        return t.withForm (.assign "=")
      | .absent => return t
      | _ => targetAt fuel t
    match t with
    | .node .array span items =>
      return .node .arrayTarget span (← targetItems span.start true (targetAt fuel) defaulted items)
    | .node .object span items =>
      let property (p : Tree) : Reader Tree := do
        match p with
        | .node (.property _ true) s _ =>
          modify fun st => { st with defaults := st.defaults.erase s.start }
          return p
        | .node (.property computed false) s [key, value] =>
          return .node (.property computed false) s [key, ← defaulted value]
        | _ => fail .invalidAssignment
      return .node .objectTarget span (← targetItems span.start false (targetAt fuel) property items)
    | _ => simpleTarget (fuel + 1) t

/-- A target of an assignment, from the expression that it was read as. -/
def target (t : Tree) : Reader Tree := targetAt (t.height + 1) t

/-- A target of an operator that changes a value. -/
def changedTarget (t : Tree) : Reader Tree := simpleTarget (t.height + 1) t

end QuietEmit.Syntax.Reader
