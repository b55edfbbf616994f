/-
  QuietEmit.Syntax.Reader.Expressions

  Reading expressions.
-/
import QuietEmit.Syntax.Reader.Marks
import QuietEmit.Syntax.Reader.Targets

namespace QuietEmit.Syntax.Reader

/-! ## Places -/

/-- Read inside brackets of any kind, where all that an expression may hold is allowed. -/
def enclosed {α : Type} (r : Reader α) : Reader α :=
  within (fun s => { s with allowIn := true, arrowResult := true, inDecorator := false }) r

/-- Read inside a function. -/
def inFunction {α : Type} (traits : FunctionTraits) (r : Reader α) : Reader α :=
  within (fun s => { s with
    allowIn := true, arrowResult := true, inDecorator := false, inFunction := true
    inAsync := traits.isAsync, inGenerator := traits.isGenerator }) r

/-- The current token is a name on the line of the token before it. -/
def nameOnLine : Reader Bool := do
  if ← onNewLine then return false
  match ← current with
  | .name w _ => return isNameWord w
  | _ => return false

/-- The token after the current one is a word, a number or a string on the same line. -/
def operandOnLine : Reader Bool := do
  match ← peek with
  | (.name _ _, false) | (.string _ _, false) | (.number _, false) | (.bigint _, false) => return true
  | _ => return false

/-! ## Operators -/

/-- How tightly a binary operator binds. -/
def precedence? : String → Option Nat
  | "??" => some 1
  | "||" => some 2
  | "&&" => some 3
  | "|" => some 4
  | "^" => some 5
  | "&" => some 6
  | "==" | "!=" | "===" | "!==" => some 7
  | "<" | ">" | "<=" | ">=" | "instanceof" | "in" | "as" | "satisfies" => some 8
  | "<<" | ">>" | ">>>" => some 9
  | "+" | "-" => some 10
  | "*" | "/" | "%" => some 11
  | "**" => some 12
  | _ => none

/-- How tightly comparisons bind. -/
def comparison : Nat := 8

/-- Operators that assign. -/
def assignmentOperators : List String :=
  ["=", "+=", "-=", "*=", "/=", "%=", "**=", "<<=", ">>=", ">>>=", "&=", "|=", "^=", "&&=", "||=",
    "??="]

/-- Read what begins with a closing angle as one operator. -/
def joinAngles : Reader Unit := do
  if ← atPunctuator ">" then
    rescan fun cs =>
      match [">>>=", ">>>", ">>=", ">>", ">="].find? fun p => p.toList.isPrefixOf cs with
      | some p => ⟨.punctuator p, cs.drop p.length, []⟩
      | none => ⟨.punctuator ">", cs.drop 1, []⟩

/-- The current token as a binary operator. -/
def binaryOperator? : Reader (Option (String × Nat)) := do
  joinAngles
  let s ← scope
  match ← current with
  | .punctuator p => return (precedence? p).map fun n => (p, n)
  | .name w _ =>
    if w == "in" then
      return if s.allowIn then some (w, comparison) else none
    else if w == "instanceof" then return some (w, comparison)
    else if (w == "as" || w == "satisfies") && !(← onNewLine) then
      return some (w, comparison)
    else return none
  | _ => return none

/-- Whether an operator is one of those that only parentheses may mix with `??`. -/
def isLogical (operator : String) : Bool := operator == "||" || operator == "&&"

/-- An operand with whether it starts with a parenthesis. -/
structure Operand where
  tree : Tree
  parenthesized : Bool

/-- The operator of an operand that is a logical operation, unless it starts with a parenthesis. -/
def Operand.logical? (o : Operand) : Option (String × Bool) :=
  match o.tree.form with
  | .binary operator =>
    if isLogical operator || operator == "??" then some (operator, !o.parenthesized) else none
  | _ => none

/-- Note operands that need parentheses. -/
def checkOperands (operator : String) (left right : Operand) : Reader Unit := do
  if operator == "??" then
    match right.logical?.or left.logical? with
    | some (inner, bare) => if bare && isLogical inner then note .mixedCoalesce
    | none => pure ()
  if operator == "**" then
    match left.tree.form with
    | .unary _ | .await => note .exponentiation
    | _ => pure ()

/-- The type after `as` or `satisfies`; `const` is one here. -/
def castType (g : Grammar) : Reader Tree := do
  if ← atWord "const" then
    let start ← here
    advance
    let n ← finish start (.identifier "const") []
    finish start .typeReference [n, .none]
  else g .type

mutual

/-- An operand with the operators after it that bind tighter than `least`. -/
def binaryAt (g : Grammar) : Nat → Nat → Reader Operand
  | 0, _ => unexpected
  | fuel + 1, least => do
    let start ← here
    let parenthesized ← atPunctuator "("
    let allowIn := (← scope).allowIn
    match allowIn, ← current with
    | true, .privateName n =>
      advance
      let p ← finish start (.privateName n) []
      expectWord "in"
      let right ← binaryAt g fuel comparison
      match right.tree with
      | .node (.binary "in") _ (.node (.privateName _) _ _ :: _) => fail .privateInPrivate
      | _ => pure ()
      let t ← finish start (.binary "in") [p, right.tree]
      binaryRest g start fuel least ⟨t, parenthesized⟩
    | _, _ =>
      let first ← g .unary
      binaryRest g start fuel least ⟨first, parenthesized⟩

/-- Operators that bind tighter than `least`, with their right operands, after a left one. -/
def binaryRest (g : Grammar) (start : Nat) : Nat → Nat → Operand → Reader Operand
  | 0, _, left => return left
  | fuel + 1, least, left => do
    match ← binaryOperator? with
    | none => return left
    | some (operator, n) =>
      if n < least || (n == least && operator != "**") then return left
      advance
      if operator == "as" || operator == "satisfies" then
        let t ← castType g
        let form := if operator == "as" then .asType else .satisfiesType
        let t ← finish start form [left.tree, t]
        if !(← typed) then
          note (.typedOnly (if operator == "as" then "Type assertion expressions"
            else "Type satisfaction expressions"))
        binaryRest g start fuel least { left with tree := t }
      else
        let right ← binaryAt g fuel n
        checkOperands operator left right
        let t ← finish start (.binary operator) [left.tree, right.tree]
        binaryRest g start fuel least { left with tree := t }

end

/-- An expression of unary expressions and binary operators. -/
def binaryExpression (g : Grammar) : Reader Tree := do
  let o ← binaryAt g (← size) 0
  return o.tree

/-! ## Arrow functions -/

/-- The three answers to whether an arrow function comes next. -/
inductive Likelihood where
  | yes
  | no
  | perhaps
deriving DecidableEq

/-- Whether the tokens from an opening parenthesis on begin an arrow function. -/
def arrowAfterParenthesis : Reader Likelihood := do
  advance
  match ← current with
  | .punctuator ")" =>
    advance
    if (← atPunctuator "=>") || (← atPunctuator "\x7b") then return .yes
    return if ← atPunctuator ":" then .perhaps else .no
  | .punctuator "[" | .punctuator "\x7b" => return .perhaps
  | .punctuator "..." => return .yes
  | .punctuator "@" => return .perhaps
  | .name w _ =>
    let next := (← peek).1
    match Modifier.words.lookup w with
    | some m =>
      if m != .async then
        if let .name v _ := next then
          if v == "as" then return .no
          if isNameWord v then return .yes
    | none => pure ()
    if !isNameWord w && w != "this" then return .no
    advance
    match ← current with
    | .punctuator ":" => return .yes
    | .punctuator "?" =>
      advance
      for p in [":", ",", "=", ")"] do
        if ← atPunctuator p then return .yes
      return .no
    | .punctuator "," | .punctuator "=" | .punctuator ")" => return .perhaps
    | _ => return .no
  | _ => return .no

/-- Whether the tokens from an opening angle on begin an arrow function. -/
def arrowAfterAngle : Reader Likelihood := do
  advance
  if !(← atName) && !(← atWord "const") then return .no
  if (← get).dialect.markup then
    discard (eatWord "const")
    advance
    if ← atWord "extends" then
      advance
      for p in ["=", ">", "/"] do
        if ← atPunctuator p then return .no
      return .perhaps
    return if (← atPunctuator ",") || (← atPunctuator "=") then .yes else .no
  return .perhaps

/-- Whether an arrow function with its parameters in parentheses comes next. -/
def arrowLikelihood : Reader Likelihood := do
  let look (r : Reader Likelihood) : Reader Likelihood := fun s =>
    match r s with
    | .ok a _ => .ok a s
    | .error _ _ => .ok .no s
  let from_ : Reader Likelihood := do
    if ← atPunctuator "(" then arrowAfterParenthesis
    else if (← typed) && (← atPunctuator "<") then arrowAfterAngle
    else return .no
  match ← current with
  | .punctuator "(" | .punctuator "<" => look from_
  | .name "async" _ => look do
      advance
      if ← onNewLine then return .no
      from_
  | _ => return .no

/-- The body of an arrow function. Where `in` is no operator around the function, it is none in the
function. -/
def arrowBody (g : Grammar) (isAsync : Bool) : Reader Tree := do
  let goal : Goal := if ← atPunctuator "\x7b" then .functionBody else .assignment
  within (fun s => { s with inFunction := true, inAsync := isAsync, inGenerator := false }) (g goal)

/-- An arrow function up to its arrow. -/
structure ArrowHead where
  start : Nat
  isAsync : Bool
  parts : List Tree

/-- An arrow, on the line of what stands before it. -/
def arrowSign : Reader Unit := do
  if ← onNewLine then note .newlineBeforeArrow
  expect "=>"

/-- An arrow function with its parameters in parentheses, up to its arrow. -/
def arrowHead (g : Grammar) : Reader ArrowHead := do
  let start ← here
  let isAsync ← eatWord "async"
  let (tps, ps) ← within (fun s => { s with
      allowIn := true, arrowResult := true, inDecorator := false
      inAsync := s.inAsync || isAsync }) do
    let tps ← typeParameters? g
    let ps ← g (.parameters .function)
    return (tps, ps)
  if ps.parts.any isThisParameter then note .arrowThis
  let r ← resultType? g
  arrowSign
  return ⟨start, isAsync, [tps, ps, r]⟩

/-- The body of an arrow function after its head. -/
def arrowRest (g : Grammar) (head : ArrowHead) : Reader Tree := do
  let body ← arrowBody g head.isAsync
  finish head.start (.arrow { isAsync := head.isAsync }) (head.parts ++ [body])

/-- An arrow function with its parameters in parentheses, if one comes next. Where a colon may
belong to a conditional expression around, one has to follow a function with a result type. -/
def arrow? (g : Grammar) : Reader (Option Tree) := do
  match ← arrowLikelihood with
  | .no => return none
  | .yes => return some (← arrowRest g (← arrowHead g))
  | .perhaps =>
    let before ← get
    match ← attempt (arrowHead g) with
    | none => return none
    | some head =>
      if before.scope.arrowResult || (head.parts.getD 2 Tree.none).isAbsent then
        return some (← arrowRest g head)
      let t ← attempt do
        let t ← arrowRest g head
        if !(← atPunctuator ":") then unexpected
        return t
      if t.isNone then set before
      return t

/-- A name as the only parameter of an arrow function. -/
def loneParameter (n : Tree) : List Tree :=
  [.none, .node .list n.span
    [.node (.parameter {}) n.span [.list [], .node (.binding false) n.span [n, .none]]], .none]

/-- An async arrow function with a name as its parameter, if one comes next. -/
def asyncNameArrow? (g : Grammar) : Reader (Option Tree) := do
  if !(← atWord "async") then return none
  let follows ← lookahead do
    advance
    if !(← nameOnLine) then return false
    advance
    atPunctuator "=>"
  if !follows then return none
  let start ← here
  advance
  let n ← within (fun s => { s with inAsync := true }) name
  arrowSign
  return some (← arrowRest g ⟨start, true, loneParameter n⟩)

/-! ## Assignment -/

/-- The current word begins a yield: it does in a generator, and elsewhere before an operand. -/
def yieldFollows : Reader Bool := do
  if !(← atWord "yield") then return false
  if (← scope).inGenerator then return true
  operandOnLine

/-- A yield with its operand, which may be left out. -/
def yieldExpression (g : Grammar) : Reader Tree := do
  let start ← here
  advance
  if !(← scope).inGenerator then note .yieldOutside
  if ← onNewLine then return ← finish start (.yield false) [.none]
  let delegates ← eat "*"
  let ends ← do
    match ← current with
    | .endOfText | .punctuator ")" | .punctuator "]" | .punctuator "\x7d" | .punctuator ","
    | .punctuator ";" | .punctuator ":" => pure true
    | .name "in" _ | .name "of" _ => pure true
    | _ => pure false
  if ends && !delegates then return ← finish start (.yield false) [.none]
  let e ← within (fun s => { s with inGenerator := true }) (g .assignment)
  finish start (.yield delegates) [e]

/-- An expression without commas at its top. A mark before it is about the call it starts with or
the function it is. -/
def assignment (g : Grammar) : Reader Tree := do
  let start ← here
  let calls ← marked .pureCall
  let functions ← marked .pureFunction
  if ← yieldFollows then return ← yieldExpression g
  if let some t ← arrow? g then return markedBefore false functions t
  if let some t ← asyncNameArrow? g then return markedBefore false functions t
  let left ← binaryExpression g
  if left.name?.isSome && (← atPunctuator "=>") then
    arrowSign
    let t ← arrowRest g ⟨start, false, loneParameter left⟩
    return markedBefore false functions t
  match ← current with
  | .punctuator p =>
    if assignmentOperators.contains p then
      let left ← if p == "=" then target left else changedTarget left
      advance
      let right ← g .assignment
      return ← finish start (.assign p) [left, right]
    if p == "?" then
      advance
      let yes ← within (fun s => { s with allowIn := true, arrowResult := false }) (g .assignment)
      expect ":"
      let no ← g .assignment
      let t ← finish start .conditional [left, yes, no]
      return markedBefore calls functions t
    return markedBefore calls functions left
  | _ => return markedBefore calls functions left

/-- An expression. -/
def expression (g : Grammar) : Reader Tree := do
  let start ← here
  let first ← g .assignment
  if !(← atPunctuator ",") then return first
  let rest ← many (do
    if ← eat "," then return some (← g .assignment) else return none) (← size)
  finish start .sequence (first :: rest)

/-! ## Unary expressions -/

/-- The current word begins an await. -/
def awaitFollows : Reader Bool := do
  if !(← atWord "await") then return false
  if (← scope).inAsync then return true
  operandOnLine

/-- Markup begins here: a name or a closing angle follows the opening one. -/
def markupFollows : Reader Bool := do
  if !(← get).dialect.markup || !(← atPunctuator "<") then return false
  match (← peek).1 with
  | .name _ _ => return true
  | .punctuator p => return p == ">"
  | _ => return false

/-- An expression that can be called, with an update after it. -/
def updateExpression (g : Grammar) : Reader Tree := do
  let start ← here
  if ← markupFollows then return ← g .markup
  let e ← g .leftHandSide
  match ← current with
  | .punctuator p =>
    if (p == "++" || p == "--") && !(← onNewLine) then
      advance
      let t ← changedTarget e
      finish start (.update p false) [t]
    else return e
  | _ => return e

/-- An expression that binary operators can join. -/
def unary (g : Grammar) : Reader Tree := do
  let start ← here
  if ← awaitFollows then
    if !(← scope).inAsync then note .awaitOutside
    advance
    let e ← within (fun s => { s with inAsync := true }) (g .unary)
    return ← finish start .await [e]
  match ← current with
  | .punctuator p =>
    if p == "++" || p == "--" then
      advance
      let e ← g .unary
      let t ← changedTarget e
      finish start (.update p true) [t]
    else if p == "+" || p == "-" || p == "~" || p == "!" then
      advance
      let calls ← marked .pureCall
      let e ← g .unary
      finish start (.unary p) [markedBefore calls false e]
    else if p == "<" && !(← get).dialect.markup then
      if !(← typed) then fail .unexpectedMarkup
      advance
      let t ← castType g
      expect ">"
      let e ← g .unary
      finish start .typeAssertion [t, e]
    else updateExpression g
  | .name w _ =>
    if w == "typeof" || w == "void" || w == "delete" then
      advance
      let calls ← marked .pureCall
      let e ← g .unary
      finish start (.unary w) [markedBefore calls false e]
    else updateExpression g
  | _ => updateExpression g

/-! ## Literals of arrays and objects -/

/-- An argument or element, which may be spread. -/
def spreadable (g : Grammar) : Reader Tree := do
  let start ← here
  if ← eat "..." then
    let e ← g .assignment
    finish start .spread [e]
  else g .assignment

/-- Note the start of an array or object that ends with a comma. -/
def markTrailing (start : Nat) (trailing : Bool) : Reader Unit :=
  if trailing then modify fun s => { s with trailingCommas := start :: s.trailingCommas }
  else pure ()

/-- An array. -/
def array (g : Grammar) : Reader Tree := do
  let start ← here
  expect "["
  let element : Reader Tree := do
    if ← atPunctuator "," then return .none
    spreadable g
  let (es, trailing) ← enclosed do items "]" element (← size)
  expect "]"
  markTrailing start trailing
  finish start .array es

/-- Note what an accessor may not have. -/
def checkAccessor (kind : MethodKind) (f : Tree) : Reader Unit := do
  let ps := (f.part 2).parts.filter fun p => !isThisParameter p
  match kind with
  | .get => if !ps.isEmpty then note .getterParameters
  | .set =>
    match ps with
    | [.node (.parameter _) _ [_, p]] =>
      match p.form with
      | .rest => note .setterRest
      | .defaulted => if ← typed then note .setterDefault
      | _ => pure ()
    | _ => note .setterParameters
  | _ => pure ()

/-- A property of an object. -/
def objectProperty (g : Grammar) : Reader Tree := do
  let start ← here
  if ← atPunctuator "..." then return ← spreadable g
  let ms ← modifiers false
  let method (kind : MethodKind) (traits : FunctionTraits) (key : Tree) (computed : Bool) :
      Reader Tree := do
    let f ← g (.method traits .function)
    if kind != .method then checkAccessor kind f
    allowOnly (if kind == .method then [.async] else []) .modifierHere ms
    finish start (.methodProperty kind computed) [key, f]
  if let some kind ← accessorWord? then
    advance
    let (key, computed) ← propertyName g
    return ← method kind {} key computed
  let isGenerator ← eat "*"
  let isName ← atName
  let (key, computed) ← propertyName g
  if isGenerator || (← atPunctuator "(") || (← atPunctuator "<") then
    return ← method .method
      { isAsync := ms.contains .async, isGenerator := isGenerator } key computed
  allowOnly [] .modifierHere ms
  if isName && !computed && !(← atPunctuator ":") then
    checkName (key.name?.getD "")
    if ← eat "=" then
      modify fun s => { s with defaults := start :: s.defaults }
      let value ← g .assignment
      let d ← finish start (.assign "=") [key, value]
      return ← finish start (.property false true) [key, d]
    return ← finish start (.property false true) [key, key]
  expect ":"
  let value ← g .assignment
  finish start (.property computed false) [key, value]

/-- An object. -/
def object (g : Grammar) : Reader Tree := do
  let start ← here
  expect "\x7b"
  let (ps, trailing) ← enclosed do items "\x7d" (objectProperty g) (← size)
  expect "\x7d"
  markTrailing start trailing
  finish start .object ps

/-! ## Primary expressions -/

/-- A template, `tagged` or not. -/
def template (g : Grammar) (tagged : Bool) : Reader Tree := do
  let start ← here
  let (texts, es) ← templateParts tagged (enclosed (g .expression))
  finish start (.template texts) es

/-- An expression between parentheses. -/
def parenthesized (g : Grammar) : Reader Tree := do
  let start ← here
  advance
  let innerStart ← here
  let (es, trailing) ← enclosed do items ")" (g .assignment) (← size)
  if trailing then fail (.trailingComma "Parenthesized expressions")
  match es with
  | [] =>
    expect ")"
    fail .emptyParentheses
  | [e] =>
    expect ")"
    finish start .paren [e]
  | _ =>
    let e ← finish innerStart .sequence es
    expect ")"
    finish start .paren [e]

/-- A regular expression. After a fault in any token none can be read. -/
def regex : Reader Tree := do
  let start ← here
  rescan fun cs => Lexer.scanRegex (cs.drop 1)
  if !(← get).lexical.isEmpty then giveUp .unexpectedToken
  match ← current with
  | .regex pattern flags =>
    if flags.contains 'u' && flags.contains 'v' then note .regexFlagsApart
    advance
    finish start (.regex pattern flags) []
  | _ => unexpected

/-- An expression that is built of no other one at its left. -/
def primary (g : Grammar) : Reader Tree := do
  let start ← here
  let literal (form : Form) : Reader Tree := do
    advance
    finish start form []
  match ← current with
  | .string value halves => literal (.string value halves)
  | .number raw => literal (.number raw)
  | .bigint raw => literal (.bigint raw)
  | .template _ _ _ => template g false
  | .punctuator p =>
    match p with
    | "(" => parenthesized g
    | "[" => array g
    | "\x7b" => object g
    | "@" => g .classExpression
    | "/" | "/=" => regex
    | "<" => if (← get).dialect.markup then g .markup else unexpected
    | _ => unexpected
  | .name w _ =>
    match w with
    | "this" => literal .this
    | "null" => literal .null
    | "true" => literal (.boolean true)
    | "false" => literal (.boolean false)
    | "function" => g .functionExpression
    | "class" => g .classExpression
    | "async" =>
      match ← peek with
      | (.name "function" _, false) => g .functionExpression
      | _ => name
    | _ => name
  | _ => unexpected

/-! ## Calls and members -/

/-- Arguments between parentheses. -/
def arguments (g : Grammar) : Reader Tree := do
  let start ← here
  let args ← enclosed (bracketed "(" ")" (spreadable g))
  finish start .list args

/-- Whether the current token can begin an expression. -/
def startsExpression : Reader Bool := do
  match ← current with
  | .name w _ =>
    return isNameWord w || ["this", "new", "function", "class", "import", "super", "null", "true",
      "false", "typeof", "void", "delete"].contains w
  | .string _ _ | .number _ | .bigint _ | .template _ _ _ | .privateName _ | .regex _ _ => return true
  | .punctuator p =>
    return ["(", "[", "\x7b", "+", "-", "~", "!", "++", "--", "/", "/=", "<", "@"].contains p
  | _ => return false

/-- Types between angles in an expression, unless the angles turn out to compare. -/
def expressionTypeArguments? (g : Grammar) : Reader (Option Tree) := do
  if !(← typed) then return none
  if !((← atPunctuator "<") || (← atPunctuator "<<")) then return none
  attempt do
    let args ← typeArgumentsBefore g do
      if ">=".toList.isPrefixOf (← get).text then unexpected
    joinAngles
    match ← current with
    | .punctuator "(" | .template _ _ _ => return args
    | .punctuator "<" | .punctuator ">" | .punctuator "+" | .punctuator "-" => unexpected
    | _ =>
      if (← onNewLine) || (← binaryOperator?).isSome || !(← startsExpression) then return args
      unexpected

/-- A member name after a point. -/
def memberName : Reader Tree := do
  let start ← here
  match ← current with
  | .privateName n =>
    advance
    finish start (.privateName n) []
  | _ => anyName

/-- Whether a chain of members and calls holds an optional link. -/
def hasOptionalLink : Nat → Tree → Bool
  | 0, _ => false
  | fuel + 1, t =>
    match t.form with
    | .member optional | .computedMember optional | .call optional =>
      optional || hasOptionalLink fuel (t.part 0)
    | .nonNull | .taggedTemplate | .instantiation => hasOptionalLink fuel (t.part 0)
    | _ => false

/-- A template after its tag. An optional chain is no tag. -/
def taggedTemplate (g : Grammar) (start : Nat) (tag types : Tree) (inChain : Bool) :
    Reader Tree := do
  let quasi ← template g true
  let bound ← size
  if inChain || hasOptionalLink bound tag then note .optionalTaggedTemplate
  finish start .taggedTemplate [tag, types, quasi]

/-- A member between brackets. -/
def bracketedMember (g : Grammar) (start : Nat) (optional : Bool) (t : Tree) : Reader Tree := do
  expect "["
  let e ← enclosed (g .expression)
  expect "]"
  finish start (.computedMember optional) [t, e]

/-- A member of an expression, at its name. -/
def namedMember (start : Nat) (optional : Bool) (t : Tree) : Reader Tree := do
  let n ← memberName
  match t.form with
  | .instantiation => note .instantiationMember
  | _ => pure ()
  finish start (.member optional) [t, n]

/-- An optional step from an expression, at the token after its sign. -/
def optionalStep (g : Grammar) (start : Nat) (t : Tree) : Reader Tree := do
  match ← current with
  | .punctuator "[" => bracketedMember g start true t
  | .punctuator "(" =>
    let args ← arguments g
    finish start (.call true) [t, .none, args]
  | .template _ _ _ => taggedTemplate g start t .none true
  | .punctuator "<" | .punctuator "<<" =>
    let types ← typeArguments g
    match ← current with
    | .template _ _ _ => taggedTemplate g start t types true
    | _ =>
      let args ← arguments g
      finish start (.call true) [t, types, args]
  | .name _ _ | .privateName _ => namedMember start true t
  | _ => fail .optionalName

/-- One step from an expression to a member of it, a call of it, and the like. -/
def linkStep (g : Grammar) (start : Nat) (calls : Bool) (t : Tree) : Reader (Option Tree) := do
  match ← current with
  | .punctuator "." =>
    advance
    return some (← namedMember start false t)
  | .punctuator "?." =>
    if !calls && ((← nextIs "(") || (← nextIs "<")) then return none
    advance
    return some (← optionalStep g start t)
  | .punctuator "[" =>
    if (← scope).inDecorator then return none
    return some (← bracketedMember g start false t)
  | .punctuator "!" =>
    if !(← typed) || (← onNewLine) then return none
    advance
    return some (← finish start .nonNull [t])
  | .template _ _ _ =>
    let (tag, types) : Tree × Tree := match t with
      | .node .instantiation _ [e, types] => (e, types)
      | _ => (t, .none)
    return some (← taggedTemplate g start tag types false)
  | .punctuator "(" =>
    if !calls then return none
    let args ← arguments g
    match t with
    | .node .instantiation _ [callee, types] =>
      return some (← finish start (.call false) [callee, types, args])
    | _ => return some (← finish start (.call false) [t, .none, args])
  | .punctuator p =>
    if p == "<" || p == "<<" then
      match ← expressionTypeArguments? g with
      | some types => return some (← finish start .instantiation [t, types])
      | none => return none
    else return none
  | _ => return none

/-- A call of `import`, after its word. -/
def importCall (g : Grammar) (start : Nat) (phase : Phase) : Reader Tree := do
  expect "("
  if ← eat ")" then fail .importSource
  let (source, options) ← enclosed do
    let source ← g .assignment
    let options ← if ← eat "," then
        if ← atPunctuator ")" then pure Tree.none
        else do
          let o ← g .assignment
          discard (eat ",")
          pure o
      else pure Tree.none
    return (source, options)
  if !(← eat ")") then fail .importArguments
  finish start (.importCall phase) [source, options]

/-- An expression that starts with the word `import`. -/
def importExpression (g : Grammar) : Reader Tree := do
  let start ← here
  advance
  let meta_ ← finish start (.identifier "import") []
  if ← eat "." then
    match ← current with
    | .name "meta" _ =>
      let n ← anyName
      finish start .metaProperty [meta_, n]
    | .name "source" _ =>
      advance
      importCall g start .source
    | .name "defer" _ =>
      advance
      importCall g start .defer
    | _ =>
      advance
      fail .importMeta
  else if ← atPunctuator "(" then importCall g start .none
  else unexpected

/-- An expression that members and calls can follow. -/
def memberBase (g : Grammar) (newExpression : Reader Tree) : Reader Tree := do
  let start ← here
  match ← current with
  | .name "super" _ =>
    advance
    let follows ← [".", "[", "("].anyM atPunctuator
    if !follows then note .unexpectedSuper
    finish start .super []
  | .name "import" _ => importExpression g
  | .name "new" _ => newExpression
  | _ => primary g

/-- A construction: `new` may be repeated, each taking the arguments that come first. -/
def newExpression (g : Grammar) : Nat → Reader Tree
  | 0 => unexpected
  | fuel + 1 => do
    let start ← here
    advance
    if ← atPunctuator "." then
      let n ← finish start (.identifier "new") []
      advance
      if !(← atWord "target") then
        advance
        fail .newTarget
      let m ← anyName
      return ← finish start .metaProperty [n, m]
    let innerStart ← here
    let base ← memberBase g (newExpression g fuel)
    let callee ← extend (linkStep g innerStart false) (← size) base
    let (callee, types) : Tree × Tree := match callee with
      | .node .instantiation _ [c, ts] => (c, ts)
      | t => (t, .none)
    let isChained := (← atPunctuator "?.") || hasOptionalLink (← size) callee
    let args ← if ← atPunctuator "(" then arguments g else pure (.list [])
    match callee.form with
    | .importCall _ => note .newImport
    | _ => pure ()
    if isChained then fail .optionalChainInNew
    finish start .new [callee, types, args]

/-- An expression that can be called, with its members and calls. -/
def leftHandSide (g : Grammar) : Reader Tree := do
  let start ← here
  let base ← memberBase g (newExpression g (← size))
  let t ← extend (linkStep g start true) (← size) base
  if !hasOptionalLink (← size) t then return t
  match t with
  | .node .instantiation span [e, types] =>
    return .node .instantiation span [.node .chain e.span [e], types]
  | .node .taggedTemplate _ _ => return t
  | _ => finish start .chain [t]

end QuietEmit.Syntax.Reader
