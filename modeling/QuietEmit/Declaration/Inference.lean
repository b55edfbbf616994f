/-
  QuietEmit.Declaration.Inference

  Types that can be told from an expression alone: those of literals, of
  functions whose types are written, and of objects made of such.
-/
import QuietEmit.Declaration.Fault
import QuietEmit.Syntax.Build
import QuietEmit.Syntax.Constant
import QuietEmit.Syntax.Lexer
import QuietEmit.Syntax.Names

namespace QuietEmit.Declaration

open Syntax

/-! ## Types -/

/-- A type named by a word. -/
def wordType (w : String) : Tree := Build.made (.keywordType w) []

/-- A type after a colon. -/
def colon (t : Tree) : Tree := Build.made .colonType [t]

/-- A literal as a type. -/
def literalType (e : Tree) : Tree := Build.made .literalType [e]

/-- An optional type after a colon. -/
def colon? : Option Tree → Tree
  | some t => colon t
  | none => .none

/-! ## Expressions -/

/-- A sign before a number. -/
def isSignedNumber (t : Tree) : Bool :=
  match t with
  | .node (.unary operator) _ [e] =>
    (operator == "-" || operator == "+") &&
      match e.form with
      | .number _ | .bigint _ => true
      | _ => false
  | _ => false

/-- Whether a constant can keep an expression as its value. -/
def isPlainValue (t : Tree) : Bool :=
  match t.form with
  | .number _ | .bigint _ | .string _ _ => true
  | .template texts => texts.length ≤ 1
  | _ => isSignedNumber t

/-- A value as a constant keeps it: a template is a string. -/
def plainValue (t : Tree) : Tree :=
  match t.form with
  | .template texts => Build.text (String.join (texts.map StringLiteral.templateText))
  | _ => t

/-- Whether a type is `const`. -/
def isConstType (t : Tree) : Bool :=
  match t with
  | .node .typeReference _ (n :: _) => n.name? == some "const"
  | _ => false

/-- Whether an expression is a function. -/
def isFunction (t : Tree) : Bool :=
  match t.form with
  | .function _ | .arrow _ => true
  | _ => false

/-- Whether an expression is the object of the symbols of the language, which is a member of the
global object too. -/
def isSymbols (t : Tree) : Bool :=
  match t with
  | .node (.member false) _ [o, n] =>
    (o.name? == some "globalThis" || o.name? == some "window") && n.name? == some "Symbol"
  | _ => t.name? == some "Symbol"

/-- Whether a name is a literal. -/
def isLiteralKey (key : Tree) : Bool :=
  match key.form with
  | .string _ _ | .number _ => true
  | .template texts => texts.length ≤ 1
  | _ => isSignedNumber key

/-- A computed name that is known: a literal, or a symbol of the language. -/
def isKnownName (key : Tree) : Bool :=
  match key with
  | .node (.member false) _ [o, _] => isSymbols o
  | _ => isLiteralKey key

/-- Whether two names that are the same at every run are written alike: both as names, or both as
literals of one kind. -/
def isSameKey (a b : Tree) : Bool :=
  match a.form, b.form with
  | .identifier m, .identifier n | .string m _, .string n _ | .template [m], .template [n]
  | .bigint m, .bigint n => m == n
  | .number m, .number n => Literal.numberValue m == Literal.numberValue n
  | _, _ => false

/-- The text of a name that is the same at every run. -/
def fixedName? (computed : Bool) (key : Tree) : Option String :=
  match key.form with
  | .identifier n => if computed then none else some n
  | .string s _ => some s
  | .number raw => some (Constant.numberText (Literal.numberValue raw))
  | .bigint raw => some (String.ofList (raw.toList.filter fun c => c != 'n' && c != '_'))
  | .template [text] => some (StringLiteral.templateText text)
  | _ => none

/-- Whether a text can be written as a name. -/
def isName (s : String) : Bool :=
  match s.toList with
  | [] => false
  | c :: rest => Lexer.isNameStart c && rest.all Lexer.isNamePart

/-- A name of an object as it is declared: a string or number needs no brackets, and a string that
can be written as a name no quotes. -/
def plainName (computed : Bool) (key : Tree) : Tree × Bool :=
  let ofText (s : String) : Tree × Bool := (if isName s then Build.name s else Build.text s, false)
  match key.form with
  | .string s _ => ofText s
  | .template [text] => ofText (StringLiteral.templateText text)
  | .number _ => (key, false)
  | _ => (key, computed)

/-- Whether a name has to be left out because it is computed; this is noted. -/
def hidesName (computed : Bool) (key : Tree) : Declaring Bool := do
  if computed && !isKnownName key then
    note .computedName
    return true
  else return false

/-! ## Results of functions -/

/-- The operands of the `return` statements in a statement, outside the functions in it. -/
def returns : Tree → List Tree :=
  Tree.recurse fun form _ parts =>
    match form with
    | .return_ => parts.map Prod.fst
    | .function _ | .arrow _ | .class_ _ _ => []
    | _ => parts.flatMap Prod.snd

/-- The operand that tells the result of a function, and whether the result may be undefined
besides: the operand of the last `return` if all before it have none. -/
def result? (es : List Tree) : Option (Tree × Bool) :=
  match es.reverse with
  | e :: earlier =>
    if e.isPresent && earlier.all Tree.isAbsent then some (e, !earlier.isEmpty) else none
  | [] => none

/-- The name that a type refers to. -/
def referredName? (t : Tree) : Option (String × Bool) :=
  match t with
  | .node .typeReference _ (n :: _) => n.leftmost?.map (·, false)
  | .node .typeQuery _ (n :: _) => n.leftmost?.map (·, true)
  | _ => none

/-- The names that the statements of the body of a function declare. -/
def innerNames (body : Tree) : List Declared := body.statements.flatMap Tree.declaredNames

/-! ## Parameters -/

/-- Whether a parameter must be given. -/
def isRequired (p : Tree) : Bool :=
  match p with
  | .node (.parameter _) _ [_, .node (.binding optional) _ _] => !optional
  | _ => false

/-- Whether a type includes `undefined` already. -/
def mayBeUndefined (t : Tree) : Bool :=
  match t with
  | .node (.keywordType w) _ _ => w == "undefined" || w == "any" || w == "unknown"
  | .node .union _ ts => ts.any fun t =>
    match t.form with
    | .keywordType w => w == "undefined" || w == "any" || w == "unknown"
    | _ => false
  | _ => false

/-- A pattern without the defaults in it. -/
def withoutDefaults (t : Tree) : Tree :=
  t.recurse fun form span parts =>
    match form, parts with
    | .defaulted, [(_, inner), _] => inner
    | .binding _, [(_, pattern), (type, _)] => .node form span [pattern, type]
    | .property _ _, [(key, _), (_, value)] => .node form span [key, value]
    | _, _ => .node form span (parts.map Prod.snd)

/-- A type beside `undefined`. Some types need parentheses there. -/
def besideUndefined (t : Tree) : Tree :=
  let others : List Tree := match t.form with
    | .union => t.parts
    | .functionType | .constructorType _ | .conditionalType => [Build.made .parenType [t]]
    | _ => [t]
  .node .union t.span (others ++ [wordType "undefined"])

/-- A type that may be undefined besides, if it does not say so yet. -/
def orUndefined (t : Tree) : Tree := if mayBeUndefined t then t else besideUndefined t

/-- Whether a parameter declares a member of its class too. -/
def declaresMember (m : Modifiers) : Bool := m.access.isSome || m.isReadonly || m.isOverride

/-- Whether a parameter stands for the type of `this`. -/
def isThis (b : Tree) : Bool :=
  match b with
  | .node (.binding _) _ (n :: _) => n.name? == some "this"
  | _ => false

/-! ## Inference -/

/-- How a type is asked for. -/
inductive Mode where
  /-- The type that a variable with this value has. -/
  | widened
  /-- The type of this value and no other. -/
  | exact
deriving DecidableEq

/-- The type that is written for the parameter of a setter. -/
def writtenType? (f : Tree) : Option Tree :=
  match (f.part 2).parts with
  | [.node (.parameter _) _ [_, .node (.binding _) _ [_, type]]] =>
    if type.isPresent then some (type.part 0) else none
  | _ => none

/-- The property that tells the type of the accessors of a name among the properties of an object:
the first of them where a type is written, or else the getter. -/
def teller? (key : Tree) (all : List Tree) : Option Tree :=
  let accessors := all.filter fun p =>
    match p.form with
    | .methodProperty kind _ => kind != .method && isSameKey key (p.part 0)
    | _ => false
  let isTyped (p : Tree) : Bool :=
    ((p.part 1).part 3).isPresent || (writtenType? (p.part 1)).isSome
  let isGetter (p : Tree) : Bool :=
    match p.form with
    | .methodProperty .get _ => true
    | _ => false
  (accessors.find? isTyped).or ((accessors.find? isGetter).or accessors.head?)

mutual

/-- The type of an expression, if it can be told; `fuel` bounds how deep it is nested. -/
def typeOf? : Nat → Mode → Tree → Declaring (Option Tree)
  | 0, _, _ => return none
  | fuel + 1, mode, t => do
    let literal (w : String) : Option Tree :=
      match mode with
      | .widened => some (wordType w)
      | .exact => some (literalType t)
    match t.form with
    | .boolean _ => return literal "boolean"
    | .number _ => return literal "number"
    | .bigint _ => return literal "bigint"
    | .string _ _ => return literal "string"
    | .null => return some (wordType "null")
    | .template texts =>
      if texts.length ≤ 1 then
        match mode with
        | .widened => return some (wordType "string")
        | .exact => return some (literalType (plainValue t))
      else return none
    | .identifier n => return if n == "undefined" then some (wordType "undefined") else none
    | .function _ => functionType? fuel (t.part 1) (t.part 2) (← functionResult? fuel t)
    | .arrow _ => functionType? fuel (t.part 0) (t.part 1) (← arrowResult? fuel t)
    | .object => return some (← objectType fuel mode t.parts)
    | .array =>
      match mode with
      | .widened =>
        note .plainArray
        return some (wordType "unknown")
      | .exact =>
        let types ← elementTypes fuel t.parts
        return some (Build.made (.typeOperator "readonly") [Build.made .tuple types])
    | .asType =>
      if isConstType (t.part 1) then typeOf? fuel .exact (t.part 0) else return some (t.part 1)
    | .class_ _ _ =>
      match mode with
      | .widened =>
        note .classExpression
        return some (wordType "unknown")
      | .exact => return none
    | .typeAssertion =>
      match mode with
      | .widened => return some (t.part 0)
      | .exact => return none
    | .paren | .nonNull | .satisfiesType =>
      match mode with
      | .widened => typeOf? fuel mode (t.part 0)
      | .exact => return none
    | .unary _ =>
      if isSignedNumber t then
        match mode with
        | .widened => typeOf? fuel mode (t.part 0)
        | .exact => return some (literalType t)
      else return none
    | _ => return none
termination_by fuel => (fuel, 0, 0)

/-- The types of the elements of a constant array. -/
def elementTypes (fuel : Nat) : List Tree → Declaring (List Tree)
  | [] => return []
  | e :: rest => do
    let here : List Tree ← match e.form with
      | .spread => do
        note .arraySpread
        pure []
      | .absent => pure [wordType "undefined"]
      | _ => do
        match ← typeOf? fuel .exact e with
        | some t => pure [t]
        | none => do
          note .expressionType
          pure []
    return here ++ (← elementTypes fuel rest)
termination_by es => (fuel, 1, es.length)

/-- The type of an object. Accessors that do not tell their type are noted after all else. -/
def objectType (fuel : Nat) (mode : Mode) (ps : List Tree) : Declaring Tree := do
  let (members, untold) ← memberTypes fuel mode ps ps
  for _ in List.range untold do note .expressionType
  return Build.made .typeLiteral members
termination_by (fuel, 6, 0)

/-- The members of the type of an object, and the number of accessors that should tell a type and do
not. -/
def memberTypes (fuel : Nat) (mode : Mode) (all : List Tree) :
    List Tree → Declaring (List Tree × Nat)
  | [] => return ([], 0)
  | p :: rest => do
    let (here?, isUntold) ← memberType? fuel mode all p
    let (members, untold) ← memberTypes fuel mode all rest
    return (here?.toList ++ members, if isUntold then untold + 1 else untold)
termination_by ps => (fuel, 5, ps.length)

/-- The member of an object's type for a property. The two accessors of a name have one; an accessor
that should tell its type and does not is marked. -/
def memberType? (fuel : Nat) (mode : Mode) (all : List Tree) (p : Tree) :
    Declaring (Option Tree × Bool) := do
  let plain (t : Option Tree) : Declaring (Option Tree × Bool) := return (t, false)
  let propertyOf (span : Span) (key : Tree) (computed : Bool) (t : Tree) : Tree :=
    let (key, computed) := plainName computed key
    .node (.propertySignature { isReadonly := mode == .exact, isComputed := computed }) span
      [key, colon t]
  match p with
  | .node (.property computed shorthand) span [key, value] =>
    if ← hidesName computed key then return ← plain none
    if shorthand then
      note .shorthand
      return ← plain none
    match ← typeOf? fuel mode value with
    | some t => plain (propertyOf span key computed t)
    | none =>
      note .expressionType
      plain none
  | .node (.methodProperty .method computed) span [key, f] =>
    if ← hidesName computed key then return ← plain none
    match mode with
    | .exact =>
      match ← functionType? fuel (f.part 1) (f.part 2) (← functionResult? fuel f) with
      | some t => plain (propertyOf span key computed t)
      | none =>
        note .expressionType
        plain none
    | .widened =>
      let result ← functionResult? fuel f
      if result.isNone then note .methodResult
      let ps ← parameters fuel (f.part 2)
      let (key, computed) := plainName computed key
      plain (some (.node (.methodSignature .method { isComputed := computed }) span
        [key, f.part 1, ps, colon? result]))
  | .node (.methodProperty kind computed) span [key, f] =>
    if ← hidesName computed key then return ← plain none
    if (teller? key all).any fun other => other.span.start != span.start then return ← plain none
    let type? ← if kind == .get then functionResult? fuel f else pure (writtenType? f)
    return (type?.map (propertyOf span key computed), type?.isNone)
  | _ =>
    note .objectSpread
    plain none
termination_by (fuel, 5, 0)

/-- The result of a function that is told by its body. -/
def bodyResult? (fuel : Nat) (body : Tree) : Declaring (Option Tree) := do
  match result? (returns body) with
  | none => return none
  | some (e, optional) =>
    match ← typeOf? fuel .widened e with
    -- A function says itself what it lacks.
    | none => return if isFunction e then some (wordType "unknown") else none
    | some t =>
      match referredName? t with
      | some (n, isValue) =>
        let isInner := (innerNames body).any fun d =>
          d.name == n && if isValue then d.isValue else d.isType
        if isInner then note (.privateName n)
      | none => pure ()
      return some (if optional then besideUndefined t else t)
termination_by (fuel, 1, 0)

/-- The result of a function, as written or as told by its body. -/
def functionResult? (fuel : Nat) (f : Tree) : Declaring (Option Tree) :=
  match f with
  | .node (.function traits) _ [_, _, _, result, body] =>
    if result.isPresent then return some (result.part 0)
    else if traits.isAsync || traits.isGenerator || body.isAbsent then return none
    else bodyResult? fuel body
  | _ => return none
termination_by (fuel, 2, 0)

/-- The result of an arrow function. -/
def arrowResult? (fuel : Nat) (f : Tree) : Declaring (Option Tree) :=
  match f with
  | .node (.arrow traits) _ [_, _, result, body] =>
    if result.isPresent then return some (result.part 0)
    else if traits.isAsync then return none
    else
      match body.form with
      | .functionBody => bodyResult? fuel body
      | _ => typeOf? fuel .widened body
  | _ => return none
termination_by (fuel, 2, 0)

/-- The type of a function; a missing result is noted. -/
def functionType? (fuel : Nat) (typeParameters ps : Tree) (result : Option Tree) :
    Declaring (Option Tree) := do
  if result.isNone then note .functionResult
  let ps ← parameters fuel ps
  return result.map fun r => Build.made .functionType [typeParameters, ps, colon r]
termination_by (fuel, 4, 0)

/-- Parameters as they are declared. -/
def parameters (fuel : Nat) (ps : Tree) : Declaring Tree := do
  return ps.withParts (← parameterList fuel ps.parts)
termination_by (fuel, 3, 0)

/-- Each parameter as it is declared: with its type, and without its default. -/
def parameterList (fuel : Nat) : List Tree → Declaring (List Tree)
  | [] => return []
  | p :: rest => do
    let here ← parameter fuel (rest.any isRequired) p
    return here ++ (← parameterList fuel rest)
termination_by ps => (fuel, 2, ps.length)

/-- A parameter as it is declared; `followed` tells whether one that must be given comes after
it. -/
def parameter (fuel : Nat) (followed : Bool) (p : Tree) : Declaring (List Tree) := do
  let made (span : Span) (b : Tree) : Declaring (List Tree) :=
    return [.node (.parameter {}) span [.list [], withoutDefaults b]]
  -- A type that undefined is added to has to be told from its declaration alone.
  let widened (adds : Bool) (t : Tree) : Declaring Tree := do
    if !adds then return colon t
    match t.form with
    | .typeReference =>
      note .addedUndefined
      return colon t
    | _ => return colon (orUndefined t)
  match p with
  | .node (.parameter _) span [_, .node .defaulted bSpan [.node (.binding _) _ [pattern, type], value]] =>
    if pattern.name?.isNone && type.isAbsent then
      note .parameterType
      return []
    let type? ← if type.isPresent then pure (some (type.part 0)) else typeOf? fuel .widened value
    match type? with
    | none =>
      note .parameterType
      made span (.node (.binding (!followed)) bSpan [pattern, .none])
    | some t =>
      made span (.node (.binding (!followed)) bSpan [pattern, ← widened followed t])
  | .node (.parameter m) span [_, .node (.binding optional) bSpan [pattern, type]] =>
    if isThis (.node (.binding optional) bSpan [pattern, type]) then return [p]
    if type.isAbsent then note .parameterType
    if optional && declaresMember m && type.isPresent then
      made span (.node (.binding optional) bSpan [pattern, ← widened true (type.part 0)])
    else made span (.node (.binding optional) bSpan [pattern, type])
  | .node (.parameter _) span [_, b] =>
    let untyped := match b with
      | .node .rest _ [.node (.binding _) _ [_, type]] => type.isAbsent
      | _ => true
    if untyped then note .parameterType
    -- The defaults in a rest stay.
    return [.node (.parameter {}) span [.list [], b]]
  | _ => return [p]
termination_by (fuel, 1, 0)

end

end QuietEmit.Declaration
