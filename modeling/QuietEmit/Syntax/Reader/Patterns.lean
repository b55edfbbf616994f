/-
  QuietEmit.Syntax.Reader.Patterns

  Reading patterns, parameters and property names.
-/
import QuietEmit.Syntax.Reader.Modifiers

namespace QuietEmit.Syntax.Reader

/-! ## Annotations -/

/-- A type after a colon, if there is one. -/
def colonType? (g : Grammar) : Reader Tree := do
  let start ← here
  if (← typed) && (← atPunctuator ":") then
    advance
    let t ← within (fun s => { s with allowIn := true, allowConditional := true }) (g .type)
    finish start .colonType [t]
  else return .none

/-- A value after an equals sign, if there is one. -/
def initializer? (g : Grammar) : Reader Tree := do
  if ← eat "=" then within (fun s => { s with allowIn := true }) (g .assignment)
  else return .none

/-! ## Property names -/

/-- The name of a property, with whether it is computed. -/
def propertyName (g : Grammar) : Reader (Tree × Bool) := do
  let start ← here
  match ← current with
  | .string value halves =>
    advance
    return (← finish start (.string value halves) [], false)
  | .number raw =>
    advance
    return (← finish start (.number raw) [], false)
  | .bigint raw =>
    advance
    return (← finish start (.bigint raw) [], false)
  | .punctuator "[" =>
    advance
    let e ← within (fun s => { s with allowIn := true }) (g .assignment)
    expect "]"
    return (e, true)
  | _ => return (← anyName, false)

/-! ## Patterns -/

/-- A pattern with its annotation. -/
def annotated (g : Grammar) (allowOptional : Bool) : Reader Tree := do
  let start ← here
  let p ← g .pattern
  let optional ← if allowOptional && (← typed) then eat "?" else pure false
  let a ← colonType? g
  finish start (.binding optional) [p, a]

/-- A pattern with its annotation and default. -/
def element (g : Grammar) : Reader Tree := do
  let start ← here
  let b ← annotated g true
  if ← atPunctuator "=" then
    let value ← initializer? g
    finish start .defaulted [b, value]
  else return b

/-- A rest element. It may be neither optional nor have a default. -/
def restElement (g : Grammar) : Reader Tree := do
  let start ← here
  advance
  let innerStart ← here
  let p ← g .pattern
  if ← typed then
    if ← eat "?" then note .restOptional
  let a ← colonType? g
  let b ← finish innerStart (.binding false) [p, a]
  if ← atPunctuator "=" then
    note .restDefault
    let value ← initializer? g
    let d ← finish innerStart .defaulted [b, value]
    finish start .rest [d]
  else finish start .rest [b]

/-- Whether a tree is a rest element. -/
def isRest (t : Tree) : Bool :=
  match t.form with
  | .rest => true
  | .parameter _ => match (t.part 1).form with
    | .rest => true
    | _ => false
  | _ => false

/-- Items between commas up to a closing punctuator, of which a rest comes last. -/
def withRest (close : String) (late : Fault) (item : Reader Tree) :
    Nat → Bool → Reader (List Tree)
  | 0, _ => return []
  | fuel + 1, afterRest => do
    if ← atClose close then return []
    if afterRest then note late
    let first ← item
    if ← atClose close then return [first]
    if !(← atPunctuator ",") then refuseItem close
    advance
    if ← atPunctuator close then
      if isRest first && !(← scope).ambient then note .restTrailingComma
      return [first]
    return first :: (← withRest close late item fuel (afterRest || isRest first))

/-- A rest comes last, even where others follow it. -/
def restLast (ts : List Tree) : List Tree :=
  ts.filter (!isRest ·) ++ (ts.filter isRest).getLast?.toList

/-- An element of an array pattern, or a hole. -/
def arrayElement (g : Grammar) : Reader Tree := do
  if ← atPunctuator "," then return .none
  else if ← atPunctuator "..." then restElement g
  else element g

/-- The rest of the properties of an object pattern: a name, and nothing more. -/
def propertyRest (g : Grammar) : Reader Tree := do
  let t ← restElement g
  let b := t.part 0
  match b with
  | .node (.binding _) _ [_, a] => if a.isPresent then note .restName
  | _ => pure ()
  match b with
  | .node (.binding _) _ [.node (.identifier _) _ _, _] => return t
  | _ => fail .restPattern

/-- A property of an object pattern. -/
def patternProperty (g : Grammar) : Reader Tree := do
  if ← atPunctuator "..." then propertyRest g
  else
    let start ← here
    let isName ← atName
    let (key, computed) ← propertyName g
    if ← eat ":" then
      let value ← element g
      finish start (.property computed false) [key, value]
    else if isName && !computed then
      let b : Tree := .node (.binding false) key.span [key, .none]
      if ← atPunctuator "=" then
        let value ← initializer? g
        let d ← finish start .defaulted [b, value]
        finish start (.property false true) [key, d]
      else finish start (.property false true) [key, b]
    else refuse ":"

/-- A name or a pattern that binds names. -/
def pattern (g : Grammar) : Reader Tree := do
  let start ← here
  if ← eat "[" then
    let elements ← withRest "]" .restNotLast (arrayElement g) (← size) false
    expect "]"
    finish start .arrayPattern (restLast elements)
  else if ← eat "\x7b" then
    let properties ← withRest "\x7d" .restNotLast (patternProperty g) (← size) false
    expect "\x7d"
    finish start .objectPattern (restLast properties)
  else bindingName

/-! ## Decorators and parameters -/

/-- Decorators before a class, a member or a parameter. -/
def decorators (g : Grammar) : Reader Tree := do
  let one : Reader (Option Tree) := do
    if ← atPunctuator "@" then
      let start ← here
      advance
      let e ← within (fun s => { s with inDecorator := true }) (g .leftHandSide)
      return some (← finish start .decorator [e])
    else return none
  return .list (← many one (← size))

/-- Whether a tree is the parameter `this`. -/
def isThisParameter (t : Tree) : Bool :=
  match t with
  | .node (.parameter _) _ [_, .node (.binding _) _ [.node (.identifier "this") _ _, _]] => true
  | _ => false

/-- The modifiers that the parameters of something may have. -/
def ParameterOwner.modifiers (owner : ParameterOwner) : List Modifier :=
  .readonly :: if owner == .constructor_ then [.public_, .private_, .protected_, .override] else []

/-- One parameter. Those of a constructor may have modifiers, and those of methods decorators. -/
def parameter (g : Grammar) (owner : ParameterOwner) : Reader Tree := do
  let start ← here
  let ds ← decorators g
  if (← typed) && owner == .function then
    for _ in ds.parts do note .decoratorPlace
  let ms ← modifiers false
  if ← typed then allowOnly (ParameterOwner.modifiers owner) (.modifierOn · "a parameter") ms
  else allowOnly [] (fun _ => .typedOnly "Parameter modifiers") ms
  let m := Modifier.collect ms
  if ← atPunctuator "..." then
    if !ms.isEmpty then unexpected
    let t ← restElement g
    finish start (.parameter m) [ds, t]
  else
    let e ← element g
    let b := match e.form with
      | .defaulted => e.part 0
      | _ => e
    match e.form, b.form with
    | .defaulted, .binding true => note .optionalWithDefault
    | _, _ => pure ()
    if owner == .constructor_ && !ms.isEmpty && (b.part 0).name?.isNone then note .propertyPattern
    finish start (.parameter m) [ds, e]

/-- The parameter `this`, which comes before all others. -/
def thisParameter (g : Grammar) : Reader Tree := do
  let start ← here
  let n ← anyName
  let a ← colonType? g
  let b ← finish start (.binding false) [n, a]
  let p ← finish start (.parameter {}) [.list [], b]
  if !(← atPunctuator ")") then expect ","
  return p

/-- Parameters between parentheses. -/
def parameters (g : Grammar) (owner : ParameterOwner) : Reader Tree := do
  let start ← here
  expect "("
  let ps ← within (fun s => { s with allowIn := true }) do
    let first ← if (← typed) && (← atWord "this") then do pure [← thisParameter g] else pure []
    let rest ← withRest ")" .restParameterNotLast (parameter g owner) (← size) false
    return first ++ rest
  expect ")"
  finish start .list (restLast ps)

end QuietEmit.Syntax.Reader
