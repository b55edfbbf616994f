/-
  QuietEmit.Syntax.Reader.Classes

  Reading functions and classes.
-/
import QuietEmit.Syntax.Reader.Expressions

namespace QuietEmit.Syntax.Reader

/-! ## Functions -/

/-- The body of a function, or the end of a statement where it is left out. -/
def functionBody? (g : Grammar) : Reader Tree := do
  if ← atPunctuator "\x7b" then g .functionBody
  else if ← typed then
    semicolon
    return .none
  else fail .functionBody

/-- The name of a function, which has to be there if it is `named`. -/
def functionName? (named : Bool) : Reader Tree := do
  if ← atName then return ← name
  if named then
    match ← current with
    | .punctuator "(" => note .functionName
    | .name _ _ => refuse "Identifier"
    | _ => pure ()
  return .none

/-- A function from its word on, after any word before it. The name of a function that is no
declaration is read inside it. -/
def functionAfter (g : Grammar) (start : Nat) (isAsync isDeclaration named isDeclare : Bool) :
    Reader Tree := do
  expectWord "function"
  let isGenerator ← eat "*"
  let traits : FunctionTraits :=
    { isAsync := isAsync, isGenerator := isGenerator, isDeclare := isDeclare }
  let nameScope (s : Scope) : Scope :=
    if isDeclaration then s else { s with inAsync := isAsync, inGenerator := isGenerator }
  let n ← within nameScope (functionName? named)
  inFunction traits do
    let tps ← typeParameters? g
    let ps ← g (.parameters .function)
    let r ← resultType? g
    let body ← functionBody? g
    if isDeclare && body.isPresent then note .ambientBody
    finish start (.function traits) [n, tps, ps, r, body]

/-- A function expression from its first word on. -/
def functionExpression (g : Grammar) : Reader Tree := do
  let start ← here
  let isAsync ← eatWord "async"
  functionAfter g start isAsync false false false

/-- What follows the name of a method: its parameters and its body. -/
def method (g : Grammar) (traits : FunctionTraits) (owner : ParameterOwner) : Reader Tree := do
  let start ← here
  inFunction traits do
    let tps ← typeParameters? g
    let ps ← g (.parameters owner)
    let r ← resultType? g
    let body ← functionBody? g
    finish start (.function traits) [.none, tps, ps, r, body]

/-! ## Class members -/

/-- The name of a member in a message. -/
def memberText (key : Tree) : String :=
  match key.form with
  | .identifier n | .string n _ | .number n => n
  | .privateName n => "#" ++ n
  | _ => ""

/-- The name of a class member. A private one needs no word for who may see it. -/
def memberKey (g : Grammar) (ms : List Modifier) : Reader (Tree × Bool) := do
  match ← current with
  | .privateName n =>
    if ms.any Modifier.isAccess then note .accessOnPrivateName
    if n == "constructor" then note .privateConstructor
    let start ← here
    advance
    return (← finish start (.privateName n) [], false)
  | _ => propertyName g

/-- The fault of a modifier that has no place before a member. -/
def memberFault (m : Modifier) : Fault :=
  match m with
  | .const => .constMember
  | .in_ | .out =>
    .modifierOnlyOn m.text "a type parameter of a class, interface or type alias"
  | _ => .modifierOnMember m.text

/-- Note the modifiers that have no place before a member. -/
def allowOnMember (allowed : List Modifier) (ms : List Modifier) : Reader Unit :=
  for m in ms do
    if !allowed.contains m then note (memberFault m)

/-- The modifiers that any member may have. -/
def commonModifiers : List Modifier :=
  [.public_, .private_, .protected_, .static, .abstract_, .override, .readonly, .async, .default_]

/-- Note decorators of something that takes none. -/
def refuseDecorators (ds : Tree) : Reader Unit :=
  for _ in ds.parts do note .decoratorPlace

/-- Note decorators of a method without a body. -/
def checkDecorated (ds f : Tree) : Reader Unit := do
  if (f.part 4).isAbsent then
    for _ in ds.parts do note .decoratedOverload

/-- Whether a key is that name. -/
def isNamed (text : String) (key : Tree) (computed : Bool) : Bool :=
  !computed && match key.form with
    | .identifier n | .string n _ => n == text
    | _ => false

/-- Note a static member with the name that every class has. -/
def checkStatic (ms : List Modifier) (key : Tree) (computed : Bool) : Reader Unit :=
  if ms.contains .static && isNamed "prototype" key computed then note .staticPrototype
  else pure ()

/-- A constructor comes next: its name before a parenthesis or an angle. -/
def constructorFollows : Reader Bool := do
  let named ← match ← current with
    | .name n _ | .string n _ => pure (n == "constructor")
    | _ => pure false
  if !named then return false
  return (← nextIs "(") || (← nextIs "<")

/-- A constructor, at its name. -/
def constructor_ (g : Grammar) (start : Nat) (ds : Tree) (ms : List Modifier) : Reader Tree := do
  let (key, _) ← propertyName g
  let isAsync := ms.contains .async
  let f ← g (.method { isAsync := isAsync } .constructor_)
  refuseThis (f.part 2)
  if (f.part 1).isPresent then note .constructorTypeParameters
  if isAsync then note .constructorAsync
  allowOnMember commonModifiers ms
  finish start (.method .constructor_ (Modifier.collect ms)) [ds, key, f]

/-- A getter or setter, after its word. -/
def accessor (g : Grammar) (start : Nat) (ds : Tree) (ms : List Modifier) (kind : MethodKind) :
    Reader Tree := do
  let (key, computed) ← memberKey g ms
  let f ← g (.method { isAsync := ms.contains .async } .method)
  checkAccessor kind f
  if isNamed "constructor" key computed && !ms.contains .static then note .constructorAccessor
  checkStatic ms key computed
  if ms.contains .abstract_ && (f.part 4).isPresent then
    note (.abstractAccessorBody (memberText key))
  checkDecorated ds f
  allowOnMember commonModifiers ms
  let m := { Modifier.collect ms with isComputed := computed }
  finish start (.method kind m) [ds, key, f]

/-- A method, after its name. -/
def methodMember (g : Grammar) (start : Nat) (ds : Tree) (ms : List Modifier)
    (isGenerator optional : Bool) (key : Tree) (computed : Bool) : Reader Tree := do
  let f ← g (.method { isAsync := ms.contains .async, isGenerator := isGenerator } .method)
  if isGenerator && isNamed "constructor" key computed && !ms.contains .static then
    note .constructorGenerator
  checkStatic ms key computed
  if ms.contains .abstract_ && (f.part 4).isPresent then
    note (.abstractMethodBody (memberText key))
  checkDecorated ds f
  if ms.contains .readonly then note .readonlyMethod
  allowOnMember commonModifiers ms
  let m := { Modifier.collect ms with isOptional := optional, isComputed := computed }
  finish start (.method .method m) [ds, key, f]

/-- A field, after its name. -/
def field (g : Grammar) (start : Nat) (ds : Tree) (ms : List Modifier) (optional : Bool)
    (key : Tree) (computed : Bool) : Reader Tree := do
  let definite ← if ← onNewLine then pure false else eat "!"
  if optional && definite then note .optionalDefinite
  let a ← colonType? g
  let value ← within (fun s => { s with inAsync := false, inGenerator := false }) (initializer? g)
  if !(← eat ";") && !(← canEndStatement) then refuse ";"
  if ms.contains .abstract_ && value.isPresent then note (.abstractFieldValue (memberText key))
  if isNamed "constructor" key computed then note .constructorField
  checkStatic ms key computed
  if ms.contains .accessor then
    if optional then note .optionalAccessor
    allowOnly (.accessor :: commonModifiers.erase .readonly) (.modifiersTogether "accessor" ·) ms
  else allowOnMember (.declare :: commonModifiers) ms
  let m := { Modifier.collect ms with
    isOptional := optional, isDefinite := definite, isComputed := computed }
  finish start (.field m) [ds, key, a, value]

/-- A member of a class. -/
def classMember (g : Grammar) : Reader Tree := do
  let start ← here
  let ds ← decorators g
  let ms ← modifiers true
  let blockFollows ← nextIs "\x7b"
  if (← atWord "static") && blockFollows then
    advance
    refuseDecorators ds
    let b ← within (fun s => { s with inAsync := true, inGenerator := false, inFunction := false })
      (g .block)
    return ← finish start .staticBlock b.parts
  if let some kind ← accessorWord? then
    advance
    return ← accessor g start ds ms kind
  if !ms.contains .static && (← constructorFollows) then return ← constructor_ g start ds ms
  if (← typed) && (← indexFollows) then
    refuseDecorators ds
    return ← indexSignature g start true ms
  let isGenerator ← eat "*"
  let (key, computed) ← memberKey g ms
  let optional ← eat "?"
  if isGenerator || (← atPunctuator "(") || (← atPunctuator "<") then
    methodMember g start ds ms isGenerator optional key computed
  else field g start ds ms optional key computed

/-- Members between braces. -/
def classBody (g : Grammar) : Reader (List Tree) := do
  expect "\x7b"
  let one : Reader (Option Tree) := do
    discard (many (do if ← eat ";" then return some () else return none) (← size))
    if (← atPunctuator "\x7d") || (← atEnd) then return none
    return some (← classMember g)
  let ms ← within (fun s => { s with
    inClass := true, allowIn := true, arrowResult := true, inDecorator := false })
    (do many one (← size))
  expect "\x7d"
  return ms

/-! ## What a class or an interface extends and implements -/

/-- A type that is declared to be implemented. -/
def implementedType (g : Grammar) : Reader Tree := do
  let start ← here
  let n ← entityName start (← anyName)
  splitAngle
  let args ← typeArguments? g
  finish start .heritage [n, args]

/-- An expression with type arguments that is extended. -/
def extendedBase (g : Grammar) : Reader Tree := do
  let start ← here
  let e ← within (fun s => { s with inDecorator := false }) (g .leftHandSide)
  match e with
  | .node .instantiation _ [c, ts] => finish start .heritage [c, ts]
  | _ =>
    let args ← typeArguments? g
    finish start .heritage [e, args]

/-- Items between commas, at least one. -/
def commaList {α : Type} (item : Reader α) : Reader (List α) := do
  let first ← item
  let rest ← many (do if ← eat "," then return some (← item) else return none) (← size)
  return first :: rest

/-- The last clause of each kind, if there is one. -/
structure Heritage where
  bases : Option (List Tree) := none
  interfaces : Option (List Tree) := none

/-- Clauses after the name of a class or an interface. -/
def heritageAfter (g : Grammar) : Nat → Heritage → Reader Heritage
  | 0, h => return h
  | fuel + 1, h => do
    if ← atWord "extends" then
      if h.bases.isSome then note .extendsTwice
      else if h.interfaces.isSome then note .extendsAfterImplements
      advance
      let bases ← commaList (extendedBase g)
      heritageAfter g fuel { h with bases := some bases }
    else if ← atWord "implements" then
      if h.interfaces.isSome then note .implementsTwice
      advance
      let interfaces ← commaList (implementedType g)
      heritageAfter g fuel { h with interfaces := some interfaces }
    else return h

/-! ## Classes -/

/-- A class from its keyword on. -/
def classTree (g : Grammar) (start : Nat) (ds : Tree) (isAbstract isDeclare : Bool) :
    Reader Tree := do
  expectWord "class"
  let n ← if (← atName) && !(← atWord "implements") then name else pure Tree.none
  let tps ← typeParameters? g
  let h ← heritageAfter g (← size) {}
  let base := (h.bases.getD []).headD (.list [.none, .none])
  let ms ← within (fun s => { s with ambient := s.ambient || isDeclare }) (classBody g)
  finish start (.class_ isAbstract isDeclare)
    [ds, n, tps, base.part 0, base.part 1, .list (h.interfaces.getD []), .list ms]

/-- A class as an expression, with its decorators. -/
def classExpression (g : Grammar) : Reader Tree := do
  let start ← here
  let ds ← decorators g
  classTree g start ds false false

end QuietEmit.Syntax.Reader
