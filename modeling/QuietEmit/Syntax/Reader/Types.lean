/-
  QuietEmit.Syntax.Reader.Types

  Reading types.
-/
import QuietEmit.Syntax.Reader.Patterns

namespace QuietEmit.Syntax.Reader

/-! ## Arguments and parameters of types -/

/-- Read a double angle as two single ones. -/
def splitAngle : Reader Unit := do
  if (← atPunctuator "<<") || (← atPunctuator "<<=") || (← atPunctuator "<=") then
    rescan fun cs => ⟨.punctuator "<", cs.drop 1, []⟩

/-- Types between angles, with a look at what closes them. -/
def typeArgumentsBefore (g : Grammar) (look : Reader Unit) : Reader Tree := do
  splitAngle
  let start ← here
  expect "<"
  let ts ← within (fun s => { s with allowConditional := true }) do
    separated ">" (g .type) (← size)
  look
  expect ">"
  if ts.isEmpty then note .emptyTypeArguments
  finish start .typeArguments ts

/-- Types between angles. -/
def typeArguments (g : Grammar) : Reader Tree := typeArgumentsBefore g (return ())

/-- Types between angles, if there are any. -/
def typeArguments? (g : Grammar) : Reader Tree := do
  if (← typed) && (← atPunctuator "<") then typeArguments g else return .none

/-- One type parameter. -/
def typeParameter (g : Grammar) : Reader Tree := do
  let start ← here
  let ms ← modifiers true
  allowOnly [.const, .in_, .out] .modifierOnTypeParameter ms
  let n ← bindingName
  let bound ← if ← eatWord "extends" then g .type else pure .none
  let default ← if ← eat "=" then g .type else pure .none
  finish start (.typeParameter (ms.contains .const) (ms.contains .in_) (ms.contains .out))
    [n, bound, default]

/-- Type parameters between angles, if there are any. -/
def typeParameters? (g : Grammar) : Reader Tree := do
  if (← typed) && (← atPunctuator "<") then
    let start ← here
    advance
    let ps ← separated ">" (typeParameter g) (← size)
    expect ">"
    if ps.isEmpty then note .emptyTypeParameters
    finish start .typeParameters ps
  else return .none

/-- A name with dots. -/
def entityName (start : Nat) (first : Tree) : Reader Tree := do
  extend (fun t => do
    if ← atPunctuator "." then
      advance
      let n ← anyName
      return some (← finish start .qualifiedName [t, n])
    else return none) (← size) first

/-! ## Predicates -/

/-- The rest of a statement about a parameter, after its name and the word `is`. -/
def predicateRest (g : Grammar) (start : Nat) (subject : Tree) : Reader Tree := do
  let t ← g .type
  finish start (.predicate false) [subject, t]

/-- The type of a result, which may be a statement about a parameter: any word before `is` is
one. -/
def returnType (g : Grammar) : Reader Tree := do
  let start ← here
  match ← current, ← peek with
  | .name "this" _, _ => g .type
  | .name _ _, (.name "is" false, false) =>
    let subject ← anyName
    advance
    predicateRest g start subject
  | _, _ => g .type

/-- The type `this`, or a statement about it. -/
def thisType (g : Grammar) : Reader Tree := do
  let start ← here
  advance
  let t ← finish start .this []
  if (← atWord "is") && !(← onNewLine) then
    advance
    predicateRest g start t
  else return t

/-- A type that asserts something of a parameter, if one comes next. -/
def assertion? (g : Grammar) : Reader (Option Tree) := do
  let start ← here
  if !(← atWord "asserts") then return none
  match ← peek with
  | (.name n _, false) =>
    advance
    let s ← here
    let subject ← anyName
    let subject ← if n == "this" then finish s .this [] else pure subject
    let t ← if ← eatWord "is" then g .type else pure .none
    return some (← finish start (.predicate true) [subject, t])
  | _ => return none

/-- The type of a result after a colon, if there is one. -/
def resultType? (g : Grammar) : Reader Tree := do
  let start ← here
  if (← typed) && (← atPunctuator ":") then
    advance
    let t ← within (fun s => { s with allowConditional := true }) (returnType g)
    finish start .colonType [t]
  else return .none

/-! ## Function types -/

/-- Step over something that can begin a parameter. -/
def skipParameterStart (g : Grammar) : Reader Bool := do
  discard (modifiers false)
  match ← current with
  | .name _ _ =>
    advance
    return true
  | .punctuator p =>
    if p == "[" || p == "\x7b" then
      discard (g .pattern)
      return true
    else return false
  | _ => return false

/-- A parenthesis opens the parameters of a function type. -/
def functionTypeFollows (g : Grammar) : Reader Bool := do
  if ← atPunctuator "<" then return true
  if !(← atPunctuator "(") then return false
  lookahead do
    advance
    if (← atPunctuator ")") || (← atPunctuator "...") then return true
    if ← skipParameterStart g then
      for p in [":", ",", "?", "="] do
        if ← atPunctuator p then return true
      if ← eat ")" then return ← atPunctuator "=>"
    return false

/-- Note a parameter `this` of something that constructs. -/
def refuseThis (ps : Tree) : Reader Unit :=
  if ps.parts.any isThisParameter then note .constructorThis else pure ()

/-- The signature of a function type after its introducing words. -/
def functionSignature (g : Grammar) : Reader (List Tree) := do
  let tps ← typeParameters? g
  let ps ← g (.parameters .function)
  let start ← here
  expect "=>"
  let r ← within (fun s => { s with allowConditional := s.allowConditional }) (returnType g)
  let a ← finish start .colonType [r]
  return [tps, ps, a]

/-- A function or constructor type, if one comes next. -/
def functionType? (g : Grammar) : Reader (Option Tree) := do
  let start ← here
  let abstractNew : Reader Bool := do
    match ← peek with
    | (.name "new" false, _) => return true
    | _ => return false
  let constructorType (isAbstract : Bool) : Reader Tree := do
    advance
    let parts ← functionSignature g
    refuseThis (parts.getD 1 .none)
    finish start (.constructorType isAbstract) parts
  if ← atWord "new" then return some (← constructorType false)
  else if (← atWord "abstract") && (← abstractNew) then
    advance
    return some (← constructorType true)
  else if ← functionTypeFollows g then
    return some (← finish start .functionType (← functionSignature g))
  else return none

/-! ## Members of object types -/

/-- The end of a member: a semicolon, a comma, or the end of the line. -/
def memberEnd : Reader Unit := do
  if ← eat "," then return
  semicolon

/-- A bracket opens an index signature. -/
def indexFollows : Reader Bool := do
  if !(← atPunctuator "[") then return false
  lookahead do
    advance
    if (← atPunctuator "...") || (← atPunctuator "]") then return true
    match ← current with
    | .name w _ =>
      advance
      let isModifier := (Modifier.words.lookup w).isSome
      if isModifier && (← atName) then return true
      if !isModifier && !isNameWord w then return false
      if (← atPunctuator ":") || (← atPunctuator ",") then return true
      if !(← eat "?") then return false
      for p in [":", ",", "]"] do
        if ← atPunctuator p then return true
      return false
    | _ => return false

/-- The parameter of an index signature, with its annotation. -/
def indexParameter (g : Grammar) : Reader Tree := do
  let start ← here
  let n ← anyName
  if ← atPunctuator "?" then
    note .indexOptional
    advance
  let a ← colonType? g
  if a.isAbsent then unexpected
  finish start .list [n, a]

/-- An index signature; it may be readonly, and static in a class. -/
def indexSignature (g : Grammar) (start : Nat) (inClass : Bool) (ms : List Modifier) :
    Reader Tree := do
  expect "["
  let (ps, trailing) ← items "]" (indexParameter g) (← size)
  if trailing then note (.trailingComma "Index signature declarations")
  if ps.length != 1 then note .indexParameterCount
  expect "]"
  let t ← colonType? g
  if t.isAbsent then fail .indexWithoutType
  memberEnd
  allowOnly (.readonly :: if inClass then [.static] else []) (.modifierOn · "an index signature") ms
  let p := ps.headD .none
  finish start (.indexSignature (Modifier.collect ms)) [p.part 0, p.part 1, t]

/-- The current word is `get` or `set` before the name of a member. -/
def accessorWord? : Reader (Option MethodKind) := do
  let follows : Reader Bool := do
    match (← peek).1 with
    | .name _ _ | .string _ _ | .number _ | .bigint _ | .privateName _ => return true
    | .punctuator p => return p == "["
    | _ => return false
  if (← atWord "get") && (← follows) then return some .get
  if (← atWord "set") && (← follows) then return some .set
  return none

/-- A member of an object type. -/
def typeMember (g : Grammar) : Reader Tree := do
  let start ← here
  if (← atPunctuator "(") || (← atPunctuator "<") then
    let tps ← typeParameters? g
    let ps ← g (.parameters .function)
    let r ← resultType? g
    memberEnd
    return ← finish start .callSignature [tps, ps, r]
  let callFollows : Reader Bool := do
    match (← peek).1 with
    | .punctuator p => return p == "(" || p == "<"
    | _ => return false
  if (← atWord "new") && (← callFollows) then
    advance
    let tps ← typeParameters? g
    let ps ← g (.parameters .function)
    refuseThis ps
    let r ← resultType? g
    memberEnd
    return ← finish start .constructSignature [tps, ps, r]
  let ms ← modifiers false
  let check (allowed : List Modifier) : Reader Unit :=
    allowOnly allowed (.modifierOn · "a type member") ms
  if let some kind ← accessorWord? then
    advance
    let (key, computed) ← propertyName g
    let ps ← g (.parameters .function)
    let r ← resultType? g
    memberEnd
    check [.readonly]
    if kind == .set && r.isPresent then note .setterResult
    return ← finish start (.methodSignature kind { isComputed := computed }) [key, .none, ps, r]
  if ← indexFollows then return ← indexSignature g start false ms
  let (key, computed) ← propertyName g
  let optional ← eat "?"
  let m := { Modifier.collect ms with isOptional := optional, isComputed := computed }
  if (← atPunctuator "(") || (← atPunctuator "<") then
    let tps ← typeParameters? g
    let ps ← g (.parameters .function)
    let r ← resultType? g
    memberEnd
    if ms.contains .readonly then note .readonlyMethod
    check [.readonly]
    finish start (.methodSignature .method m) [key, tps, ps, r]
  else
    let a ← colonType? g
    memberEnd
    check [.readonly]
    finish start (.propertySignature m) [key, a]

/-- Members between braces. -/
def typeMembers (g : Grammar) : Reader (List Tree) := do
  expect "\x7b"
  let one : Reader (Option Tree) := do
    if (← atPunctuator "\x7d") || (← atEnd) then return none
    return some (← typeMember g)
  let ms ← many one (← size)
  expect "\x7d"
  return ms

/-! ## Mapped types -/

/-- A brace opens a mapped type: `in` comes after one more token, with a bracket or without. -/
def mappedFollows : Reader Bool := lookahead do
  advance
  if (← atPunctuator "+") || (← atPunctuator "-") then
    advance
    return ← atWord "readonly"
  discard (eatWord "readonly")
  discard (eat "[")
  advance
  atWord "in"

/-- The sign of a modifier of a mapped type that is `present` or has to come next. -/
def mappedModifier (present : Reader Bool) (wanted : Reader Unit) : Reader String := do
  if ← eat "+" then
    wanted
    return "+"
  else if ← eat "-" then
    wanted
    return "-"
  else if ← present then return "true"
  else return ""

/-- A mapped type. -/
def mappedType (g : Grammar) : Reader Tree := do
  let start ← here
  expect "\x7b"
  let readonly_ ← mappedModifier (eatWord "readonly") (expectWord "readonly")
  expect "["
  let key ← bindingName
  expectWord "in"
  let bound ← g .type
  let rename ← if ← eatWord "as" then g .type else pure .none
  expect "]"
  let optional ← mappedModifier (eat "?") (expect "?")
  let a ← colonType? g
  discard (eat ";")
  expect "\x7d"
  finish start (.mappedType readonly_ optional) [key, bound, rename, a]

/-! ## Simple types -/

/-- Types named by a keyword. -/
def keywordTypes : List String :=
  ["any", "unknown", "string", "number", "bigint", "symbol", "boolean", "undefined", "never",
    "object", "null"]

/-- The piece of a template after a substitution. -/
def templateContinuation (tagged : Bool) : Reader (String × Bool) := do
  if !(← atPunctuator "\x7d") then refuse "template"
  rescan fun cs => Lexer.scanTemplate true [] (cs.drop 1)
  match ← current with
  | .template raw last sound =>
    if !sound && !tagged then note .badTemplateEscape
    advance
    return (raw, last)
  | _ => unexpected

/-- The substitutions of a template with the texts after each. -/
def templateRest (tagged : Bool) (item : Reader Tree) : Nat → Reader (List (Tree × String))
  | 0 => return []
  | fuel + 1 => do
    let e ← item
    let (raw, last) ← templateContinuation tagged
    if last then return [(e, raw)]
    return (e, raw) :: (← templateRest tagged item fuel)

/-- A template whose first piece is the current token. Only a tagged one may have escapes that mean
nothing. -/
def templateParts (tagged : Bool) (item : Reader Tree) : Reader (List String × List Tree) := do
  match ← current with
  | .template raw last sound =>
    if !sound && !tagged then note .badTemplateEscape
    advance
    if last then return ([raw], [])
    let rest ← templateRest tagged item (← size)
    return (raw :: rest.map (·.2), rest.map (·.1))
  | _ => unexpected

/-- The options of an import type: an object. -/
def importOptions (g : Grammar) : Reader Tree := do
  if ← atPunctuator "\x7b" then g .leftHandSide else refuse "\x7b"

/-- The source of an import type. A type in its place is passed over. -/
def importSource (g : Grammar) : Reader Tree := do
  match ← current with
  | .string _ _ => stringLiteral
  | _ =>
    let start ← here
    note .stringExpected
    discard (g .type)
    finish start (.string "" false) []

/-- An import type, after `typeof` when that comes first. -/
def importType (g : Grammar) : Reader Tree := do
  let start ← here
  expectWord "import"
  expect "("
  let source ← importSource g
  let options ← if ← eat "," then importOptions g else pure .none
  expect ")"
  let qualifier ← if ← eat "." then do
      let s ← here
      entityName s (← anyName)
    else pure .none
  splitAngle
  let args ← if ← onNewLine then pure .none else typeArguments? g
  finish start .importType [source, options, qualifier, args]

/-- An element of a tuple without a label. A question mark after a type is about the element. -/
def tupleType (g : Grammar) : Reader Tree := do
  let start ← here
  if ← eat "..." then
    let t ← g .type
    finish start .restType [t]
  else
    let t ← g .type
    match t with
    | .node (.markedType "?" true) span inner => return .node .optionalType span inner
    | _ => if ← eat "?" then finish start .optionalType [t] else return t

/-- An element of a tuple. -/
def tupleElement (g : Grammar) : Reader Tree := do
  let start ← here
  let labelled : Reader Bool := lookahead do
    discard (eat "...")
    match ← current with
    | .name _ _ =>
      advance
      discard (eat "?")
      atPunctuator ":"
    | _ => return false
  if ← labelled then
    let isRest ← eat "..."
    let innerStart ← here
    let label ← anyName
    let optional ← eat "?"
    expect ":"
    if ← eat "..." then note .labelBeforeRest
    let t ← g .type
    match t.form with
    | .markedType "?" _ => note .labelBeforeOptional
    | _ => pure ()
    if isRest && optional then note .optionalRest
    let e ← finish innerStart (.namedElement optional) [label, t]
    if isRest then finish start .restType [e] else return e
  else tupleType g

/-- A type that is no operator and no list of types. -/
def simpleType (g : Grammar) (simplest : Reader Tree) : Reader Tree := do
  let start ← here
  let literal (form : Form) : Reader Tree := do
    advance
    let l ← finish start form []
    finish start .literalType [l]
  let full (r : Reader Tree) : Reader Tree :=
    within (fun s => { s with allowConditional := true }) r
  match ← current with
  | .string value halves => literal (.string value halves)
  | .number raw => literal (.number raw)
  | .bigint raw => literal (.bigint raw)
  | .template _ _ _ =>
    let (texts, types) ← templateParts false (full (g .type))
    match types with
    | [] =>
      let t ← finish start (.template texts) []
      finish start .literalType [t]
    | _ => finish start (.templateType texts) types
  | .punctuator "-" =>
    advance
    let s ← here
    match ← current with
    | .number raw =>
      advance
      let n ← finish s (.number raw) []
      let u ← finish start (.unary "-") [n]
      finish start .literalType [u]
    | .bigint raw =>
      advance
      let n ← finish s (.bigint raw) []
      let u ← finish start (.unary "-") [n]
      finish start .literalType [u]
    | _ => unexpected
  | .punctuator "\x7b" =>
    if ← mappedFollows then full (mappedType g)
    else
      let ms ← full do return Tree.list (← typeMembers g)
      finish start .typeLiteral ms.parts
  | .punctuator "[" =>
    let es ← full do return .list (← bracketed "[" "]" (tupleElement g))
    finish start .tuple es.parts
  | .punctuator "(" =>
    advance
    let t ← full (g .type)
    expect ")"
    finish start .parenType [t]
  | .punctuator "?" =>
    advance
    let alone ← ["," , "\x7d", ")", ">", "=", "|"].anyM atPunctuator
    let t ← if alone then pure .none else g .type
    finish start (.markedType "?" false) [t]
  | .punctuator "!" =>
    advance
    let t ← simplest
    finish start (.markedType "!" false) [t]
  | .name word _ =>
    let dotted ← nextIs "."
    match word with
    | "true" => literal (.boolean true)
    | "false" => literal (.boolean false)
    | "void" =>
      advance
      finish start (.keywordType "void") []
    | "this" => thisType g
    | "typeof" =>
      advance
      if ← atWord "import" then
        let t ← importType g
        finish start .typeQuery [t, .none]
      else
        let s ← here
        let n ← entityName s (← anyName)
        let args ← if ← onNewLine then pure .none else typeArguments? g
        finish start .typeQuery [n, args]
    | "import" => importType g
    | _ =>
      if keywordTypes.contains word && !dotted then
        advance
        finish start (.keywordType word) []
      else if let some t ← assertion? g then return t
      else reference start
  | _ => reference start
where
  /-- A type given by its name. -/
  reference (start : Nat) : Reader Tree := do
    let n ← entityName start (← anyName)
    splitAngle
    let args ← if ← onNewLine then pure .none else typeArguments? g
    finish start .typeReference [n, args]

/-- The current token can begin a type. -/
def startsType : Reader Bool := do
  match ← current with
  | .name w _ => return isNameWord w || ["null", "void", "this", "typeof", "new", "import", "true",
      "false"].contains w
  | .string _ _ | .number _ | .bigint _ | .template _ _ _ => return true
  | .punctuator p => return ["\x7b", "[", "<", "|", "&", "?", "!", "*", "-", "(", "..."].contains p
  | _ => return false

/-- Lists and parts of the types of a type, and marks after it. -/
def postfixType (g : Grammar) : Reader Tree := do
  let start ← here
  let bound ← size
  let rec simplest : Nat → Reader Tree
    | 0 => unexpected
    | n + 1 => simpleType g (simplest n)
  let t ← simplest bound
  extend (fun t => do
    if ← onNewLine then return none
    match ← current with
    | .punctuator "[" =>
      advance
      if ← startsType then
        let index ← within (fun s => { s with allowConditional := true }) (g .type)
        expect "]"
        return some (← finish start .indexedAccess [t, index])
      else
        expect "]"
        return some (← finish start .arrayType [t])
    | .punctuator "!" =>
      advance
      return some (← finish start (.markedType "!" true) [t])
    | .punctuator "?" =>
      let typeFollows ← lookahead do
        advance
        startsType
      if typeFollows then return none
      advance
      return some (← finish start (.markedType "?" true) [t])
    | _ => return none) bound t

/-- A bound of an inferred type, unless it turns out to belong to a conditional type. -/
def inferBound? (g : Grammar) : Reader Tree := do
  let allowed := (← scope).allowConditional
  let bound ← attempt do
    expectWord "extends"
    let t ← within (fun s => { s with allowConditional := false }) (g .type)
    if allowed && (← atPunctuator "?") then unexpected
    return t
  return bound.getD .none

/-- Operators before a type. -/
def operatorType (g : Grammar) : Nat → Reader Tree
  | 0 => unexpected
  | fuel + 1 => do
    let start ← here
    match ← current with
    | .name word _ =>
      if word == "keyof" || word == "unique" || word == "readonly" then
        advance
        let t ← operatorType g fuel
        match word, t.form with
        | "readonly", .arrayType | "readonly", .tuple => pure ()
        | "readonly", _ => note .readonlyType
        | _, _ => pure ()
        finish start (.typeOperator word) [t]
      else if word == "infer" then
        advance
        let s ← here
        let n ← bindingName
        let bound ← inferBound? g
        let p ← finish s (.typeParameter false false false) [n, bound, .none]
        finish start .inferType [p]
      else within (fun s => { s with allowConditional := true }) (postfixType g)
    | _ => within (fun s => { s with allowConditional := true }) (postfixType g)

/-- Types joined by an operator, which may also come first. -/
def joined (operator : String) (form : Form) (item : Reader Tree) : Reader Tree := do
  let start ← here
  let leading ← eat operator
  let first ← item
  if !leading && !(← atPunctuator operator) then return first
  let rest ← many (do
    if ← eat operator then return some (← item) else return none) (← size)
  finish start form (first :: rest)

/-- A union of types. -/
def unionType (g : Grammar) : Reader Tree := do
  let n ← size
  joined "|" .union (joined "&" .intersection (operatorType g n))

/-- A type. -/
def type (g : Grammar) : Reader Tree := do
  let start ← here
  match ← functionType? g with
  | some t => return t
  | none =>
    let t ← g .unionType
    if (← scope).allowConditional && !(← onNewLine) && (← atWord "extends") then
      advance
      let bound ← within (fun s => { s with allowConditional := false }) (g .type)
      expect "?"
      let yes ← within (fun s => { s with allowConditional := true }) (g .type)
      expect ":"
      let no ← within (fun s => { s with allowConditional := true }) (g .type)
      finish start .conditionalType [t, bound, yes, no]
    else return t

end QuietEmit.Syntax.Reader
