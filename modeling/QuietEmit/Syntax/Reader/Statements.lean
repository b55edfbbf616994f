/-
  QuietEmit.Syntax.Reader.Statements

  Reading statements.
-/
import QuietEmit.Syntax.Reader.Modules

namespace QuietEmit.Syntax.Reader

/-! ## Blocks -/

/-- Read a part of a statement. Whether `in` is an operator is left as it is outside. -/
def inStatement {α : Type} (r : Reader α) : Reader α :=
  within (fun s => { s with arrowResult := true, inDecorator := false }) r

/-- Statements up to a closing brace or the end of the text. -/
def statements (g : Grammar) : Reader (List Tree) := do
  many (do
    if (← atPunctuator "\x7d") || (← atEnd) then return none
    return some (← g .statement)) (← size)

/-- Statements between braces. -/
def block (g : Grammar) : Reader Tree := do
  let start ← here
  expect "\x7b"
  let ss ← inStatement (statements g)
  expect "\x7d"
  finish start .block ss

/-- A directive: a statement that is a string and nothing more, at the head of a body. -/
def directive? : Reader (Option Tree) := do
  let s ← get
  match s.token with
  | .string _ _ =>
    attempt do
      let start ← here
      advance
      let ends ← do
        if (← atPunctuator ";") || (← atPunctuator "\x7d") || (← atEnd) then
          pure true
        else if ← onNewLine then
          joinAngles
          match ← current with
          | .punctuator p =>
            pure !((precedence? p).isSome || assignmentOperators.contains p ||
              [".", "?.", "(", "[", "?", ","].contains p)
          | .template _ _ _ => pure false
          | .name w _ => pure (w != "in" && w != "instanceof")
          | _ => pure true
        else pure false
      if !ends then unexpected
      semicolon
      let written := (textUpTo s.stop s.start s.text).drop 1
      finish start (.directive (String.ofList written.dropLast)) []
  | _ => return none

/-- Directives and the statements after them. -/
def directivesAndStatements (g : Grammar) : Reader (List Tree × List Tree) := do
  let ds ← many directive? (← size)
  let ss ← statements g
  return (ds, ss)

/-- The body of a function. -/
def functionBody (g : Grammar) : Reader Tree := do
  let start ← here
  expect "\x7b"
  let (ds, ss) ← inStatement (directivesAndStatements g)
  expect "\x7d"
  finish start .functionBody [.list ds, .list ss]

/-! ## Control structures -/

/-- An expression between parentheses that belong to a statement. -/
def condition (g : Grammar) : Reader Tree := do
  expect "("
  let e ← inStatement (g .expression)
  expect ")"
  return e

/-- The rest of a loop whose head has three parts. -/
def forRest (g : Grammar) (start : Nat) (isAwait : Bool) (first : Tree) : Reader Tree := do
  expect ";"
  match first.form with
  | .variableList .using_ _ | .variableList .awaitUsing _ => pure ()
  | .variableList kind _ => for d in first.parts do checkInitialized kind d
  | _ => pure ()
  let test ← if (← atPunctuator ";") || (← atPunctuator ")") then pure .none
    else enclosed (g .expression)
  expect ";"
  let update ← if ← atPunctuator ")" then pure .none else enclosed (g .expression)
  expect ")"
  if isAwait then note .forAwait
  let body ← g .substatement
  finish start .for_ [first, test, update, body]

/-- The rest of a loop over the keys or the elements of something, from the word between on. -/
def forEach (g : Grammar) (start : Nat) (isAwait : Bool) (target : Tree) : Reader Tree := do
  if ← eatWord "of" then
    let e ← enclosed (g .assignment)
    expect ")"
    let body ← g .substatement
    finish start (.forOf isAwait) [target, e, body]
  else
    expectWord "in"
    match target.form with
    | .variableList .using_ _ => note (.forInUsing false)
    | .variableList .awaitUsing _ => note (.forInUsing true)
    | _ => pure ()
    let e ← enclosed (g .expression)
    expect ")"
    if isAwait then note .forAwait
    let body ← g .substatement
    finish start .forIn [target, e, body]

/-- The head of a loop begins with a declaration. -/
def forDeclarationFollows : Reader Bool := do
  if (← atWord "var") || (← atWord "const") then return true
  if ← atWord "let" then
    match (← peek).1 with
    | .name w _ => return w != "in" && w != "instanceof"
    | .punctuator p => return p == "[" || p == "\x7b"
    | _ => return false
  usingFollows true

/-- A loop with a head. -/
def forStatement (g : Grammar) : Reader Tree := do
  let start ← here
  advance
  let isAwait ← atWord "await"
  if isAwait then
    if !(← scope).inAsync then note .awaitOutside
    advance
  expect "("
  let headStart ← here
  if ← atPunctuator ";" then return ← forRest g start isAwait .none
  let head (r : Reader Tree) : Reader Tree :=
    within (fun s => { s with allowIn := false, arrowResult := true }) r
  if ← forDeclarationFollows then
    let vs ← head (variableList g headStart false true)
    if (← atWord "of") || (← atWord "in") then return ← forEach g start isAwait vs
    return ← forRest g start isAwait vs
  if ← atPunctuator ")" then return ← forRest g start isAwait .none
  let (startsAsync, startsLet) : Bool × Bool := match ← current with
    | .name "async" false => (true, false)
    | .name "let" _ => (false, true)
    | _ => (false, false)
  let e ← head (g .expression)
  if (← atWord "of") || (← atWord "in") then
    if startsAsync && !isAwait && (← atWord "of") && e.name? == some "async" then note .forOfAsync
    if startsLet && (← atWord "of") then note .forOfLet
    let t ← target e
    forEach g start isAwait t
  else forRest g start isAwait e

/-- One case of a switch. -/
def switchCase (g : Grammar) : Reader Tree := do
  let start ← here
  let test ← if ← eatWord "default" then pure .none
    else if ← eatWord "case" then inStatement (g .expression)
    else fail .switchClause
  expect ":"
  let ss ← many (do
    if (← atPunctuator "\x7d") || (← atWord "case") || (← atWord "default") then return none
    let s ← g .statement
    match s.form with
    | .variableList .using_ _ | .variableList .awaitUsing _ => note .usingInCase
    | _ => pure ()
    return some s) (← size)
  finish start .case [test, .list ss]

/-- A switch. -/
def switchStatement (g : Grammar) : Reader Tree := do
  let start ← here
  advance
  let subject ← condition g
  expect "\x7b"
  let cases ← inStatement do
    many (do
      if (← atPunctuator "\x7d") || (← atEnd) then return none
      return some (← switchCase g)) (← size)
  expect "\x7d"
  finish start .switch [subject, .list cases]

/-- A try with its clauses. -/
def tryStatement (g : Grammar) : Reader Tree := do
  let start ← here
  advance
  let body ← g .block
  let handlerStart ← here
  let handler ← if ← eatWord "catch" then do
      let binding ← if ← eat "(" then do
          let b ← annotated g false
          expect ")"
          pure b
        else pure .none
      let b ← g .block
      finish handlerStart .catch_ [binding, b]
    else pure .none
  let finalizer ← if ← eatWord "finally" then g .block else pure .none
  if handler.isAbsent && finalizer.isAbsent then note .catchOrFinally
  finish start .try_ [body, handler, finalizer]

/-- A jump with an optional label. -/
def jump (form : Form) : Reader Tree := do
  let start ← here
  advance
  let label ← if ← canEndStatement then pure .none else do
      let s ← scope
      if ((← atWord "await") && s.inAsync) || ((← atWord "yield") && s.inGenerator) then unexpected
      name
  semicolon
  finish start form [label]

/-- An expression as a statement, or a statement with a label. -/
def expressionStatement (g : Grammar) : Reader Tree := do
  let start ← here
  let e ← inStatement (g .expression)
  if e.name?.isSome then
    if ← eat ":" then
      let body ← g .substatement
      return ← finish start .labeled [e, body]
  semicolon
  finish start .expression [e]

/-! ## Statements -/

/-- A statement with a keyword of its own, if one comes next. -/
def keywordStatement? (g : Grammar) (word : String) : Reader (Option Tree) := do
  let start ← here
  match word with
  | "if" =>
    advance
    let test ← condition g
    let yes ← g .substatement
    let no ← if ← eatWord "else" then g .substatement else pure .none
    return some (← finish start .if_ [test, yes, no])
  | "for" => return some (← forStatement g)
  | "while" =>
    advance
    let test ← condition g
    let body ← g .substatement
    return some (← finish start .while_ [test, body])
  | "do" =>
    advance
    let body ← g .substatement
    expectWord "while"
    let test ← condition g
    discard (eat ";")
    return some (← finish start .doWhile [body, test])
  | "continue" => return some (← jump .continue_)
  | "break" => return some (← jump .break_)
  | "return" =>
    advance
    let e ← if ← canEndStatement then pure Tree.none else enclosed (g .expression)
    semicolon
    if !(← scope).inFunction then note .returnOutside
    return some (← finish start .return_ [e])
  | "with" =>
    advance
    let e ← condition g
    let body ← g .substatement
    return some (← finish start .with_ [e, body])
  | "switch" => return some (← switchStatement g)
  | "throw" =>
    advance
    if ← onNewLine then note (.newlineAfter "throw")
    let e ← inStatement (g .expression)
    semicolon
    return some (← finish start .throw [e])
  | "try" => return some (← tryStatement g)
  | "debugger" =>
    advance
    semicolon
    return some (← finish start .debugger [])
  | _ => return none

/-- An import declaration comes next, not a call or a use of `import`. -/
def importFollows : Reader Bool := do
  match (← peek).1 with
  | .punctuator p => return p != "(" && p != "."
  | _ => return true

/-- A statement that starts with the word `let`. Before an operator it is a name in an expression
without commas, and before a point or a parenthesis in one that may end anywhere; as a body of
another statement it declares nothing unless a bracket follows. -/
def letStatement (g : Grammar) (alone : Bool) : Reader Tree := do
  let start ← here
  let before ← get
  advance
  joinAngles
  let next ← current
  set before
  let isOperand := match next with
    | .punctuator p => (precedence? p).isSome || assignmentOperators.contains p
    | .name w _ => w == "in" || w == "instanceof"
    | _ => false
  if isOperand then
    let e ← inStatement (g .assignment)
    semicolon
    return ← finish start .expression [e]
  if next == .punctuator "." || next == .punctuator "(" then
    let e ← inStatement (g .expression)
    return ← finish start .expression [e]
  if (alone && next != .punctuator "[") || next == .punctuator ";" then
    let n ← name
    semicolon
    return ← finish start .expression [n]
  let t ← variableStatement g start false
  if alone then note .lexicalInStatement
  return t

/-- A function declaration, at its word. -/
def functionDeclaration (g : Grammar) (start : Nat) (isAsync alone : Bool) : Reader Tree := do
  let f ← functionAfter g start isAsync true true false
  match f.form with
  | .function traits =>
    if alone && traits.isAsync then note .asyncInStatement
    if alone && traits.isGenerator then note .generatorInStatement
  | _ => pure ()
  return f

/-- A class declaration, at its word, with the decorators before it. -/
def classDeclaration (g : Grammar) (start : Nat) (ds : Tree) (alone : Bool) : Reader Tree := do
  let c ← classTree g start ds false false
  if alone then note .classInStatement
  return c

/-- A declaration, if one comes next. It is `alone` if it is all that another statement holds. -/
def declarationStatement? (g : Grammar) (alone : Bool) (word : String) : Reader (Option Tree) := do
  let start ← here
  match word with
  | "var" => return some (← variableStatement g start false)
  | "const" =>
    let enumFollows ← do
      if !(← typed) then pure false
      else match (← peek).1 with
        | .name w _ => pure (w == "enum")
        | _ => pure false
    if enumFollows then
      advance
      return some (← enumeration g start true false)
    let t ← variableStatement g start false
    if alone then note .lexicalInStatement
    return some t
  | "let" => return some (← letStatement g alone)
  | "function" => return some (← functionDeclaration g start false alone)
  | "class" => return some (← classDeclaration g start (.list []) alone)
  | "async" =>
    if !(← nextWordOnLine "function") then return none
    advance
    return some (← functionDeclaration g start true alone)
  | "import" => if ← importFollows then return some (← importDeclaration) else return none
  | "export" => return some (← exportDeclaration g start (.list []))
  | _ =>
    if ← typedDeclarationFollows word then
      let ms ← declarationModifiers
      return some (← declaration g start (.list []) ms)
    if ← usingFollows false then
      let t ← variableStatement g start false
      if alone then note .lexicalInStatement
      return some t
    return none

/-- A statement after decorators: an export or a class. -/
def decorated (g : Grammar) (alone : Bool) (start : Nat) (ds : Tree) : Reader Tree := do
  if ← atWord "export" then return ← exportDeclaration g start ds
  let ms ← modifiers false
  if !(← atWord "class") then unexpected
  if !ms.isEmpty then return ← declaration g start ds ms
  classDeclaration g start ds alone

/-- A statement without the mark before it. -/
def plainStatement (g : Grammar) (alone : Bool) : Reader Tree := do
  let start ← here
  match ← current with
  | .punctuator "\x7b" => g .block
  | .punctuator ";" =>
    advance
    finish start .empty []
  | .punctuator "@" =>
    let ds ← decorators g
    decorated g alone start ds
  | .name "let" true => expressionStatement g
  | .name w _ =>
    if let some t ← keywordStatement? g w then return t
    if let some t ← declarationStatement? g alone w then return t
    expressionStatement g
  | _ => expressionStatement g

/-- A statement, which may be all that another one holds. A mark before it is about the function it
declares. -/
def statementIn (g : Grammar) (alone : Bool) : Reader Tree := do
  let functions ← marked .pureFunction
  let t ← plainStatement g alone
  return if functions then markDeclared t else t

/-- A statement where declarations are welcome. -/
def statement (g : Grammar) : Reader Tree := statementIn g false

/-- The body of a control structure. -/
def substatement (g : Grammar) : Reader Tree := statementIn g true

end QuietEmit.Syntax.Reader
