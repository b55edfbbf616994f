/-
  QuietEmit.Syntax.Printer.Expressions

  Printing expressions. Parentheses are put where the operators need them, not
  where they were written.
-/
import QuietEmit.Syntax.Printer.Types

namespace QuietEmit.Syntax.Printer

/-! ## Functions -/

/-- The words before a parameter or a member. -/
def accessWord (m : Modifiers) : String :=
  match m.access with
  | some a => a.text ++ " "
  | none => ""

/-- Whether a decorator needs no parentheses: a name, a member, or calls of one. -/
def isDecoratorPath : Nat → Tree → Bool
  | 0, _ => false
  | fuel + 1, e =>
    match e.form with
    | .identifier _ | .member false => true
    | .call false => isDecoratorPath fuel (e.part 0)
    | _ => false

/-- Decorators, each with a blank after it. -/
def decorators (g : Printers) (t : Tree) : Printer Unit :=
  for d in t.parts do
    write "@"
    let e := d.part 0
    wrap (!isDecoratorPath e.height e) (g (.expression Level.lowest {}) e)
    blank

/-- A parameter. -/
def parameter (g : Printers) : Tree → Printer Unit
  | .node (.parameter m) _ [ds, b] => do
    decorators g ds
    write (accessWord m)
    if m.isOverride then write "override "
    if m.isReadonly then write "readonly "
    g .binding b
  | t => g .binding t

/-- Parameters between parentheses. -/
def parameters (g : Printers) (t : Tree) : Printer Unit := do
  write "("
  commas (t.parts.map (parameter g))
  write ")"

/-- A function from its first word on. -/
def function (g : Printers) (t : Tree) : Printer Unit := do
  match t with
  | .node (.function traits) _ [name, tps, ps, result, body] =>
    apart 'f'
    if traits.isDeclare then write "declare "
    if traits.isAsync then write "async "
    write "function"
    if traits.isGenerator then write "*"
    if name.isPresent then write (" " ++ nameText name)
    else if traits.isGenerator then blank
    typeParameters g tps
    g .parameters ps
    colonType g result
    if body.isPresent then
      blank
      g .functionBody body
    else write ";"
  | _ => pure ()

/-- The parameters and body of a method, or `ending` where it has no body. -/
def methodRest (g : Printers) (ending : String) (f : Tree) : Printer Unit := do
  match f with
  | .node (.function _) _ [_, tps, ps, result, body] =>
    typeParameters g tps
    g .parameters ps
    colonType g result
    if body.isPresent then
      blank
      g .functionBody body
    else write ending
  | _ => pure ()

/-- The words of a method's function before its name. -/
def methodTraits (f : Tree) : String :=
  match f.form with
  | .function traits =>
    (if traits.isAsync then "async " else "") ++ (if traits.isGenerator then "*" else "")
  | _ => ""

/-- A class from its first word on. -/
def class_ (g : Printers) (t : Tree) : Printer Unit := do
  match t with
  | .node (.class_ isAbstract isDeclare) _ [ds, name, tps, super, superArgs, interfaces, ms] =>
    decorators g ds
    apart 'c'
    if isDeclare then write "declare "
    if isAbstract then write "abstract "
    write "class"
    if name.isPresent then
      write (" " ++ nameText name)
      typeParameters g tps
    if super.isPresent then
      write " extends "
      g (.expression Level.postfix_ {}) super
      typeArguments g superArgs
    if !interfaces.parts.isEmpty then
      write " implements "
      commas (interfaces.parts.map (g .type))
    blank
    braces ms.parts.isEmpty (for m in ms.parts do
      commentsAt m.span.start
      indentation
      g .classMember m)
  | _ => pure ()

/-! ## Objects and arrays -/

/-- The name of an identifier inside parentheses. -/
def innerName? (t : Tree) : Option String := t.inner.name?

/-- Whether an expression is a number too large for a double. -/
def isInfiniteNumber (t : Tree) : Bool :=
  match t.form with
  | .number raw => Literal.isInfinite raw
  | _ => false

/-- A property of an object. A default outside a target is left out. -/
def property (g : Printers) (t : Tree) : Printer Unit := do
  match t with
  | .node (.property _ true) _ [key, .node (.assign "=") _ _] => propertyKey g false key
  | .node (.property computed shorthand) _ [key, value] =>
    let short := !computed && match key.name? with
      | some "__proto__" => shorthand
      | some n => innerName? value == some n
      | none => false
    if !short then
      propertyKey g (computed || isInfiniteNumber key) key
      write ": "
    g (.expression Level.comma {}) value
  | .node (.methodProperty kind computed) _ [key, f] =>
    write (methodWord kind)
    write (methodTraits f)
    propertyKey g computed key
    methodRest g "" f
  | _ => g (.expression Level.comma {}) t

/-- An object; one property stays on the line. -/
def object (g : Printers) (ps : List Tree) : Printer Unit := do
  write "\x7b"
  if ps.length > 1 then
    deeper (separated (write ",") (ps.map fun p => do
      newline
      indentation
      property g p))
    newline
    indentation
  else if !ps.isEmpty then
    blank
    commas (ps.map (property g))
    blank
  write "\x7d"

/-- An array; more than two elements stand on lines of their own. -/
def array (g : Printers) (es : List Tree) : Printer Unit := do
  let item (e : Tree) : Printer Unit :=
    if e.isPresent then g (.expression Level.comma {}) e else pure ()
  write "["
  let lastComma : Printer Unit := if es.getLast?.any Tree.isAbsent then write "," else pure ()
  if es.length > 2 then
    deeper do
      separated (write ",") (es.map fun e => do
        newline
        indentation
        item e)
      lastComma
    newline
    indentation
  else
    commas (es.map item)
    lastComma
  write "]"

/-- Items of a target on one line. A hole at the end keeps the comma after it. -/
def arrayTarget (g : Printers) (es : List Tree) : Printer Unit := do
  write "["
  commas (es.map fun e => if e.isPresent then g (.expression Level.comma {}) e else pure ())
  if es.getLast?.any Tree.isAbsent then write ","
  write "]"

/-- Properties of a target on one line. -/
def objectTarget (g : Printers) (ps : List Tree) : Printer Unit := do
  write "\x7b"
  commas (ps.map fun p => do
    match p with
    | .node (.property computed shorthand) _ [key, value] =>
      if !shorthand then
        propertyKey g computed key
        write ": "
      g (.expression Level.comma {}) value
    | _ => g (.expression Level.comma {}) p)
  write "\x7d"

/-- Arguments of a call between parentheses. -/
def arguments (g : Printers) (call : Span) (args : List Tree) : Printer Unit :=
  argumentList call (args.map fun a => (a.span.start, g (.expression Level.comma {}) a))

/-- Arguments of an import between parentheses. Comments before the first one and before the end
are printed, each argument on a line of its own if there are comments before any of them. -/
def importArguments (g : Printers) (call : Span) (source options : Tree) : Printer Unit := do
  let plain (e : Tree) : Printer Unit := g (.expression Level.comma {}) e
  let atEnd ← if call.stop > 0 then hasComments (call.stop - 1) else pure false
  let atSource ← hasComments source.span.start
  let atOptions ← if options.isPresent then hasComments options.span.start else pure false
  write "("
  if atEnd || atSource || atOptions then
    deeper do
      if !(← commentLinesAt source.span.start) then newline
      indentation
      plain source
      if options.isPresent then
        write ",\n"
        indentation
        plain options
      if !(← if atEnd then commentLinesAt (call.stop - 1) else pure false) then newline
  else
    plain source
    if options.isPresent then
      write ", "
      plain options
  write ")"

/-! ## Operators -/

/-- The operator of a logical expression. -/
def logicalOperator? (t : Tree) : Option String :=
  match t.inner.form with
  | .binary o => if o == "&&" || o == "||" || o == "??" then some o else none
  | _ => none

/-- A binary expression. -/
def binary (g : Printers) (level : Level) (around : Surroundings) (operator : String)
    (left right : Tree) : Printer Unit := do
  let own := Level.ofBinary operator
  let wrapped := level ≥ own || (operator == "in" && around.noIn)
  let around := if wrapped then { around with noIn := false } else around
  let rightward := operator == "**"
  let mixes (t : Tree) : Bool :=
    match logicalOperator? t with
    | some o => if operator == "??" then o != "??" else (operator == "||" || operator == "&&") && o == "??"
    | none => false
  let leftLevel :=
    if rightward then
      match left.inner.form with
      | .unary _ => Level.call
      | _ => own
    else if mixes left then Level.unary else own - 1
  let isLogical := operator == "&&" || operator == "||" || operator == "??"
  let rightLevel :=
    if mixes right then Level.unary else if rightward || isLogical then own - 1 else own
  wrap wrapped do
    match left.form with
    | .privateName n => write ("#" ++ n)
    | _ => g (.expression leftLevel around) left
    write (" " ++ operator ++ " ")
    g (.expression rightLevel around) right

/-! ## Expressions -/

/-- An expression. -/
def expression (g : Printers) (level : Level) (around : Surroundings) (t : Tree) :
    Printer Unit := do
  let at_ ← length
  let st ← get
  let startsStatement := st.statementStart == some at_
  let startsDefault := st.defaultStart == some at_
  let startsArrow := st.arrowStart == some at_
  let plain (e : Tree) : Printer Unit := g (.expression Level.comma {}) e
  match t.form with
  | .paren =>
    match (t.part 0).form with
    | .function _ | .arrow _ => wrap true (g (.expression Level.lowest around) (t.part 0))
    | _ => g (.expression level around) (t.part 0)
  | .asType =>
    wrap (level ≥ Level.shift) do
      g (.expression Level.exponent around) (t.part 0)
      write " as "
      g .type (t.part 1)
  | .satisfiesType =>
    wrap true do
      g (.expression level {}) (t.part 0)
      write " satisfies "
      g .type (t.part 1)
  | .nonNull | .instantiation => g (.expression level around) (t.part 0)
  | .typeAssertion => g (.expression level around) (t.part 1)
  | .identifier n =>
    apart 'i'
    write n
  | .privateName n => write ("#" ++ n)
  | .this =>
    apart 't'
    write "this"
  | .super =>
    apart 's'
    write "super"
  | .null =>
    apart 'n'
    write "null"
  | .boolean b =>
    apart 'b'
    write (toString b)
  | .number raw =>
    apart '0'
    let text :=
      if (← get).inType then raw else Literal.numberText (Literal.numberValue raw)
    write text
    if !(text.toList.any fun c => c == '.' || c == 'e' || c == 'x' || c == 'I') then
      let n ← length
      modify fun st => { st with numberEnd := some n }
  | .bigint raw =>
    apart '0'
    write (Literal.bigintText raw)
  | .string s halves => write (Literal.stringText s halves)
  | .regex pattern flags =>
    if (← lastChar?) == some '/' then blank
    write ("/" ++ pattern ++ "/" ++ flags)
  | .template texts => template (g (.expression Level.lowest {})) texts t.parts
  | .taggedTemplate =>
    g (.expression Level.postfix_ {}) (t.part 0)
    g (.expression Level.lowest {}) (t.part 2)
  | .metaProperty => write (nameText (t.part 0) ++ "." ++ nameText (t.part 1))
  | .array => array g t.parts
  | .object =>
    let commented ← hasComments t.span.start
    wrap (startsStatement || startsArrow || commented) do
      if commented then
        commentsAt t.span.start
        indentation
      object g t.parts
  | .arrayTarget => arrayTarget g t.parts
  | .objectTarget => objectTarget g t.parts
  | .function traits =>
    wrap (startsStatement || startsDefault) do
      if traits.isPure then write (Mark.pureFunction.text ++ " ")
      function g t
  | .class_ _ _ => wrap (startsStatement || startsDefault) (class_ g t)
  | .arrow traits =>
    wrap (level ≥ Level.assign) do
      if traits.isPure then write (Mark.pureFunction.text ++ " ")
      if traits.isAsync then
        apart 'a'
        write "async "
      typeParameters g (t.part 0)
      g .parameters (t.part 1)
      colonType g (t.part 2)
      write " => "
      match (t.part 3).form with
      | .functionBody => g .functionBody (t.part 3)
      | _ =>
        let n ← length
        modify fun st => { st with arrowStart := some n }
        g (.expression Level.comma around) (t.part 3)
  | .unary operator =>
    wrap (level ≥ Level.unary) do
      apart (operator.toList.headD ' ')
      write operator
      if operator.length > 1 then blank
      -- A value printed as a global name is still no name to `delete`.
      if operator == "delete" && isInfiniteNumber (t.part 0) then write "(0, Infinity)"
      else g (.expression Level.exponent { around with noIn := false }) (t.part 0)
  | .update operator before =>
    if before then
      wrap (level ≥ Level.unary) do
        apart (operator.toList.headD ' ')
        write operator
        g (.expression Level.unary around) (t.part 0)
    else
      wrap (level ≥ Level.postfix_) do
        apart (operator.toList.headD ' ')
        g (.expression Level.postfix_ around) (t.part 0)
        write operator
  | .binary operator => binary g level around operator (t.part 0) (t.part 1)
  | .assign operator =>
    let isPattern := match (t.part 0).form with
      | .objectTarget => true
      | _ => false
    wrap (level ≥ Level.assign || (isPattern && (startsStatement || startsArrow))) do
      g (.expression Level.assign {}) (t.part 0)
      write (" " ++ operator ++ " ")
      g (.expression Level.comma around) (t.part 1)
  | .conditional =>
    let wrapped := level ≥ Level.conditional
    let around : Surroundings := { noIn := around.noIn && !wrapped }
    wrap wrapped do
      g (.expression Level.conditional around) (t.part 0)
      write " ? "
      g (.expression Level.yield {}) (t.part 1)
      write " : "
      g (.expression Level.yield around) (t.part 2)
  | .call optional =>
    wrap (level ≥ Level.new || around.noCall) do
      g (.expression Level.postfix_ {}) (t.part 0)
      if optional then write "?."
      typeArguments g (t.part 1)
      arguments g t.span (t.part 2).parts
  | .pureCall =>
    let isNew := match (t.part 0).form with
      | .new => true
      | _ => false
    wrap (level ≥ Level.postfix_ || (around.noCall && !isNew)) do
      write (Mark.pureCall.text ++ " ")
      let n ← length
      -- What the call starts with still starts the statement.
      if startsDefault then modify fun st => { st with defaultStart := some n }
      else if startsStatement then modify fun st => { st with statementStart := some n }
      g (.expression Level.lowest {}) (t.part 0)
  | .new =>
    wrap (level ≥ Level.call) do
      apart 'n'
      write "new "
      g (.expression Level.new { noCall := true }) (t.part 0)
      typeArguments g (t.part 1)
      arguments g t.span (t.part 2).parts
  | .member optional =>
    g (.expression Level.postfix_ { around with noIn := false }) (t.part 0)
    let n ← length
    if optional then write "?."
    else
      if (← get).numberEnd == some n then blank
      write "."
    write (nameText (t.part 1))
  | .computedMember optional =>
    wrap (innerName? (t.part 0) == some "let")
      (g (.expression Level.postfix_ { around with noIn := false }) (t.part 0))
    write (if optional then "?.[" else "[")
    g (.expression Level.lowest {}) (t.part 1)
    write "]"
  | .chain => wrap (level ≥ Level.postfix_) (g (.expression Level.lowest around) (t.part 0))
  | .sequence =>
    wrap (level ≥ Level.comma) (commas (t.parts.map (g (.expression Level.lowest { around with noCall := false }))))
  | .yield delegate =>
    wrap (level ≥ Level.assign) do
      apart 'y'
      write (if delegate then "yield*" else "yield")
      if (t.part 0).isPresent then
        blank
        g (.expression Level.yield {}) (t.part 0)
  | .await =>
    wrap (level ≥ Level.unary) do
      apart 'a'
      write "await "
      g (.expression Level.exponent around) (t.part 0)
  | .importCall phase =>
    wrap (level ≥ Level.new || around.noCall) do
      apart 'i'
      write (match phase with
        | .none => "import"
        | .source => "import.source"
        | .defer => "import.defer")
      importArguments g t.span (t.part 0) (t.part 1)
  | .spread | .rest =>
    write "..."
    plain (t.part 0)
  | _ => pure ()

end QuietEmit.Syntax.Printer
