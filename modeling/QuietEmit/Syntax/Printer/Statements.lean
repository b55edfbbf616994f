/-
  QuietEmit.Syntax.Printer.Statements

  Printing statements, patterns and the members of classes.
-/
import QuietEmit.Syntax.Printer.Expressions

namespace QuietEmit.Syntax.Printer

/-! ## Patterns -/

/-- A pattern, with its type where it has one. -/
def binding (g : Printers) (t : Tree) : Printer Unit := do
  match t.form with
  | .binding optional =>
    g .binding (t.part 0)
    if optional then write "?"
    colonType g (t.part 1)
  | .defaulted =>
    g .binding (t.part 0)
    write " = "
    g (.expression Level.comma {}) (t.part 1)
  | .rest =>
    write "..."
    g .binding (t.part 0)
  | .objectPattern =>
    if t.parts.isEmpty then write "\x7b\x7d"
    else
      write "\x7b "
      commas (t.parts.map (g .binding))
      write " \x7d"
  | .arrayPattern =>
    write "["
    -- A rest that stands alone is set off by a blank.
    match t.parts with
    | [.node .rest _ _] => blank
    | _ => pure ()
    commas (t.parts.map fun e => if e.isPresent then g .binding e else pure ())
    if t.parts.getLast?.any Tree.isAbsent then write ","
    write "]"
  | .property computed shorthand =>
    let plain := (t.part 1).part 0
    let isSame := !computed && match (t.part 0).name? with
      | some n => plain.name? == some n || (plain.part 0).name? == some n
      | none => false
    if !(shorthand || isSame) then
      propertyKey g computed (t.part 0)
      write ": "
    g .binding (t.part 1)
  | .identifier n => write n
  | .this => write "this"
  | _ => g (.expression Level.comma {}) t

/-! ## Class members -/

/-- A field of a class. -/
def field (g : Printers) (m : Modifiers) (ds key type value : Tree) : Printer Unit := do
  decorators g ds
  let isPlain := !m.isAccessor
  if isPlain && m.isDeclare then write "declare "
  if m.isAccessor && m.isAbstract then write "abstract "
  write (accessWord m)
  if isPlain && m.isAbstract then write "abstract "
  if m.isStatic then write "static "
  if m.isOverride then write "override "
  if isPlain && m.isReadonly then write "readonly "
  if m.isAccessor then write "accessor "
  propertyKey g m.isComputed key
  if isPlain && m.isOptional then write "?"
  colonType g type
  if value.isPresent then
    write " = "
    g (.expression Level.comma {}) value
  semicolon

/-- A method of a class. -/
def method (g : Printers) (kind : MethodKind) (m : Modifiers) (ds key f : Tree) :
    Printer Unit := do
  decorators g ds
  write (accessWord m)
  if m.isAbstract then write "abstract "
  if m.isStatic then write "static "
  if m.isOverride then write "override "
  write (methodWord kind)
  write (methodTraits f)
  propertyKey g m.isComputed key
  if m.isOptional then write "?"
  methodRest g ";" f
  newline

/-- A member of a class. -/
def classMember (g : Printers) (t : Tree) : Printer Unit := do
  match t with
  | .node (.field m) _ [ds, key, type, value] => field g m ds key type value
  | .node (.method kind m) _ [ds, key, f] => method g kind m ds key f
  | .node .staticBlock _ ss =>
    write "static "
    braces ss.isEmpty (for s in ss do g .statement s)
    newline
  | .node (.indexSignature _) _ _ =>
    typeMember g t
    semicolon
  | _ => pure ()

/-! ## Blocks -/

/-- A directive on its line. -/
def directive (t : Tree) : Printer Unit := do
  match t.form with
  | .directive raw =>
    commentsAt t.span.start
    indentation
    write (Literal.directiveText raw)
    semicolon
  | _ => pure ()

/-- Statements after directives. A string that would pass for a directive is put in
parentheses. -/
def bodyStatements (g : Printers) (ds ss : List Tree) : Printer Unit := do
  for d in ds do directive d
  let isString (t : Tree) : Bool :=
    match t.form with
    | .expression =>
      match (t.part 0).inner.form with
      | .string _ _ => true
      | _ => false
    | _ => false
  match ss with
  | [] => pure ()
  | first :: rest =>
    if ds.isEmpty && isString first then
      write "("
      g (.expression Level.lowest {}) (first.part 0)
      write ")"
      semicolon
    else g .statement first
    for s in rest do g .statement s

/-- Something between braces that ends at a place, with the comments before its end. -/
def bodyBraces (span : Span) (isEmpty : Bool) (p : Printer Unit) : Printer Unit := do
  let final ← if span.stop > 0 then takeComments (span.stop - 1) else pure []
  let oneLine := isEmpty && final.all fun c => !c.afterNewline && !c.beforeNewline
  braces oneLine do
    p
    comments true final
  modify fun st => { st with indentAsBlank := false }

/-- A block. Comments before its end are left out. -/
def block (g : Printers) (t : Tree) : Printer Unit := do
  braces t.parts.isEmpty (for s in t.parts do g .statement s)
  modify fun st => { st with indentAsBlank := false }

/-- The body of a function. -/
def functionBody (g : Printers) (t : Tree) : Printer Unit :=
  let ds := (t.part 0).parts
  let ss := (t.part 1).parts
  bodyBraces t.span (ds.isEmpty && ss.isEmpty) (bodyStatements g ds ss)

/-! ## Control structures -/

/-- The body of a control structure. -/
def substatement (g : Printers) (t : Tree) : Printer Unit := do
  match t.form with
  | .block =>
    blank
    g .block t
    newline
  | .empty => semicolon
  | _ =>
    modify fun st => { st with indentAsBlank := true }
    g .statement t

/-- An `else` after this statement would belong to an `if` inside it. -/
def hidesElse : Nat → Tree → Bool
  | 0, _ => false
  | fuel + 1, t =>
    match t.form with
    | .if_ => if (t.part 2).isAbsent then true else hidesElse fuel (t.part 2)
    | .for_ => hidesElse fuel (t.part 3)
    | .forIn | .forOf _ => hidesElse fuel (t.part 2)
    | .while_ | .with_ | .labeled => hidesElse fuel (t.part 1)
    | _ => false

/-- An expression between parentheses. -/
def condition (g : Printers) (t : Tree) : Printer Unit := do
  write "("
  g (.expression Level.lowest {}) t
  write ")"

/-- A chain of conditions; `fuel` bounds its length. -/
def ifStatement (g : Printers) : Nat → Tree → Printer Unit
  | 0, _ => pure ()
  | fuel + 1, t => do
    let yes := t.part 1
    let no := t.part 2
    write "if "
    condition g (t.part 0)
    let closed ← match yes.form with
      | .block => do
        blank
        g .block yes
        pure true
      | _ =>
        if hidesElse yes.height yes then do
          write " \x7b\n"
          deeper (g .statement yes)
          indentation
          write "\x7d"
          pure true
        else do
          g .substatement yes
          if no.isPresent then indentation
          pure false
    if closed then
      if no.isPresent then blank else newline
    if no.isPresent then
      write "else"
      match no.form with
      | .if_ =>
        blank
        ifStatement g fuel no
      | _ => g .substatement no

/-- The first part of a loop, where `in` may not stand alone. -/
def loopStart (g : Printers) (t : Tree) : Printer Unit := do
  match t.form with
  | .variableList _ _ => g (.variableList { noIn := true }) t
  | .absent => pure ()
  | _ => g (.expression Level.lowest { noIn := true }) t

/-- What a loop over something assigns to. The name `async` is put in parentheses. -/
def loopTarget (g : Printers) (t : Tree) : Printer Unit :=
  wrap (t.name? == some "async") (loopStart g t)

/-- One case of a switch. -/
def switchCase (g : Printers) (t : Tree) : Printer Unit := do
  indentation
  if (t.part 0).isPresent then
    write "case "
    g (.expression Level.lowest {}) (t.part 0)
  else write "default"
  write ":"
  match (t.part 1).parts with
  | [s] => g .substatement s
  | ss =>
    newline
    deeper (for s in ss do g .statement s)

/-- A keyword with an optional operand. -/
def jump (g : Printers) (word : String) (t : Tree) : Printer Unit := do
  write word
  if (t.part 0).isPresent then
    blank
    g (.expression Level.lowest {}) (t.part 0)
  semicolon

/-! ## Variables -/

/-- Variables without the end of the statement. -/
def variableList (g : Printers) (around : Surroundings) (t : Tree) : Printer Unit := do
  match t with
  | .node (.variableList kind isDeclare) _ ds =>
    if isDeclare then write "declare "
    write kind.text
    if !ds.isEmpty then blank
    commas (ds.map fun d => do
      let b := d.part 0
      g .binding (b.part 0)
      match d.form with
      | .declarator true => write "!"
      | _ => pure ()
      match b.form with
      | .binding true => write "?"
      | _ => pure ()
      colonType g (b.part 1)
      if (d.part 1).isPresent then
        write " = "
        g (.expression Level.comma around) (d.part 1))
  | _ => pure ()

/-! ## Modules -/

/-- Import attributes after the source of a module. -/
def importAttributes (t : Tree) : Printer Unit := do
  match t with
  | .node (.importAttributes keyword) _ entries =>
    write (" " ++ keyword ++ " \x7b")
    if !entries.isEmpty then
      blank
      commas (entries.map fun e => write (nameText (e.part 0) ++ ": " ++ nameText (e.part 1)))
      blank
    write "\x7d"
  | _ => pure ()

/-- The text of a specifier: a name, and another one it goes by. -/
def renamed (typeOnly : Bool) (first second : Tree) : String :=
  let plain : Tree → String
    | .node (.string s _) _ _ => s
    | t => nameText t
  (if typeOnly then "type " else "") ++ nameText first ++
    (if plain first == plain second then "" else " as " ++ nameText second)

/-- Names between braces. -/
def specifierBraces (texts : List String) : Printer Unit :=
  if texts.isEmpty then write "\x7b\x7d" else write ("\x7b " ++ ", ".intercalate texts ++ " \x7d")

/-- An import. -/
def importDeclaration (typeOnly : Bool) (phase : Phase) (specifiers source attributes : Tree) :
    Printer Unit := do
  write "import"
  if typeOnly then write " type"
  match phase with
  | .none => pure ()
  | .source => write " source"
  | .defer => write " defer"
  if specifiers.isPresent then
    let named := specifiers.parts.filterMap fun s =>
      match s with
      | .node (.importSpecifier typeOnly) _ [imported, l] => some (renamed typeOnly imported l)
      | _ => none
    let others := specifiers.parts.filterMap fun s =>
      match s with
      | .node .importDefault _ [l] => some (nameText l)
      | .node .importNamespace _ [l] => some ("* as " ++ nameText l)
      | _ => none
    blank
    commas (others.map write ++
      (if named.isEmpty && !others.isEmpty then [] else [specifierBraces named]))
    write " from"
  write (" " ++ nameText source)
  importAttributes attributes
  semicolon

/-- Whether a tree is a function whose calls are marked to have no effects. -/
def isPureFunction (t : Tree) : Bool :=
  match t.form with
  | .function traits => traits.isPure
  | _ => false

/-- The mark of a function, on a line of its own. -/
def functionMark (t : Tree) : Printer Unit :=
  if isPureFunction t then write (Mark.pureFunction.text ++ "\n") else pure ()

/-- An export with its declaration or its names. -/
def exportNamed (g : Printers) (typeOnly : Bool) (d specifiers source : Tree) :
    Printer Unit := do
  write "export "
  if typeOnly then write "type "
  if d.isPresent then g .declaration d
  else
    specifierBraces (specifiers.parts.filterMap fun s =>
      match s with
      | .node (.exportSpecifier typeOnly) _ [l, exported] => some (renamed typeOnly l exported)
      | _ => none)
    if source.isPresent then write (" from " ++ nameText source)
    semicolon

/-- The members of an enumeration, one a line. -/
def enumMembers (g : Printers) (ms : List Tree) : Printer Unit :=
  if ms.isEmpty then write "\x7b\x7d" else braces false do
    separated (write ",\n") (ms.map fun m => do
      commentsAt m.span.start
      indentation
      match m.form, (m.part 0).form with
      | _, .template texts => write ("[`" ++ String.join texts ++ "`]")
      | .enumMember true, _ => write ("[" ++ nameText (m.part 0) ++ "]")
      | _, _ => write (nameText (m.part 0))
      if (m.part 1).isPresent then
        write " = "
        g (.expression Level.comma {}) (m.part 1))
    newline

/-- The name and body of a namespace; nested names are joined by points. -/
def namespaceRest (g : Printers) : Nat → Tree → Printer Unit
  | 0, _ => pure ()
  | fuel + 1, t => do
    write (nameText (t.part 0))
    let body := t.part 1
    match body.form with
    | .moduleDeclaration _ _ =>
      write "."
      namespaceRest g fuel body
    | .namespaceBody =>
      blank
      let ds := (body.part 0).parts
      braces (ds.isEmpty && body.statements.isEmpty) (bodyStatements g ds body.statements)
    | _ => write ";"

/-- An interface without the end of its line. -/
def interface (g : Printers) (t : Tree) : Printer Unit := do
  write ("interface " ++ nameText (t.part 0))
  typeParameters g (t.part 1)
  if !(t.part 2).parts.isEmpty then
    write " extends "
    commas ((t.part 2).parts.map (g .type))
  blank
  typeMembers g (t.part 3).parts

/-- A declaration after its indentation. -/
def declaration (g : Printers) (t : Tree) : Printer Unit := do
  match t.form with
  | .variableList _ _ =>
    g (.variableList {}) t
    semicolon
  | .function _ =>
    function g t
    newline
  | .class_ _ _ =>
    class_ g t
    newline
  | .interface _ =>
    interface g t
    newline
  | .typeAlias isDeclare =>
    if isDeclare then write "declare "
    write ("type " ++ nameText (t.part 0))
    typeParameters g (t.part 1)
    write " = "
    g .type (t.part 2)
    semicolon
  | .enum isConst isDeclare =>
    -- The indentation comes on top of that of the statement.
    indentation
    if isDeclare then write "declare "
    if isConst then write "const "
    write ("enum " ++ nameText (t.part 0) ++ " ")
    enumMembers g (t.part 1).parts
    newline
  | .moduleDeclaration keyword isDeclare =>
    if isDeclare then write "declare "
    write (match keyword with
      | .module => "module "
      | .namespace_ => "namespace "
      | .global => "")
    namespaceRest g t.height t
    newline
  | .importEquals _ =>
    write "import "
    write (nameText (t.part 0) ++ " = ")
    match t.part 1 with
    | .node .externalReference _ [s] => write ("require(" ++ nameText s ++ ")")
    | r => g .type r
    semicolon
  | _ => pure ()

/-! ## Statements -/

/-- Whether the comments of a statement stand after its indentation, and the statement right after
them. -/
def isIndentedFirst (t : Tree) : Bool :=
  match t.form with
  | .typeAlias _ | .interface _ | .enum _ _ | .importEquals _ | .exportAssignment
  | .namespaceExport => true
  | _ => false

/-- A statement with its comments and its indentation. -/
def statement (g : Printers) (t : Tree) : Printer Unit := do
  if isIndentedFirst t then indentation
  commentsAt t.span.start
  match t.form with
  | .expression =>
    let st ← get
    if st.depth > 0 || st.indentAsBlank then indentation
    let n ← length
    modify fun st => { st with statementStart := some n }
    g (.expression Level.lowest {}) (t.part 0)
    semicolon
  | .block =>
    indentation
    g .block t
    newline
  | .empty =>
    indentation
    semicolon
  | .if_ =>
    indentation
    ifStatement g t.height t
  | .for_ =>
    indentation
    write "for ("
    loopStart g (t.part 0)
    write ";"
    if (t.part 1).isPresent then
      blank
      g (.expression Level.lowest {}) (t.part 1)
    write ";"
    if (t.part 2).isPresent then
      blank
      g (.expression Level.lowest {}) (t.part 2)
    write ")"
    g .substatement (t.part 3)
  | .forIn =>
    indentation
    write "for ("
    loopTarget g (t.part 0)
    write " in "
    g (.expression Level.lowest {}) (t.part 1)
    write ")"
    g .substatement (t.part 2)
  | .forOf isAwait =>
    indentation
    write (if isAwait then "for await (" else "for (")
    loopTarget g (t.part 0)
    write " of "
    g (.expression Level.comma {}) (t.part 1)
    write ")"
    g .substatement (t.part 2)
  | .while_ =>
    indentation
    write "while "
    condition g (t.part 0)
    g .substatement (t.part 1)
  | .doWhile =>
    indentation
    write "do"
    match (t.part 0).form with
    | .block =>
      blank
      g .block (t.part 0)
      blank
    | .empty =>
      semicolon
      indentation
    | _ =>
      newline
      deeper (g .statement (t.part 0))
      indentation
    write "while "
    condition g (t.part 1)
    semicolon
  | .continue_ =>
    indentation
    jump g "continue" t
  | .break_ =>
    indentation
    jump g "break" t
  | .return_ =>
    indentation
    jump g "return" t
  | .throw =>
    indentation
    jump g "throw" t
  | .debugger =>
    indentation
    write "debugger"
    semicolon
  | .with_ =>
    indentation
    write "with"
    condition g (t.part 0)
    g .substatement (t.part 1)
  | .switch =>
    indentation
    write "switch "
    condition g (t.part 0)
    blank
    braces (t.part 1).parts.isEmpty (for c in (t.part 1).parts do switchCase g c)
    newline
  | .labeled =>
    indentation
    write (nameText (t.part 0) ++ ":")
    g .substatement (t.part 1)
  | .try_ =>
    indentation
    write "try "
    g .block (t.part 0)
    match t.part 1 with
    | .node .catch_ clause [b, body] =>
      blank
      commentsAt clause.start
      write "catch"
      if b.isPresent then
        write " ("
        g .binding b
        write ")"
      blank
      g .block body
    | _ => pure ()
    if (t.part 2).isPresent then
      write " finally "
      g .block (t.part 2)
    newline
  | .importDeclaration typeOnly phase =>
    indentation
    importDeclaration typeOnly phase (t.part 0) (t.part 1) (t.part 2)
  | .exportNamed typeOnly =>
    functionMark (t.part 0)
    indentation
    exportNamed g typeOnly (t.part 0) (t.part 1) (t.part 2)
  | .exportDefault =>
    functionMark (t.part 0)
    indentation
    write "export default "
    let n ← length
    match (t.part 0).form with
    | .function _ | .class_ _ _ => g .declaration (t.part 0)
    | .interface _ => interface g (t.part 0)
    | _ =>
      modify fun st => { st with defaultStart := some n }
      g (.expression Level.comma {}) (t.part 0)
      semicolon
  | .exportAll typeOnly =>
    indentation
    write (if typeOnly then "export type *" else "export *")
    if (t.part 0).isPresent then write (" as " ++ nameText (t.part 0))
    write (" from " ++ nameText (t.part 1))
    importAttributes (t.part 2)
    semicolon
  | .exportAssignment =>
    write "export = "
    g (.expression Level.lowest {}) (t.part 0)
    semicolon
  | .namespaceExport =>
    write ("export as namespace " ++ nameText (t.part 0))
    semicolon
  | _ =>
    if isPureFunction t then indentation
    functionMark t
    if !isIndentedFirst t then indentation
    g .declaration t

end QuietEmit.Syntax.Printer
