/-
  QuietEmit.Syntax.Printer.Types

  Printing types and the names that types and values share.
-/
import QuietEmit.Syntax.Printer.Task

namespace QuietEmit.Syntax.Printer

/-! ## Names -/

/-- An identifier, a string, or another name of a property. -/
def nameText : Tree → String
  | .node (.identifier n) _ _ => n
  | .node (.privateName n) _ _ => "#" ++ n
  | .node (.string s halves) _ _ => Literal.stringText s halves
  | .node (.number raw) _ _ => Literal.numberText (Literal.numberValue raw)
  | .node (.bigint raw) _ _ => Literal.bigintText raw
  | .node .this _ _ => "this"
  | _ => ""

/-- The name of a property; a computed one between brackets. -/
def propertyKey (g : Printers) (computed : Bool) (key : Tree) : Printer Unit := do
  if computed then
    write "["
    g (.expression Level.comma {}) key
    write "]"
  else
    match key with
    | .node (.number raw) _ _ => if (← get).inType then write raw else write (nameText key)
    | _ => write (nameText key)

/-- A type after a colon, if there is one. -/
def colonType (g : Printers) (t : Tree) : Printer Unit := do
  if t.isPresent then
    write ": "
    g .type (t.part 0)

/-! ## Parameters and arguments of types -/

/-- Arguments of a type, if there are any. -/
def typeArguments (g : Printers) (t : Tree) : Printer Unit := do
  if t.isPresent then
    write "<"
    commas (t.parts.map (g .type))
    write ">"

/-- A type parameter. -/
def typeParameter (g : Printers) : Tree → Printer Unit
  | .node (.typeParameter isConst isIn isOut) _ [name, bound, default] => do
    if isConst then write "const "
    if isIn then write "in "
    if isOut then write "out "
    write (nameText name)
    if bound.isPresent then
      write " extends "
      g .type bound
    if default.isPresent then
      write " = "
      g .type default
  | _ => pure ()

/-- Parameters of a type, if there are any: one on the line, several on lines of their own. -/
def typeParameters (g : Printers) (t : Tree) : Printer Unit := do
  if t.isPresent then
    let ps := t.parts.map (typeParameter g)
    write "<"
    if ps.length ≥ 2 then commaLines ps else commas ps
    write ">"

/-! ## Members of object types -/

/-- The words before a member of an object type. -/
def methodWord : MethodKind → String
  | .get => "get "
  | .set => "set "
  | _ => ""

/-- A member of an object type. -/
def typeMember (g : Printers) (t : Tree) : Printer Unit := do
  match t with
  | .node (.propertySignature m) _ [key, type] =>
    if m.isReadonly then write "readonly "
    propertyKey g m.isComputed key
    if m.isOptional then write "?"
    colonType g type
  | .node (.methodSignature kind m) _ [key, tps, ps, result] =>
    write (methodWord kind)
    propertyKey g m.isComputed key
    if m.isOptional then write "?"
    typeParameters g tps
    g .parameters ps
    colonType g result
  | .node .callSignature _ [tps, ps, result] =>
    typeParameters g tps
    g .parameters ps
    colonType g result
  | .node .constructSignature _ [tps, ps, result] =>
    write "new "
    typeParameters g tps
    g .parameters ps
    colonType g result
  | .node (.indexSignature m) _ [name, keyType, type] =>
    if m.isReadonly then write "readonly "
    write ("[" ++ nameText name)
    colonType g keyType
    write "]"
    colonType g type
  | _ => pure ()

/-- Members of an object type between braces, one a line. -/
def typeMembers (g : Printers) (ms : List Tree) : Printer Unit :=
  braces ms.isEmpty (for m in ms do
    commentsAt m.span.start
    indentation
    typeMember g m
    semicolon)

/-! ## Types -/

/-- A name with dots. -/
def entityName (g : Printers) : Tree → Printer Unit
  | .node .qualifiedName _ [left, right] => do
    g .type left
    write ("." ++ nameText right)
  | t => write (nameText t)

/-- A template with things between its texts. -/
def template (p : Tree → Printer Unit) (texts : List String) (parts : List Tree) : Printer Unit := do
  let rec go : List String → List Tree → Printer Unit
    | [], _ => pure ()
    | s :: rest, ts => do
      write (Literal.guardScript s)
      match ts with
      | t :: ts =>
        write "$\x7b"
        p t
        write "\x7d"
        go rest ts
      | [] => go rest []
  write "`"
  go texts parts
  write "`"

/-- The sign before a modifier of a mapped type. -/
def mappedSign (sign word : String) : String :=
  if sign == "" then "" else if sign == "true" then word else sign ++ word

/-- A type. -/
def type (g : Printers) (t : Tree) : Printer Unit := ofType do
  let joined (operator : String) : Printer Unit :=
    separated (write operator) (t.parts.map (g .type))
  match t.form with
  | .keywordType word => write word
  | .this => write "this"
  | .identifier _ | .qualifiedName => entityName g t
  | .typeReference | .heritage =>
    entityName g (t.part 0)
    typeArguments g (t.part 1)
  | .typeQuery =>
    write "typeof "
    g .type (t.part 0)
    typeArguments g (t.part 1)
  | .importType =>
    write "import("
    write (nameText (t.part 0))
    if (t.part 1).isPresent then
      write ", "
      g (.expression Level.comma {}) (t.part 1)
    write ")"
    if (t.part 2).isPresent then
      write "."
      g .type (t.part 2)
    typeArguments g (t.part 3)
  | .union => joined " | "
  | .intersection => joined " & "
  | .arrayType =>
    g .type (t.part 0)
    write "[]"
  | .tuple =>
    write "["
    commas (t.parts.map (g .type))
    write "]"
  | .optionalType =>
    g .type (t.part 0)
    write "?"
  | .restType =>
    write "..."
    g .type (t.part 0)
  | .namedElement optional =>
    write (nameText (t.part 0))
    if optional then write "?"
    write ": "
    g .type (t.part 1)
  | .functionType =>
    typeParameters g (t.part 0)
    g .parameters (t.part 1)
    write " => "
    g .type ((t.part 2).part 0)
  | .constructorType isAbstract =>
    if isAbstract then write "abstract "
    write "new "
    typeParameters g (t.part 0)
    g .parameters (t.part 1)
    write " => "
    g .type ((t.part 2).part 0)
  | .typeLiteral => typeMembers g t.parts
  | .mappedType isReadonly optional =>
    write "\x7b "
    let sign := mappedSign isReadonly "readonly"
    if sign != "" then write (sign ++ " ")
    write ("[" ++ nameText (t.part 0) ++ " in ")
    g .type (t.part 1)
    if (t.part 2).isPresent then
      write " as "
      g .type (t.part 2)
    write ("]" ++ mappedSign optional "?" ++ " ")
    colonType g (t.part 3)
    write " \x7d"
  | .conditionalType =>
    g .type (t.part 0)
    write " extends "
    g .type (t.part 1)
    write " ? "
    g .type (t.part 2)
    write " : "
    g .type (t.part 3)
  | .inferType =>
    write "infer "
    typeParameter g (t.part 0)
  | .typeOperator operator =>
    write (operator ++ " ")
    g .type (t.part 0)
  | .indexedAccess =>
    g .type (t.part 0)
    write "["
    g .type (t.part 1)
    write "]"
  | .literalType => g (.expression Level.lowest {}) (t.part 0)
  | .templateType texts => template (g .type) texts t.parts
  | .predicate asserts =>
    if asserts then write "asserts "
    write (nameText (t.part 0))
    if (t.part 1).isPresent then
      write " is "
      g .type (t.part 1)
  | .parenType =>
    write "("
    g .type (t.part 0)
    write ")"
  | .markedType mark after =>
    if !after then write mark
    g .type (t.part 0)
    if after then write mark
  | _ => pure ()

end QuietEmit.Syntax.Printer
