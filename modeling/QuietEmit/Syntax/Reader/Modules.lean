/-
  QuietEmit.Syntax.Reader.Modules

  Reading imports, exports, and the declarations of types and namespaces.
-/
import QuietEmit.Syntax.Reader.Classes

namespace QuietEmit.Syntax.Reader

/-! ## Names of modules -/

/-- A name that a module gives to the outside: any word, or a string. -/
def moduleName : Reader Tree := do
  match ← current with
  | .string _ halves =>
    if halves then note .halfInExportName
    stringLiteral
  | _ => anyName

/-- One import attribute. -/
def importAttribute : Reader Tree := do
  let start ← here
  let key ← match ← current with
    | .string _ _ => stringLiteral
    | _ => anyName
  expect ":"
  let value ← stringLiteral
  finish start .importAttribute [key, value]

/-- Note the attributes with the key of one before them. -/
def checkAttributes : List String → List Tree → Reader Unit
  | _, [] => return ()
  | seen, a :: rest => do
    let key := ((a.part 0).word?).getD ""
    if seen.contains key then note (.attributeTwice key)
    checkAttributes (key :: seen) rest

/-- Attributes after the source of a module, if there are any. -/
def importAttributes? : Reader Tree := do
  let start ← here
  let read (keyword : String) : Reader Tree := do
    advance
    let entries ← bracketed "\x7b" "\x7d" importAttribute
    checkAttributes [] entries
    finish start (.importAttributes keyword) entries
  if ← atWord "with" then read "with"
  else if (← atWord "assert") && !(← onNewLine) then read "assert"
  else return .none

/-! ## Imports -/

/-- An imported name, with its local one, after any word `type`. -/
def importedPair (start : Nat) (typeOnly : Bool) (first : Tree) : Reader Tree := do
  if ← eatWord "as" then
    let l ← bindingName
    finish start (.importSpecifier typeOnly) [first, l]
  else
    match first.form with
    | .identifier n =>
      if !isNameWord n then note (.reservedName n)
      finish start (.importSpecifier typeOnly) [first, first]
    | _ => refuse "as"

/-- What the word `type` before a name means there: `type`, `type as`, `type as as`, and so on. -/
def typeWordBefore : Reader Bool := do
  if !(← atWord "type") then return false
  lookahead do
    advance
    match ← current with
    | .string _ _ => return true
    | .name "as" _ =>
      -- `type as` renames `type`, unless another `as` or no name follows.
      advance
      match ← current with
      | .name "as" _ =>
        advance
        match ← current with
        | .name _ _ => return true
        | _ => return false
      | .name _ _ => return false
      | _ => return true
    | .name _ _ => return true
    | _ => return false

/-- A name between the braces of an import, which may be one of types only. -/
def importSpecifier (ofTypes : Bool) : Reader Tree := do
  let start ← here
  let typeOnly ← if ← typed then typeWordBefore else pure false
  if typeOnly then advance
  let first ← moduleName
  let t ← importedPair start typeOnly first
  if typeOnly && ofTypes then note (.typeOnlyTwice true)
  return t

/-- The names an import binds. -/
def importNames (ofTypes : Bool) : Reader (List Tree) := do
  let start ← here
  let rest : Reader (List Tree) := do
    let start ← here
    if ← eat "*" then
      expectWord "as"
      let n ← bindingName
      return [← finish start .importNamespace [n]]
    else if !(← atPunctuator "\x7b") then unexpected
    else bracketed "\x7b" "\x7d" (importSpecifier ofTypes)
  if (← atPunctuator "*") || (← atPunctuator "\x7b") then rest
  else
    let n ← bindingName
    let d ← finish start .importDefault [n]
    if ← eat "," then return d :: (← rest) else return [d]

/-- What an import gets after its equals sign. -/
def importReference : Reader Tree := do
  let start ← here
  if ← eatWord "require" then
    expect "("
    let s ← stringLiteral
    expect ")"
    finish start .externalReference [s]
  else
    let n ← anyName
    entityName start n

/-- The rest of an import that names something with an equals sign. -/
def importEqualsRest (start : Nat) (typeOnly : Bool) (n : Tree) : Reader Tree := do
  expect "="
  let r ← importReference
  semicolon
  if !(← typed) then note (.typedOnly "'import ... ='")
  finish start (.importEquals typeOnly) [n, r]

/-- An import declaration. -/
def importDeclaration : Reader Tree := do
  let start ← here
  expectWord "import"
  match ← current with
  | .string _ _ =>
    let source ← stringLiteral
    let attributes ← importAttributes?
    semicolon
    return ← finish start (.importDeclaration false .none) [.none, source, attributes]
  | _ => pure ()
  let sourceFollows : Reader Bool := do
    match (← peek).1 with
    | .name "from" _ => lookahead do
        advance
        advance
        atWord "from"
    | .name _ _ => return true
    | _ => return false
  let phase : Phase ← do
    if (← atWord "source") && (← sourceFollows) then pure .source
    else if (← atWord "defer") && (← nextIs "*") then pure .defer
    else pure .none
  if phase != .none then advance
  let typeOnly ← do
    if phase != .none || !(← typed) || !(← atWord "type") then pure false
    else match ← peek with
      | (.punctuator p, _) => pure (p == "*" || p == "\x7b")
      | (.name "from" _, _) => lookahead do
          advance
          advance
          return (← atWord "from") || (← atPunctuator "=")
      | (.name w _, _) => pure (isNameWord w)
      | _ => pure false
  if typeOnly then advance
  if (← atName) && (← nextIs "=") then
    let n ← bindingName
    return ← importEqualsRest start typeOnly n
  let names ← importNames typeOnly
  expectWord "from"
  let source ← stringLiteral
  let attributes ← importAttributes?
  semicolon
  finish start (.importDeclaration typeOnly phase) [.list names, source, attributes]

/-! ## Declarations of types -/

/-- The name that an expression of members amounts to. -/
def entityOf? : Nat → Tree → Option Tree
  | 0, _ => none
  | fuel + 1, t =>
    match t with
    | .node (.identifier _) _ _ => some t
    | .node (.member false) span [o, n] => do
      if n.name?.isNone then none
      let o ← entityOf? fuel o
      return .node .qualifiedName span [o, n]
    | _ => none

/-- A type that an interface extends has a name. -/
def extendedType (t : Tree) : Reader Tree := do
  match entityOf? (t.height + 1) (t.part 0) with
  | some n => return t.withParts [n, t.part 1]
  | none =>
    note .interfaceExtends
    return t

/-- An interface. -/
def interface (g : Grammar) (start : Nat) (isDeclare : Bool) : Reader Tree := do
  expectWord "interface"
  let n ← bindingName
  let tps ← typeParameters? g
  let h ← heritageAfter g (← size) {}
  let bodyStart ← here
  let ms ← typeMembers g
  let body ← finish bodyStart .list ms
  let bases ← (h.bases.getD []).mapM extendedType
  if h.interfaces.isSome then note .interfaceImplements
  finish start (.interface isDeclare) [n, tps, .list bases, body]

/-- A type alias. -/
def typeAlias (g : Grammar) (start : Nat) (isDeclare : Bool) : Reader Tree := do
  expectWord "type"
  let n ← bindingName
  let tps ← typeParameters? g
  expect "="
  let intrinsicAlone ← lookahead do
    if !(← eatWord "intrinsic") then return false
    return !(← atPunctuator ".")
  let t ← if intrinsicAlone then do
      let s ← here
      advance
      finish s (.keywordType "intrinsic") []
    else g .type
  semicolon
  finish start (.typeAlias isDeclare) [n, tps, t]

/-- The name of a member of an enumeration. -/
def enumMemberName (g : Grammar) : Reader Tree := do
  match ← current with
  | .string _ _ => stringLiteral
  | .punctuator "[" =>
    let (key, _) ← propertyName g
    match key with
    | .node (.string _ _) _ _ | .node (.template _) _ [] => return key
    | .node (.number _) _ _ => fail .enumNumericName
    | _ => fail .enumComputedName
  | .template _ _ _ => fail .enumComputedName
  | .number _ | .bigint _ => fail .enumNumericName
  | _ => anyName

/-- A member of an enumeration. -/
def enumMember (g : Grammar) : Reader Tree := do
  let start ← here
  let computed ← atPunctuator "["
  let key ← enumMemberName g
  let value ← initializer? g
  finish start (.enumMember computed) [key, value]

/-- An enumeration. -/
def enumeration (g : Grammar) (start : Nat) (isConst isDeclare : Bool) : Reader Tree := do
  expectWord "enum"
  let n ← bindingName
  let bodyStart ← here
  let ms ← enclosed (bracketed "\x7b" "\x7d" (enumMember g))
  let body ← finish bodyStart .list ms
  finish start (.enum isConst isDeclare) [n, body]

/-- The statements of a namespace. -/
def namespaceBody (g : Grammar) : Reader Tree := do
  let t ← within (fun s => { s with inAsync := false, inGenerator := false, inFunction := false })
    (g .functionBody)
  return t.withForm .namespaceBody

/-- The name and body of a namespace; names with dots nest. -/
def namespaceRest (g : Grammar) (start : Nat) (isDeclare : Bool) : Nat → Reader Tree
  | 0 => unexpected
  | fuel + 1 => do
    let n ← bindingName
    if ← eat "." then
      let innerStart ← here
      let body ← namespaceRest g innerStart false fuel
      finish start (.moduleDeclaration .namespace_ isDeclare) [n, body]
    else
      let body ← namespaceBody g
      finish start (.moduleDeclaration .namespace_ isDeclare) [n, body]

/-- A namespace or module. -/
def moduleDeclaration (g : Grammar) (start : Nat) (isDeclare : Bool) : Reader Tree := do
  if ← atWord "global" then
    let n ← anyName
    let body ← namespaceBody g
    return ← finish start (.moduleDeclaration .global isDeclare) [n, body]
  let isModule ← atWord "module"
  advance
  match isModule, ← current with
  | true, .string _ _ =>
    let n ← stringLiteral
    let body ← if ← atPunctuator "\x7b" then namespaceBody g
      else do
        semicolon
        pure .none
    finish start (.moduleDeclaration .module isDeclare) [n, body]
  | _, _ =>
    namespaceRest g start isDeclare (← size)

/-! ## Variables -/

/-- Note a variable that has to have a value. -/
def checkInitialized (kind : VariableKind) (d : Tree) : Reader Unit := do
  let target := (d.part 0).part 0
  if (d.part 1).isAbsent && !(← scope).ambient then
    if target.name?.isNone then note .destructuringWithoutValue
    else if kind == .const then note .constWithoutValue

/-- One declared variable. -/
def declarator (g : Grammar) (kind : VariableKind) (inLoop : Bool) : Reader Tree := do
  let start ← here
  let p ← g .pattern
  let definite ← do
    if (← typed) && p.name?.isSome && !(← onNewLine) then eat "!" else pure false
  let optional ← if ← typed then eat "?" else pure false
  if optional then note .optionalVariable
  let a ← colonType? g
  let b : Tree := .node (.binding optional) ⟨p.span.start, (← get).previousStop⟩ [p, a]
  let value ← if ← eat "=" then g .assignment else pure .none
  if definite then
    if value.isPresent then note .definiteWithValue
    else if a.isAbsent then note .definiteWithoutType
  let d ← finish start (.declarator definite) [b, value]
  if kind == .using_ || kind == .awaitUsing then
    if p.name?.isNone then note .usingPattern
    if value.isAbsent && !inLoop then note .usingWithoutValue
  else if !inLoop then checkInitialized kind d
  return d

/-- The kind of variables that the current word introduces; steps over it. -/
def variableKind : Reader VariableKind := do
  if ← eatWord "var" then return .var
  if ← eatWord "const" then return .const
  if ← eatWord "let" then return .let_
  if ← eatWord "await" then
    expectWord "using"
    return .awaitUsing
  expectWord "using"
  return .using_

/-- Declared variables, without the end of the statement. -/
def variableList (g : Grammar) (start : Nat) (isDeclare inLoop : Bool) : Reader Tree := do
  let kind ← variableKind
  let ds ← commaList (declarator g kind inLoop)
  finish start (.variableList kind isDeclare) ds

/-- Declared variables as a statement. -/
def variableStatement (g : Grammar) (start : Nat) (isDeclare : Bool) : Reader Tree := do
  let vs ← variableList g start isDeclare false
  semicolon
  finish start vs.form vs.parts

/-- The current word begins a declaration of disposed variables. In the head of a loop no variable
is named `of` unless `await` comes first. -/
def usingFollows (inLoop : Bool) : Reader Bool := lookahead do
  let isAwait ← eatWord "await"
  if isAwait then
    if ← onNewLine then return false
  if !(← eatWord "using") || (← onNewLine) then return false
  match ← current with
  | .punctuator "\x7b" => return true
  | .name v _ => return isNameWord v && (v != "of" || !inLoop || isAwait)
  | _ => return false

/-! ## Declarations -/

/-- Whether the tokens from the current one on begin a declaration with types or modifiers. -/
def startsTypedDeclaration : Nat → Reader Bool
  | 0 => return false
  | fuel + 1 => do
    match ← current with
    | .name w _ =>
      match w with
      | "var" | "let" | "const" | "function" | "class" | "enum" => return true
      | "interface" | "type" =>
        advance
        nameOnLine
      | "module" | "namespace" =>
        advance
        match ← current, ← onNewLine with
        | .string _ _, false => return true
        | _, _ => nameOnLine
      | "abstract" | "accessor" | "async" | "declare" | "private" | "protected" | "public"
      | "readonly" =>
        advance
        if ← onNewLine then return false
        startsTypedDeclaration fuel
      | "static" =>
        advance
        startsTypedDeclaration fuel
      | "export" =>
        advance
        discard (eatWord "type")
        if ← ["=", "*", "\x7b", "@"].anyM atPunctuator then return true
        if ← ["default", "as"].anyM atWord then return true
        startsTypedDeclaration fuel
      | "global" =>
        advance
        return (← atPunctuator "\x7b") || (← atName) || (← atWord "export")
      | "import" =>
        advance
        match ← current with
        | .name _ _ | .string _ _ | .punctuator "*" | .punctuator "\x7b" => return true
        | _ => return false
      | _ => return false
    | _ => return false

/-- Words that begin a declaration with types or modifiers where one follows. -/
def typedDeclarationWords : List String :=
  ["interface", "type", "module", "namespace", "declare", "enum", "private", "protected", "public",
    "abstract", "accessor", "static", "readonly", "global"]

/-- A declaration with types or modifiers comes next. -/
def typedDeclarationFollows (word : String) : Reader Bool := do
  if !(← typed) || !typedDeclarationWords.contains word then return false
  let bound ← size
  lookahead (startsTypedDeclaration bound)

/-- Modifiers before a declaration; some may stand on a line of their own. -/
def declarationModifiersAfter : Nat → List Modifier → Reader (List Modifier)
  | 0, seen => return seen
  | fuel + 1, seen => do
    match ← current with
    | .name w _ =>
      match Modifier.words.lookup w with
      | none => return seen
      | some m =>
        let follows ← match m with
          | .const =>
            match (← peek).1 with
            | .name v _ => pure (v == "enum")
            | _ => pure false
          | .default_ | .export_ => modifies m
          | _ => lookahead do
            advance
            if (← onNewLine) && m != .accessor && m != .static then return false
            canFollowModifier
        if !follows then return seen
        match Modifier.fault? seen m with
        | some fault => note fault
        | none => pure ()
        advance
        declarationModifiersAfter fuel (seen ++ [m])
    | _ => return seen

/-- Modifiers before a declaration. -/
def declarationModifiers : Reader (List Modifier) := do
  if ← typed then declarationModifiersAfter (← size) [] else return []

/-- A declaration after its decorators and modifiers. -/
def declaration (g : Grammar) (start : Nat) (ds : Tree) (ms : List Modifier) : Reader Tree := do
  let isDeclare := ms.contains .declare
  let checked (allowed : List Modifier) (r : Reader Tree) : Reader Tree := do
    let t ← within (fun s => { s with ambient := s.ambient || isDeclare }) r
    allowOnly (.declare :: allowed) .modifierHere ms
    return t
  if !(← atWord "class") then refuseDecorators ds
  let word := match ← current with
    | .name w _ => w
    | _ => ""
  match word, ← typed with
  | "namespace", true | "module", true | "global", true =>
    checked [] (moduleDeclaration g start isDeclare)
  | "type", true => checked [] (typeAlias g start isDeclare)
  | "enum", true => checked [.const] (enumeration g start (ms.contains .const) isDeclare)
  | "interface", true => checked [] (interface g start isDeclare)
  | "import", true => checked [] do
    advance
    let typeOnly ← if ← atWord "type" then pure !(← nextIs "=") else pure false
    if typeOnly then advance
    let n ← bindingName
    importEqualsRest start typeOnly n
  | "class", _ => checked [.abstract_] (classTree g start ds (ms.contains .abstract_) isDeclare)
  | "async", false =>
    advance
    checked [] (functionAfter g start true true true false)
  | "function", _ =>
    checked [.async] (functionAfter g start (ms.contains .async) true true isDeclare)
  | "var", _ | "let", _ | "const", _ => checked [] (variableStatement g start isDeclare)
  | _, _ =>
    if ← usingFollows false then fail .usingExported else unexpected

/-! ## Exports -/

/-- A name between the braces of an export, which may be one of types only. -/
def exportSpecifier (ofTypes : Bool) : Reader Tree := do
  let start ← here
  let typeOnly ← if ← typed then typeWordBefore else pure false
  if typeOnly then advance
  let first ← moduleName
  let second ← if ← eatWord "as" then moduleName else pure first
  if typeOnly && ofTypes then note (.typeOnlyTwice false)
  finish start (.exportSpecifier typeOnly) [first, second]

/-- Local names of exports have to be names. -/
def checkExported (specifiers : List Tree) : Reader Unit := do
  for s in specifiers do
    match (s.part 0).form with
    | .string n _ => note (.exportNamedString n)
    | .identifier n =>
      if !isNameWord n || moduleReservedWords.contains n then note (.exportReservedWord n)
    | _ => pure ()

/-- The next token is that word on the line of the current one. -/
def nextWordOnLine (word : String) : Reader Bool := do
  match ← peek with
  | (.name w _, false) => return w == word
  | _ => return false

/-- Decorators after the word `export`. They come there or before it, not at both places. -/
def laterDecorators (g : Grammar) (earlier : Tree) : Reader Tree := do
  let ds ← decorators g
  if !earlier.parts.isEmpty then
    for _ in ds.parts do note .decoratorsAround
  return .list (earlier.parts ++ ds.parts)

/-- The default export of a module, after its word. -/
def exportDefault (g : Grammar) (start : Nat) (ds : Tree) : Reader Tree := do
  let innerStart ← here
  let functions ← marked .pureFunction
  let ds ← laterDecorators g ds
  let abstractClass ← do
    if (← typed) && (← atWord "abstract") then nextWordOnLine "class" else pure false
  let asyncFunction ← if ← atWord "async" then nextWordOnLine "function" else pure false
  let interfaceFollows ← do
    if (← typed) && (← atWord "interface") then
      match ← peek with
      | (.name w _, false) => pure (isNameWord w)
      | _ => pure false
    else pure false
  let value ← do
    if abstractClass || (← atWord "class") then
      discard (eatWord "abstract")
      classTree g innerStart ds abstractClass false
    else if asyncFunction || (← atWord "function") then
      let isAsync ← eatWord "async"
      let f ← functionAfter g innerStart isAsync true false false
      pure (markedBefore false functions f)
    else if interfaceFollows then interface g innerStart false
    else
      let e ← g .assignment
      semicolon
      pure e
  finish start .exportDefault [value]

/-- An export declaration, whose names are still to be noted. -/
def exportTree (g : Grammar) (start : Nat) (ds : Tree) : Reader Tree := do
  expectWord "export"
  let typeOnly ← do
    if !(← typed) || !(← atWord "type") then pure false
    else match ← peek with
      | (.punctuator p, _) => pure (p == "\x7b" || p == "*")
      | _ => pure false
  if typeOnly then advance
  let isNamespace ← do
    if (← typed) && (← atWord "as") then
      match (← peek).1 with
      | .name w _ => pure (w == "namespace")
      | _ => pure false
    else pure false
  match ← current with
  | .punctuator "*" =>
    advance
    let exported ← if ← eatWord "as" then moduleName else pure .none
    expectWord "from"
    let source ← stringLiteral
    let attributes ← importAttributes?
    semicolon
    finish start (.exportAll typeOnly) [exported, source, attributes]
  | .punctuator "\x7b" =>
    let specifiers ← bracketed "\x7b" "\x7d" (exportSpecifier typeOnly)
    let (source, attributes) ← if ← eatWord "from" then do
        match ← current with
        | .string _ _ =>
          let s ← stringLiteral
          pure (s, ← importAttributes?)
        | _ => pure (Tree.none, Tree.none)
      else pure (Tree.none, Tree.none)
    if source.isAbsent then checkExported specifiers
    semicolon
    finish start (.exportNamed typeOnly) [.none, .list specifiers, source, attributes]
  | .punctuator "=" =>
    if !(← typed) then unexpected
    advance
    let e ← g .assignment
    semicolon
    finish start .exportAssignment [e]
  | .name "default" _ =>
    advance
    exportDefault g start ds
  | .name "import" _ =>
    let d ← importDeclaration
    match d.form with
    | .importEquals _ => finish start (.exportNamed false) [d, .list [], .none, .none]
    | _ => fail .exportedImport
  | _ =>
    if isNamespace then
      advance
      advance
      let n ← name
      semicolon
      return ← finish start .namespaceExport [n]
    let innerStart ← here
    let ds ← laterDecorators g ds
    let ms ← declarationModifiers
    let d ← declaration g innerStart ds ms
    finish start (.exportNamed false) [d, .list [], .none, .none]

/-- The names of values that an exported declaration binds. -/
def exportedNames (d : Tree) : List String :=
  match d.form with
  | .function _ => (d.part 0).name?.toList
  | .class_ _ _ => (d.part 1).name?.toList
  | _ => d.boundNames

/-- Note the names that a declaration exports. -/
def noteExports (t : Tree) : Reader Unit := modify fun s =>
  let add (names : List String) : State := { s with exported := names.reverse ++ s.exported }
  match t.form with
  | .exportDefault => { s with defaultExports := s.defaultExports + 1 }
  | .exportAll _ => add (t.part 0).word?.toList
  | .exportNamed _ =>
    add (exportedNames (t.part 0) ++ (t.part 1).parts.filterMap fun e => (e.part 1).word?)
  | _ => s

/-- An export declaration. -/
def exportDeclaration (g : Grammar) (start : Nat) (ds : Tree) : Reader Tree := do
  let t ← exportTree g start ds
  noteExports t
  return t

end QuietEmit.Syntax.Reader
