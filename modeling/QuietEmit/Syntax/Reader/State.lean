/-
  QuietEmit.Syntax.Reader.State

  The state of reading a module: the current token, the text after it, and what
  the place allows. Readers may try something and come back, because the state
  holds everything. A fault ends the reading; lesser faults are noted.
-/
import QuietEmit.Syntax.Lexer
import QuietEmit.Syntax.Names

namespace QuietEmit.Syntax

/-- The language a module is written in. -/
structure Dialect where
  /-- Types may be written. -/
  typed : Bool
  /-- Markup may be written. -/
  markup : Bool
  /-- The module holds declarations only. -/
  declarations : Bool
  /-- The text is a module, not a script. -/
  isModule : Bool
deriving DecidableEq, Repr, Inhabited

/-- What the present place allows. -/
structure Scope where
  /-- `in` is an operator here. -/
  allowIn : Bool := true
  /-- Conditional types may be written here. -/
  allowConditional : Bool := true
  /-- Inside a generator. -/
  inGenerator : Bool := false
  /-- Inside an async function, or at the top level of a module. -/
  inAsync : Bool := false
  /-- Inside a function. -/
  inFunction : Bool := false
  /-- Nothing here has a body. -/
  ambient : Bool := false
  /-- Inside a class. -/
  inClass : Bool := false
  /-- Inside an expression of a decorator. -/
  inDecorator : Bool := false
  /-- A colon after the parameters of an arrow function begins its result type, whatever follows. -/
  arrowResult : Bool := true
deriving Repr, Inhabited

/-- The state of reading. -/
structure State where
  dialect : Dialect
  /-- At least the number of characters of the text. -/
  size : Nat
  /-- The current token, where it starts and stops, and the text from it on. -/
  token : Token
  start : Nat
  stop : Nat
  text : List Char
  /-- The text after the current token. -/
  rest : List Char
  /-- A line end stands before the current token. -/
  newline : Bool
  /-- Where the token before stopped. -/
  previousStop : Nat
  /-- Comments so far, the last one first. -/
  comments : List Comment
  /-- Faults in tokens, the last one first. -/
  lexical : List Fault
  /-- Faults that did not end the reading, the last one first. -/
  faults : List Fault
  /-- Where properties such as `a = 1` start that stand in no pattern so far. -/
  defaults : List Nat
  /-- Where arrays and objects start that end with a comma. -/
  trailingCommas : List Nat
  /-- Names exported so far, the last one first, and the number of default exports beside them. -/
  exported : List String
  defaultExports : Nat
  scope : Scope
deriving Inhabited

/-- The faults of a module but those of its exports: those in tokens come first. Properties such as
`a = 1` that ended up in no pattern are faults too. -/
def State.ownFaults (s : State) : List Fault :=
  s.lexical.reverse ++ s.faults.reverse ++ s.defaults.map fun _ => .objectAssignment

/-- The names that were exported before. -/
def repeatedExports : List String → List String → List String
  | _, [] => []
  | seen, n :: rest =>
    if seen.contains n then n :: repeatedExports seen rest else repeatedExports (n :: seen) rest

/-- Whether the first comment says that the types of the module are of another kind. -/
def State.isFlow (s : State) : Bool :=
  s.comments.getLast?.any fun c => (c.text.splitOn "@flow").length > 1

/-- The faults of a module. Where types may be written, a name may be exported twice. -/
def State.allFaults (s : State) : List Fault :=
  if s.dialect.typed then s.ownFaults
  else if s.isFlow && !s.ownFaults.isEmpty then [.flow]
  else
    let names := s.exported.reverse ++ List.replicate s.defaultExports "default"
    s.ownFaults ++ (repeatedExports [] names).map .exportedTwice

/-- The reading has ended because of a fault; all faults so far. -/
structure Stop where
  faults : List Fault

/-- Readers of a part of a module. -/
abbrev Reader := EStateM Stop State

namespace Reader

/-! ## Tokens -/

/-- Give up with a fault after those noted so far. -/
def giveUp {α : Type} (fault : Fault) : Reader α := do
  let s ← get
  throw ⟨({ s with faults := fault :: s.faults } : State).allFaults⟩

/-- Give up with a fault. It goes without saying when a token could not be read and the reading
stands, or has gone on, past it. -/
def stop {α : Type} (passed : Bool) (fault : Fault) : Reader α := do
  let s ← get
  let atEnd := passed || s.token == .bad || s.token == .endOfText
  if atEnd && !s.lexical.isEmpty then throw ⟨s.allFaults⟩
  giveUp fault

/-- Give up with a fault of the current token. -/
def fail {α : Type} (fault : Fault) : Reader α := stop false fault

/-- Note a fault and go on. -/
def note (fault : Fault) : Reader Unit := modify fun s => { s with faults := fault :: s.faults }

/-- Attach comments to the token that follows them. -/
def attach (start : Nat) (comments : List Comment) : List Comment :=
  comments.map fun c => { c with attachedTo := start }

/-- Comments that were not seen before. -/
def newComments (seen : List Comment) (found : List Comment) : List Comment :=
  match seen.head? with
  | some last => found.filter fun c => last.span.start < c.span.start
  | none => found

/-- Place the scanned token in the state. -/
def place (s : State) (token : Token) (start : Nat) (text rest : List Char) : State :=
  let rec measure : List Char → Nat → Nat → Nat
    | _, 0, n => n
    | [], _, n => n
    | c :: cs, k + 1, n => measure cs k (n + c.utf8Size)
  let stop := measure text (text.length - rest.length) start
  { s with token := token, start := start, stop := stop, text := text, rest := rest }

/-- Move to the token after a name. The text begins like a new line, and an open comment goes on
to its end. -/
def advanceName : Reader Unit := do
  let s ← get
  let t := Lexer.scanTrivia (!s.dialect.isModule) .blank s.stop (s.token == .endOfText) [] s.rest
  let scanned : Lexer.Scanned :=
    if t.unterminated then ⟨.endOfText, [], [.unterminatedComment]⟩
    else Lexer.scanToken s.size t.rest
  let comments := (newComments s.comments (attach t.offset t.comments)).reverse ++ s.comments
  set { place s scanned.token t.offset t.rest scanned.rest with
    newline := t.newline, previousStop := s.stop, comments := comments
    lexical := scanned.faults.reverse ++ s.lexical }

/-- Move to the next token. A keyword may not be spelt with escapes. -/
def advance : Reader Unit := do
  match (← get).token with
  | .name w true => if isKeyword w then note .escapedKeyword
  | _ => pure ()
  advanceName

/-- Read the current token again with another scanner. -/
def rescan (scan : List Char → Lexer.Scanned) : Reader Unit := do
  let s ← get
  let scanned := scan s.text
  set { place s scanned.token s.start s.text scanned.rest with
    lexical := scanned.faults.reverse ++ s.lexical }

/-- The current token. -/
def current : Reader Token := return (← get).token

/-- Where the current token starts. -/
def here : Reader Nat := return (← get).start

/-- The span from a place to the end of the token before. -/
def spanFrom (start : Nat) : Reader Span := return ⟨start, (← get).previousStop⟩

/-- Close a tree that began at `start`. -/
def finish (start : Nat) (form : Form) (parts : List Tree) : Reader Tree :=
  return .node form (← spanFrom start) parts

/-- Whether the current token is that punctuator. -/
def atPunctuator (text : String) : Reader Bool := do
  match ← current with
  | .punctuator p => return p == text
  | _ => return false

/-- Whether the current token is that word. -/
def atWord (word : String) : Reader Bool := do
  match ← current with
  | .name n _ => return n == word
  | _ => return false

/-- Whether the current token is the end of the text, or stops the reading like it. -/
def atEnd : Reader Bool := do
  match ← current with
  | .endOfText | .bad => return true
  | _ => return false

/-- A line of a merge that was left unfinished starts at the current token. -/
def atDiffMarker : Reader Bool := do
  let s ← get
  if !s.newline && s.start != 0 then return false
  return ["<<<<<<<", "=======", ">>>>>>>", "|||||||"].any fun m => m.toList.isPrefixOf s.text

/-- Refuse the current token. At the end of the text the last fault in a token is the reason. -/
def unexpected {α : Type} : Reader α := do
  let s ← get
  match ← atEnd, s.lexical with
  | true, fault :: earlier =>
    throw ⟨({ s with
      lexical := earlier
      faults := if earlier.isEmpty then fault :: s.faults else s.faults } : State).allFaults⟩
  | _, _ => fail (if ← atDiffMarker then .diffMarker else .unexpectedToken)

/-- Step over that punctuator if it comes next. -/
def eat (text : String) : Reader Bool := do
  if ← atPunctuator text then
    advance
    return true
  return false

/-- Step over that word if it comes next. -/
def eatWord (word : String) : Reader Bool := do
  if ← atWord word then
    advance
    return true
  return false

/-- Refuse the current token where another one has to stand. -/
def refuse {α : Type} (wanted : String) : Reader α := do
  stop true (.expected wanted (← current).shown)

/-- Refuse the current token where a separator or a closing token has to stand. -/
def refuseItem {α : Type} (close : String) : Reader α := do
  stop true (.expectedClosing "," close (← current).shown)

/-- Step over a punctuator that has to come next. -/
def expect (text : String) : Reader Unit := do
  if ← atPunctuator text then advance else refuse text

/-- Step over a word that has to come next. -/
def expectWord (word : String) : Reader Unit := do
  if ← atWord word then advance else refuse word

/-- A line end stands before the current token. -/
def onNewLine : Reader Bool := return (← get).newline

/-- Types may be written. -/
def typed : Reader Bool := return (← get).dialect.typed

/-- A statement may end here without a semicolon. -/
def canEndStatement : Reader Bool := do
  match ← current with
  | .punctuator "\x7d" | .punctuator ";" | .endOfText | .bad => return true
  | _ => onNewLine

/-- The end of a statement. -/
def semicolon : Reader Unit := do
  if ← eat ";" then return
  if ← canEndStatement then return
  fail .missingSemicolon

/-- The text between two places of a text, by byte offsets from its head. -/
def textUpTo (stop : Nat) : Nat → List Char → List Char
  | _, [] => []
  | n, c :: cs => if n < stop then c :: textUpTo stop (n + c.utf8Size) cs else []

/-! ## Trying -/

/-- Run a reader; if it fails, nothing has happened. -/
def attempt {α : Type} (r : Reader α) : Reader (Option α) := fun s =>
  match r s with
  | .ok a s' => .ok (some a) s'
  | .error _ _ => .ok none s

/-- Run a reader and come back; answers whether it succeeded with `true`. -/
def lookahead (r : Reader Bool) : Reader Bool := fun s =>
  match r s with
  | .ok b _ => .ok b s
  | .error _ _ => .ok false s

/-- The token after the current one, with whether a line end stands before it. -/
def peek : Reader (Token × Bool) := fun s =>
  match (do advance; return (← current, ← onNewLine) : Reader (Token × Bool)) s with
  | .ok r _ => .ok r s
  | .error _ _ => .ok (.endOfText, false) s

/-- The next token is that punctuator. -/
def nextIs (text : String) : Reader Bool := do
  match (← peek).1 with
  | .punctuator p => return p == text
  | _ => return false

/-- Run a reader where other things are allowed. -/
def within {α : Type} (change : Scope → Scope) (r : Reader α) : Reader α := do
  let outer := (← get).scope
  modify fun s => { s with scope := change outer }
  let a ← r
  modify fun s => { s with scope := outer }
  return a

/-- What the place allows. -/
def scope : Reader Scope := return (← get).scope

/-! ## Repetition -/

/-- Repeat while the reader answers something. `fuel` bounds the number of rounds. -/
def many {α : Type} (r : Reader (Option α)) : Nat → Reader (List α)
  | 0 => return []
  | fuel + 1 => do
    match ← r with
    | some a => return a :: (← many r fuel)
    | none => return []

/-- Extend a tree while the step finds something to add. -/
def extend (step : Tree → Reader (Option Tree)) : Nat → Tree → Reader Tree
  | 0, t => return t
  | fuel + 1, t => do
    match ← step t with
    | some t => extend step fuel t
    | none => return t

/-- A bound on the number of tokens. -/
def size : Reader Nat := return (← get).size + 1

/-- Items end here: at their closing punctuator, and where the text ends. -/
def atClose (close : String) : Reader Bool := do
  if ← atPunctuator close then return true
  atEnd

/-- Items between commas up to a closing punctuator, which is left. -/
def separated (close : String) (item : Reader Tree) : Nat → Reader (List Tree)
  | 0 => return []
  | fuel + 1 => do
    if ← atClose close then return []
    let first ← item
    if ← atClose close then return [first]
    if ← eat "," then return first :: (← separated close item fuel)
    refuseItem close

/-- Items between commas up to a closing punctuator, with whether a comma comes last. -/
def items (close : String) (item : Reader Tree) : Nat → Reader (List Tree × Bool)
  | 0 => return ([], false)
  | fuel + 1 => do
    if ← atClose close then return ([], false)
    let first ← item
    if ← atClose close then return ([first], false)
    if !(← atPunctuator ",") then refuseItem close
    advance
    if ← atPunctuator close then return ([first], true)
    let (rest, trailing) ← items close item fuel
    return (first :: rest, trailing)

/-- Items between commas and brackets. -/
def bracketed (opening close : String) (item : Reader Tree) : Reader (List Tree) := do
  expect opening
  let items ← separated close item (← size)
  expect close
  return items

/-! ## Names -/

/-- Whether the current token may be a name. -/
def atName : Reader Bool := do
  match ← current with
  | .name n _ => return isNameWord n
  | _ => return false

/-- Note a word that is no name in this place: `await` in an async function, `yield` in a
generator. -/
def checkName (word : String) : Reader Unit := do
  let s ← get
  if word == "await" && s.scope.inAsync then note (.nameInAsync word)
  if word == "yield" && s.scope.inGenerator then note (.nameInGenerator word)

/-- A name in a place where one is used. -/
def name : Reader Tree := do
  let start ← here
  match ← current with
  | .name n _ =>
    if isNameWord n then
      checkName n
      advanceName
      finish start (.identifier n) []
    else unexpected
  | _ => unexpected

/-- A name in a place where one is bound. -/
def bindingName : Reader Tree := do
  match ← current with
  | .name n _ => if isNameWord n then name else fail (.reservedName n)
  | _ => unexpected

/-- A name in a place where any word will do. -/
def anyName : Reader Tree := do
  let start ← here
  match ← current with
  | .name n _ =>
    advanceName
    finish start (.identifier n) []
  | _ => unexpected

/-- A string. -/
def stringLiteral : Reader Tree := do
  let start ← here
  match ← current with
  | .string value halves =>
    advance
    finish start (.string value halves) []
  | _ => unexpected

end Reader

end QuietEmit.Syntax
