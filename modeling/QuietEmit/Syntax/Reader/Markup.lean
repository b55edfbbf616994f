/-
  QuietEmit.Syntax.Reader.Markup

  Reading markup: elements with attributes and children.
-/
import QuietEmit.Syntax.Reader.Expressions

namespace QuietEmit.Syntax.Reader

/-! ## Tokens of markup -/

/-- Characters of a name in markup. -/
def isMarkupNamePart (c : Char) : Bool := Lexer.isNamePart c || c == '-'

/-- Take a name with hyphens as one token; escapes in it stay as they are written. -/
def extendName : Reader Unit := do
  let s ← get
  match s.token with
  | .name _ _ =>
    let taken := s.text.take (s.text.length - s.rest.length)
    let more := s.rest.takeWhile isMarkupNamePart
    rescan fun _ =>
      ⟨.name (String.ofList (taken ++ more)) false, s.rest.drop more.length, []⟩
  | _ => pure ()

/-- The text up to the next tag or expression, or the sign that begins one. A closing angle or
brace has no place in the text. -/
def scanText (cs : List Char) : Lexer.Scanned :=
  match cs with
  | '<' :: rest => ⟨.punctuator "<", rest, []⟩
  | '\x7b' :: rest => ⟨.punctuator "\x7b", rest, []⟩
  | [] => ⟨.endOfText, [], []⟩
  | _ =>
    let raw := cs.takeWhile fun c => !(['<', '\x7b', '>', '\x7d'].contains c)
    match cs.drop raw.length with
    | '>' :: rest => .bad (.markupText '>' "gt") rest
    | '\x7d' :: rest => .bad (.markupText '\x7d' "rbrace") rest
    | rest => ⟨.jsxText (String.ofList raw), rest, []⟩

/-- Take the text up to the next tag or expression as the token after the current one. -/
def advanceToText : Reader Unit := do
  let s ← get
  let scanned := scanText s.rest
  set { place s scanned.token s.stop s.rest scanned.rest with
    newline := false, previousStop := s.stop
    lexical := scanned.faults.reverse ++ s.lexical }

/-- Step over a closing angle, which stands before text inside an element. -/
def closeAngle (insideElement : Bool) : Reader Unit := do
  if !(← atPunctuator ">") then refuse ">"
  if insideElement then advanceToText else advance

/-- Take a string as it is written, without escapes, as the token after an equals sign. -/
def advanceToString : Reader Unit := do
  let s ← get
  let t := Lexer.scanTrivia (!s.dialect.isModule) .blank s.stop false [] s.rest
  match t.rest with
  | q :: rest =>
    if q == '"' || q == '\'' then
      let raw := rest.takeWhile (· != q)
      let scanned : Lexer.Scanned := match rest.drop raw.length with
        | _ :: after => ⟨.string (String.ofList raw) false, after, []⟩
        | [] => .bad .unterminatedString []
      set { place s scanned.token t.offset t.rest scanned.rest with
        newline := t.newline, previousStop := s.stop
        comments := (attach t.offset t.comments).reverse ++ s.comments
        lexical := scanned.faults.reverse ++ s.lexical }
    else advance
  | [] => advance

/-! ## Names and attributes -/

/-- A name with hyphens. -/
def markupName : Reader Tree := do
  let start ← here
  extendName
  match ← current with
  | .name n _ =>
    advance
    finish start (.jsxName n) []
  | _ => unexpected

/-- The name of an element: with a namespace, with members, or plain. -/
def elementName : Reader Tree := do
  let start ← here
  let first ← markupName
  let text : Tree → String
    | .node (.jsxName n) _ _ => n
    | _ => ""
  if ← eat ":" then
    let second ← markupName
    finish start (.jsxName (text first ++ ":" ++ text second)) []
  else
    extend (fun t => do
      if ← eat "." then
        let n ← markupName
        if (text n).contains '-' then fail .markupHyphen
        return some (← finish start (.jsxName (text t ++ "." ++ text n)) [])
      else return none) (← size) first

/-- An expression with its braces, followed by what stands inside an element or a tag. -/
def container (g : Grammar) (insideElement : Bool) : Reader Tree := do
  let start ← here
  expect "\x7b"
  let close : Reader Unit := do
    if !(← atPunctuator "\x7d") then refuse "\x7d"
    if insideElement then advanceToText else advance
  if ← atPunctuator "\x7d" then
    close
    if !insideElement then note .markupEmptyValue
    finish start .jsxContainer [.none]
  else if insideElement && (← atPunctuator "...") then
    advance
    let e ← enclosed (g .expression)
    close
    finish start .jsxSpreadChild [e]
  else
    let e ← enclosed (g .expression)
    close
    finish start .jsxContainer [e]

/-- The value of an attribute. -/
def attributeValue (g : Grammar) : Reader Tree := do
  let start ← here
  match ← current with
  | .punctuator "\x7b" => container g false
  | .punctuator "<" => g .markup
  | .string raw _ =>
    advance
    finish start (.jsxString raw) []
  | _ => unexpected

/-- An attribute, if one comes next. -/
def attribute? (g : Grammar) : Reader (Option Tree) := do
  let start ← here
  match ← current with
  | .name _ _ =>
    let n ← do
      let first ← markupName
      if ← eat ":" then
        let second ← markupName
        match first.form, second.form with
        | .jsxName a, .jsxName b => finish start (.jsxName (a ++ ":" ++ b)) []
        | _, _ => pure first
      else pure first
    let value ← do
      if ← atPunctuator "=" then
        advanceToString
        attributeValue g
      else pure .none
    return some (← finish start .jsxAttribute [n, value])
  | .punctuator "\x7b" =>
    advance
    expect "..."
    let e ← enclosed (g .expression)
    expect "\x7d"
    return some (← finish start .jsxSpreadAttribute [e])
  | .punctuator "<" | .punctuator ">" | .punctuator "/" | .endOfText => return none
  | _ => unexpected

/-! ## Elements -/

/-- The children of an element up to its closing tag. -/
def children (g : Grammar) (element : Bool → Reader Tree) : Nat → Reader (List Tree)
  | 0 => return []
  | fuel + 1 => do
    let start ← here
    match ← current with
    | .punctuator "<" =>
      if ← nextIs "/" then return []
      let e ← element true
      return e :: (← children g element fuel)
    | .punctuator "\x7b" =>
      let e ← container g true
      return e :: (← children g element fuel)
    | .jsxText raw =>
      advanceToText
      let t ← finish start (.jsxText raw) []
      return t :: (← children g element fuel)
    | _ => unexpected

/-- A closing tag, with a name in that of an element. -/
def closingTag (named inside : Bool) : Reader Tree := do
  expect "<"
  expect "/"
  let n ← if named then elementName else pure Tree.none
  closeAngle inside
  return n

/-- An element or fragment; `inside` another one or not. -/
def markupElement (g : Grammar) : Nat → Bool → Reader Tree
  | 0, _ => unexpected
  | fuel + 1, inside => do
    let start ← here
    expect "<"
    if ← atPunctuator ">" then
      closeAngle true
      let cs ← children g (markupElement g fuel) (← size)
      discard (closingTag false inside)
      return ← finish start .jsxFragment [.list cs]
    let before ← get
    let n ← elementName
    let written := textUpTo (← get).previousStop before.start before.text
    let args ← typeArguments? g
    let attributes ← many (attribute? g) (← size)
    if ← eat "/" then
      closeAngle inside
      return ← finish start .jsxElement [n, args, .list attributes, .list [], .none]
    closeAngle true
    let cs ← children g (markupElement g fuel) (← size)
    let closing ← closingTag true inside
    match n.form, closing.form with
    | .jsxName a, .jsxName b => if a != b then note (.closingTag (String.ofList written))
    | _, _ => pure ()
    finish start .jsxElement [n, args, .list attributes, .list cs, closing]

/-- An element or fragment as an expression. -/
def markup (g : Grammar) : Reader Tree := do markupElement g (← size) false

end QuietEmit.Syntax.Reader
