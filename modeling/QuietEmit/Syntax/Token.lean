/-
  QuietEmit.Syntax.Token

  The tokens of a module's text, and the comments between them.
-/
import QuietEmit.Text
import QuietEmit.Syntax.Fault

namespace QuietEmit.Syntax

/-- A token. -/
inductive Token where
  | endOfText
  | punctuator (text : String)
  /-- An identifier or keyword; `escaped` when spelt with an escape. -/
  | name (text : String) (escaped : Bool)
  | privateName (text : String)
  /-- What a string denotes. One with `halves` holds surrogates that stand alone, and marks each. -/
  | string (value : String) (halves : Bool)
  | number (raw : String)
  | bigint (raw : String)
  /-- A piece of a template as written; `last` when the template ends after it, `sound` when all
  its escapes mean something. -/
  | template (raw : String) (last sound : Bool)
  | regex (pattern flags : String)
  | jsxText (raw : String)
  /-- A token that cannot be read; the fault was noted by the scan. -/
  | bad
deriving DecidableEq, Repr, Inhabited

/-- Words that are never names. -/
def reservedWords : List String :=
  ["break", "case", "catch", "class", "const", "continue", "debugger", "default", "delete", "do",
    "else", "enum", "export", "extends", "false", "finally", "for", "function", "if", "import",
    "in", "instanceof", "new", "null", "return", "super", "switch", "this", "throw", "true", "try",
    "typeof", "var", "void", "while", "with"]

/-- Words that mean something in some places and are names in others. -/
def contextualWords : List String :=
  ["abstract", "accessor", "any", "as", "assert", "asserts", "async", "await", "bigint", "boolean",
    "constructor", "declare", "defer", "from", "get", "global", "implements", "infer", "interface",
    "intrinsic", "is", "keyof", "let", "meta", "module", "namespace", "never", "number", "object",
    "of", "out", "override", "package", "private", "protected", "public", "readonly", "require",
    "satisfies", "set", "source", "static", "string", "symbol", "target", "type", "undefined",
    "unique", "unknown", "using", "yield"]

/-- Words that a module reserves beside those that are never names. -/
def moduleReservedWords : List String :=
  ["await", "yield", "implements", "interface", "let", "package", "private", "protected", "public",
    "static"]

/-- Whether a word may be a name. -/
def isNameWord (word : String) : Bool := !reservedWords.contains word

/-- Whether a word is a keyword in some place. -/
def isKeyword (word : String) : Bool :=
  reservedWords.contains word || contextualWords.contains word

/-- How a token is named in a message. -/
def Token.shown : Token → String
  | .endOfText => "EOF"
  | .punctuator text => text
  | .name text _ => if isKeyword text then text else "Identifier"
  | .privateName _ => "#identifier"
  | .string _ _ => "string"
  | .number raw =>
    match raw.toList with
    | '0' :: c :: _ =>
      if c == 'x' || c == 'X' then "hex"
      else if c == 'b' || c == 'B' then "binary"
      else if c == 'o' || c == 'O' || c.isDigit then "octal"
      else decimal raw
    | _ => decimal raw
  | .bigint _ => "decimal"
  | .template _ _ _ => "template"
  | .regex _ _ => "/regexp/"
  | .jsxText _ => "JSXText"
  | .bad => "Unknown"
where
  /-- The name of a decimal number. -/
  decimal (raw : String) : String :=
    if raw.toList.any fun c => c == '.' || c == 'e' || c == 'E' then "float" else "decimal"

/-- A comment with its place among the tokens. -/
structure Comment where
  span : Span
  isBlock : Bool
  /-- The text with its marks. -/
  text : String
  /-- A line end stands between the token before and the comment. -/
  afterNewline : Bool
  /-- A line end follows. -/
  beforeNewline : Bool
  /-- The comment closes the line of the token before it. -/
  isTrailing : Bool
  /-- Where the token after the comment starts. -/
  attachedTo : Nat
deriving Repr, Inhabited

/-- What a comment says of the expression after it. -/
inductive Mark where
  /-- A call has no effects besides its value. -/
  | pureCall
  /-- Calls of a function have no effects besides their values. -/
  | pureFunction
deriving DecidableEq, Repr

/-- The comment for a mark. -/
def Mark.text : Mark → String
  | .pureCall => "/* @__PURE__ */"
  | .pureFunction => "/* @__NO_SIDE_EFFECTS__ */"

/-- The mark that a comment is. -/
def Comment.mark? (c : Comment) : Option Mark :=
  match (c.text.toList.drop 2).dropWhile fun c => " \t\n\x0c\r".toList.contains c with
  | '@' :: rest | '#' :: rest =>
    if "__PURE__".toList.isPrefixOf rest then some .pureCall
    else if "__NO_SIDE_EFFECTS__".toList.isPrefixOf rest then some .pureFunction
    else none
  | _ => none

end QuietEmit.Syntax
