/-
  QuietEmit.Toml.Reader

  Readers for the parts of a configuration. A reader that fails may leave the
  place to another one, or may have seen enough to settle the matter. Why a text is
  no configuration is told by the place, what was being read, and what could have
  stood there, shown below the line in question.
-/
import QuietEmit.Text
import QuietEmit.Unicode.Properties

namespace QuietEmit.Toml

/-- A fault in a text, at a byte offset. -/
structure Fault where
  place : Nat
  /-- What was being read. -/
  subject : Option String := none
  /-- What could have stood there. -/
  expected : List String := []
  /-- What is wrong besides. -/
  cause : Option String := none
deriving DecidableEq, Repr, Inhabited

namespace Fault

/-- The message, without the place. -/
def reason (f : Fault) : String :=
  "\n".intercalate
    ((f.subject.map ("invalid " ++ ·)).toList ++
      (if f.expected.isEmpty then [] else ["expected " ++ ", ".intercalate f.expected]) ++
      f.cause.toList)

/-- The characters before a byte offset, and those from it on. -/
def splitAt (place : Nat) (text : List Char) : List Char × List Char :=
  (Text.splitBytes? place text).getD (text, [])

/-- The whole message: the place, the line with a mark below the character, and the reason. A
place after a final newline is shown after the end of the line before. -/
def message (f : Fault) (text : String) : String :=
  let cs := text.toList
  let (before, _) := splitAt f.place cs
  -- A place past the end is counted from the last character.
  let (before, past) : List Char × Nat :=
    if f.place ≥ Text.utf8Length cs && !cs.isEmpty then (before.dropLast, 1) else (before, 0)
  let lineNumber := before.count '\n' + 1
  let column := (before.reverse.takeWhile (· != '\n')).length + past
  let line := (Text.lines cs).getD (lineNumber - 1) []
  let number := toString lineNumber
  let gutter := String.ofList (List.replicate (number.length + 1) ' ') ++ "|"
  "TOML parse error at line " ++ number ++ ", column " ++ toString (column + 1) ++ "\n" ++
    gutter ++ "\n" ++
    number ++ " | " ++ String.ofList line ++ "\n" ++
    gutter ++ String.ofList (List.replicate (column + 1) ' ') ++ "^\n" ++
    f.reason ++ "\n"

end Fault

/-- What is left of the text, from a byte offset on. -/
structure Input where
  rest : List Char
  place : Nat
deriving Inhabited

/-- A failure: others may be tried, or not. -/
structure Failure where
  isFinal : Bool
  fault : Fault
deriving Inhabited

/-- A reader of part of the text. -/
abbrev Reader := StateT Input (Except Failure)

namespace Reader

/-- Fail at the present place. -/
def fail {α : Type} : Reader α := do throw ⟨false, { place := (← get).place }⟩

/-- Fail for a reason. -/
def refuse {α : Type} (place : Nat) (cause : String) : Reader α :=
  throw ⟨true, { place, cause := some cause }⟩

/-- A failure of the reader settles the matter. -/
def settled {α : Type} (p : Reader α) : Reader α :=
  tryCatch p fun e => throw { e with isFinal := true }

/-- Name what is being read, in failures that name nothing. -/
def naming {α : Type} (subject : String) (p : Reader α) : Reader α :=
  tryCatch p fun e =>
    throw { e with fault := { e.fault with subject := e.fault.subject.or (some subject) } }

/-- Say in failures what could have stood there. -/
def expecting {α : Type} (what : List String) (p : Reader α) : Reader α :=
  tryCatch p fun e =>
    throw { e with fault := { e.fault with expected := e.fault.expected ++ what } }

/-- Another reader where the first fails and leaves the place. -/
def orElse {α : Type} (p q : Reader α) : Reader α :=
  tryCatch p fun e => if e.isFinal then throw e else q

/-- A reader that may read nothing. -/
def optional {α : Type} (p : Reader α) : Reader (Option α) :=
  orElse (some <$> p) (pure none)

/-- The next character. -/
def peek : Reader (Option Char) := return (← get).rest.head?

/-- Take a character that satisfies a condition. -/
def one (p : Char → Bool) : Reader Char := do
  match ← get with
  | ⟨c :: rest, place⟩ =>
    if p c then
      set (Input.mk rest (place + c.utf8Size))
      return c
    else fail
  | _ => fail

/-- Take the characters that satisfy a condition. -/
def takeWhile (p : Char → Bool) : Reader (List Char) := do
  let s ← get
  let taken := s.rest.takeWhile p
  set (Input.mk (s.rest.drop taken.length) (s.place + Text.utf8Length taken))
  return taken

/-- Take a text. -/
def text (s : String) : Reader Unit := do
  let i ← get
  if s.toList.isPrefixOf i.rest then
    set (Input.mk (i.rest.drop s.length) (i.place + s.utf8ByteSize))
  else fail

/-- Repeat a reader until it fails; `fuel` bounds how often. -/
def many {α : Type} (p : Reader α) : Nat → Reader (List α)
  | 0 => return []
  | fuel + 1 => do
    match ← optional p with
    | some a => return a :: (← many p fuel)
    | none => return []

/-- Things with separators between them; a separator with nothing after it is left. -/
def separated {α : Type} (p : Reader α) (separator : Reader Unit) (fuel : Nat) : Reader (List α) := do
  let first ← p
  return first :: (← many (do
    separator
    p) fuel)

/-- How much text is left; no loop is longer. -/
def left : Reader Nat := return (← get).rest.length + 1

/-! ## Blanks and line ends -/

/-- Blanks within a line. -/
def blanks : Reader Unit := discard (takeWhile fun c => c == ' ' || c == '\t')

/-- A line end. -/
def newline : Reader Unit :=
  orElse (discard (one (· == '\n'))) do
    discard (one (· == '\r'))
    discard (one (· == '\n'))

/-- Characters of comments. -/
def isCommentChar (c : Char) : Bool := c == '\t' || (c.toNat ≥ 0x20 && c.toNat != 0x7F)

/-- A comment up to the end of the line. -/
def comment : Reader Unit := do
  discard (one (· == '#'))
  discard (takeWhile isCommentChar)

/-- The end of the text. -/
def ending : Reader Unit := do
  if (← get).rest.isEmpty then return () else fail

/-- The end of a line, or of the text. -/
def lineEnd : Reader Unit := orElse newline ending

/-- What may follow an entry on its line. -/
def lineRest : Reader Unit :=
  expecting ["newline", "\x60#\x60"] do
    blanks
    discard (optional comment)
    lineEnd

/-- Blanks, comments and line ends between the values of an array. -/
def blankLines : Reader Unit := do
  discard (many (orElse (discard (one fun c => c == ' ' || c == '\t')) (orElse newline (do
    comment
    newline))) (← left))

/-! ## Strings -/

/-- Characters that stand for themselves in a string. -/
def isPlain (c : Char) : Bool :=
  c == '\t' || (c.toNat ≥ 0x20 && c.toNat != 0x7F && c != '"' && c != '\\')

/-- Characters of a string without escapes. -/
def isLiteral (c : Char) : Bool :=
  c == '\t' || (c.toNat ≥ 0x20 && c.toNat != 0x7F && c != '\'')

/-- A character given by hexadecimal digits. -/
def codePoint (count : Nat) : Reader Char := do
  let start := (← get).place
  let digits := (← get).rest.takeWhile (fun c => (Unicode.hexDigit? c).isSome) |>.take count
  if digits.length < count then fail
  let n := digits.foldl (fun n c => n * 16 + (Unicode.hexDigit? c).getD 0) 0
  if n.isValidChar then
    discard (text (String.ofList digits))
    return Char.ofNat n
  else refuse start "value is out of range"

/-- An escape in a string. -/
def escape : Reader Char := do
  discard (one (· == '\\'))
  let c ← one fun _ => true
  match c with
  | 'b' => return '\x08'
  | 'f' => return '\x0c'
  | 'n' => return '\n'
  | 'r' => return '\r'
  | 't' => return '\t'
  | '\\' => return '\\'
  | '"' => return '"'
  | 'u' => naming "unicode 4-digit hex code" (settled (codePoint 4))
  | 'U' => naming "unicode 8-digit hex code" (settled (codePoint 8))
  | _ =>
    naming "escape sequence" (expecting
      (["b", "f", "n", "r", "t", "u", "U", "\\", "\""].map fun s => "\x60" ++ s ++ "\x60")
      (settled fail))

/-- A string in double quotes. -/
def basicString : Reader String := do
  discard (one (· == '"'))
  let cs ← many (orElse (one isPlain) escape) (← left)
  naming "basic string" (settled (discard (one (· == '"'))))
  return String.ofList cs

/-- A string in single quotes. -/
def literalString : Reader String := do
  discard (one (· == '\''))
  naming "literal string" (settled do
    let cs ← takeWhile isLiteral
    discard (one (· == '\''))
    return String.ofList cs)

/-- Up to two quotes that close no string over several lines. -/
def innerQuotes (quote : Char) : Reader (List Char) := do
  let s ← get
  let run := s.rest.takeWhile (· == quote)
  if run.length == 1 || run.length == 2 then
    set (Input.mk (s.rest.drop run.length) (s.place + run.length))
    return run
  else fail

/-- A backslash at the end of a line, which leaves out the blanks after it. -/
def continuation : Reader (List Char) := do
  discard (one (· == '\\'))
  blanks
  newline
  discard (takeWhile fun c => c == ' ' || c == '\t' || c == '\n' || c == '\r')
  return []

/-- A closing run of three to five quotes; those before the last three belong to the string. -/
def closingQuotes (quote : Char) : Reader (List Char) := do
  let s ← get
  let run := (s.rest.takeWhile (· == quote)).take 5
  if run.length < 3 then fail
  set (Input.mk (s.rest.drop run.length) (s.place + run.length))
  return run.drop 3

/-- A string over several lines, in three quotes. -/
def longString (quote : Char) (subject : String) (piece : Reader (List Char)) : Reader String := do
  text (String.ofList [quote, quote, quote])
  discard (optional newline)
  naming subject (settled do
    let pieces ← many (orElse piece (innerQuotes quote)) (← left)
    let rest ← closingQuotes quote
    return String.ofList (pieces.flatten ++ rest))

/-- The newline inside a string over several lines. -/
def innerNewline : Reader (List Char) := do
  newline
  return ['\n']

/-- A string of any kind. -/
def string : Reader String :=
  orElse (longString '"' "multiline basic string"
    (orElse ((fun c => [c]) <$> one isPlain)
      (orElse innerNewline (orElse continuation ((fun c => [c]) <$> escape)))))
  (orElse basicString
    (orElse (longString '\'' "multiline literal string"
      (orElse ((fun c => [c]) <$> one isLiteral) innerNewline))
    literalString))

/-! ## Keys -/

/-- Characters of keys without quotes. -/
def isKeyChar (c : Char) : Bool := c.isAlphanum || c == '-' || c == '_'

/-- A key without dots. -/
def simpleKey : Reader String := do
  match ← peek with
  | some '"' => basicString
  | some '\'' => literalString
  | _ =>
    let cs ← takeWhile isKeyChar
    if cs.isEmpty then fail
    return String.ofList cs

/-- How deep values may be nested, and how many parts a key may have, at most. -/
def depthLimit : Nat := 79

/-- What is said of values nested too deep, and of keys with too many parts. -/
def tooDeep : String := "recursion limit exceeded"

/-- A key with dots. -/
def key : Reader (List String) := do
  let fuel ← left
  let start := (← get).place
  let parts ← naming "key" (separated (do
    blanks
    let k ← simpleKey
    blanks
    return k) (discard (one (· == '.'))) fuel)
  if parts.length > depthLimit then throw ⟨false, { place := start, cause := some tooDeep }⟩
  return parts

end Reader

end QuietEmit.Toml
