/-
  QuietEmit.Syntax.Lexer

  Splitting text into tokens, one at a time and on demand: whether a slash begins
  a regular expression, and a brace the rest of a template, is known only to the
  reader of the tokens. Scanners answer what they took and what is left.
-/
import QuietEmit.Unicode.Properties
import QuietEmit.Syntax.StringLiteral
import QuietEmit.Syntax.Token

namespace QuietEmit.Syntax.Lexer

/-! ## Characters -/

/-- Line ends. -/
def isLineEnd (c : Char) : Bool :=
  c == '\n' || c == '\r' || c == '\u2028' || c == '\u2029'

/-- Blanks within a line: the space separators, and some more that take no room or end lines
elsewhere. -/
def isBlank (c : Char) : Bool :=
  c == ' ' || c == '\t' || c == '\x0b' || c == '\x0c' || c == '\u0085' || c == '\u00A0' ||
    c == '\u1680' || ('\u2000' ≤ c && c ≤ '\u200B') || c == '\u202F' || c == '\u205F' ||
    c == '\u3000' || c == '\uFEFF'

/-- Characters that begin an identifier. -/
def isNameStart (c : Char) : Bool := c == '$' || c == '_' || Unicode.isIdStart c

/-- Characters within an identifier. -/
def isNamePart (c : Char) : Bool :=
  c == '$' || Unicode.isIdContinue c || c.toNat == 0x200C || c.toNat == 0x200D

/-! ## Blanks and comments -/

/-- What stood between two tokens. -/
structure Trivia where
  comments : List Comment
  newline : Bool
  offset : Nat
  rest : List Char
  unterminated : Bool

/-- Where the scan of blanks stands. -/
inductive TriviaMode where
  | blank
  | line (start : Nat) (text : List Char)
  | block (start : Nat) (text : List Char) (newlineInside : Bool)

/-- A comment that has just ended; whether it trails the token before is settled here
for a line comment and by the line end after it for a block comment. -/
def closeComment (isBlock : Bool) (start stop : Nat) (text : List Char) (newline : Bool) :
    Comment :=
  ⟨⟨start, stop⟩, isBlock, String.ofList text.reverse, newline, !isBlock, !isBlock && !newline, 0⟩

/-- A line end after comments: the last one is followed by it, and those that began on
the line of the token before trail that token. -/
def markNewline (newline : Bool) : List Comment → List Comment
  | [] => []
  | c :: cs =>
    if newline then { c with beforeNewline := true } :: cs
    else { c with beforeNewline := true, isTrailing := true } ::
      cs.map fun d => { d with isTrailing := true }

/-- Whether a comment of markup opens here, or closes on a line of its own. -/
def isMarkupComment (newline : Bool) (cs : List Char) : Bool :=
  "<!--".toList.isPrefixOf cs || (newline && "-->".toList.isPrefixOf cs)

/-- Scan blanks and comments; `comments` is reversed. In a script the rest of a line is a comment
after a mark of markup, too. -/
def scanTrivia (script : Bool) (mode : TriviaMode) (offset : Nat) (newline : Bool) (comments : List Comment) :
    List Char → Trivia
  | [] =>
    match mode with
    | .blank => ⟨comments.reverse, newline, offset, [], false⟩
    | .line start text =>
      ⟨(closeComment false start offset text newline :: comments).reverse, newline, offset, [], false⟩
    | .block _ _ _ => ⟨comments.reverse, newline, offset, [], true⟩
  | c :: rest =>
    let next := offset + c.utf8Size
    match mode with
    | .line start text =>
      if isLineEnd c then
        scanTrivia script .blank next true (closeComment false start offset text newline :: comments) rest
      else scanTrivia script (.line start (c :: text)) next newline comments rest
    | .block start text newlineInside =>
      if c == '/' && text.head? == some '*' && text.length > 2 then
        scanTrivia script .blank next (newline || newlineInside)
          (closeComment true start next (c :: text) newline :: comments) rest
      else scanTrivia script (.block start (c :: text) (newlineInside || isLineEnd c)) next newline comments rest
    | .blank =>
      if isLineEnd c then scanTrivia script .blank next true (markNewline newline comments) rest
      else if isBlank c then scanTrivia script .blank next newline comments rest
      else if (c == '/' && rest.head? == some '/') || (script && isMarkupComment newline (c :: rest))
      then
        scanTrivia script (.line offset [c]) next newline comments rest
      else if c == '/' && rest.head? == some '*' then
        scanTrivia script (.block offset [c] false) next newline comments rest
      else ⟨comments.reverse, newline, offset, c :: rest, false⟩

/-! ## Tokens with faults -/

/-- A token with what follows it, and the faults in it. -/
structure Scanned where
  token : Token
  rest : List Char
  faults : List Fault := []

/-- A token that cannot be read. -/
def Scanned.bad (fault : Fault) (rest : List Char) : Scanned := ⟨.bad, rest, [fault]⟩

/-- The fault of the character that stands where another one has to. -/
def unexpectedHead : List Char → Fault
  | [] => .unexpectedEnd
  | c :: _ => .invalidCharacter c

/-! ## Names -/

/-- The characters of a name, with escapes decoded, the faults in them, and what follows. -/
def scanName : Nat → List Char → Bool → List Char → List Char × Bool × List Fault × List Char
  | 0, seen, escaped, rest => (seen.reverse, escaped, [], rest)
  | _ + 1, seen, escaped, [] => (seen.reverse, escaped, [], [])
  | fuel + 1, seen, escaped, c :: rest =>
    let fits (d : Char) : Bool := if seen.isEmpty && !escaped then isNameStart d else isNamePart d
    if c == '\\' then
      let faulty (after : List Char) : List Char × Bool × List Fault × List Char :=
        let (name, _, faults, rest) := scanName fuel seen true after
        (name, true, .invalidUnicodeEscape :: faults, rest)
      match rest with
      | 'u' :: digits =>
        match StringLiteral.codePoint digits with
        | (some n, after) =>
          if n.isValidChar && fits (Char.ofNat n) then
            scanName fuel (Char.ofNat n :: seen) true after
          else faulty after
        | (none, after) => faulty after
      | _ => faulty rest
    else if fits c then scanName fuel (c :: seen) escaped rest
    else (seen.reverse, escaped, [], c :: rest)

/-! ## Numbers -/

/-- The characters of a number so far, the faults in them, and what follows. -/
structure Digits where
  seen : List Char := []
  faults : List Fault := []
  rest : List Char

namespace Digits

/-- Digits after a first one; a separator stands alone between two of them. After a fault the scan
stops, or the whole number `fails`. -/
def more (isDigit : Char → Bool) : List Char → Digits
  | [] => { rest := [] }
  | '_' :: c :: rest =>
    if isDigit c then
      let d := more isDigit rest
      { d with seen := '_' :: c :: d.seen }
    else ⟨['_'], [.invalidCharacter c], c :: rest⟩
  | ['_'] => ⟨['_'], [.unexpectedEnd], []⟩
  | c :: rest =>
    if isDigit c then
      let d := more isDigit rest
      { d with seen := c :: d.seen }
    else { rest := c :: rest }

/-- At least one digit. -/
def some_ (isDigit : Char → Bool) (cs : List Char) : Digits :=
  match cs with
  | c :: rest =>
    if isDigit c then
      let d := more isDigit rest
      { d with seen := c :: d.seen }
    else ⟨[], [unexpectedHead cs], cs⟩
  | [] => ⟨[], [.unexpectedEnd], []⟩

/-- One part after another. -/
def then_ (a : Digits) (next : List Char → Digits) : Digits :=
  let b := next a.rest
  ⟨a.seen ++ b.seen, a.faults ++ b.faults, b.rest⟩

/-- The exponent of a decimal number, if there is one. -/
def exponent? (cs : List Char) : Digits :=
  match cs with
  | c :: rest =>
    if c == 'e' || c == 'E' then
      let (sign, rest) : List Char × List Char := match rest with
        | '+' :: after => (['+'], after)
        | '-' :: after => (['-'], after)
        | _ => ([], rest)
      let d := some_ Char.isDigit rest
      { d with seen := c :: sign ++ d.seen }
    else { rest := cs }
  | [] => { rest := [] }

/-- The digits after a point, if there are any, and the exponent. -/
def fraction (cs : List Char) : Digits :=
  let digits : Digits := match cs with
    | c :: _ => if c.isDigit then some_ Char.isDigit cs else { rest := cs }
    | [] => { rest := [] }
  digits.then_ exponent?

/-- Whether the digits of an exponent are missing. -/
def isCut (d : Digits) : Bool := !d.faults.isEmpty && d.seen.getLast?.any "eE+-".toList.contains

/-- The number ends here, whatever follows. -/
def close (d : Digits) (token : String → Token) : Scanned :=
  if d.isCut then ⟨.bad, d.rest, d.faults⟩
  else ⟨token (String.ofList d.seen), d.rest, d.faults⟩

/-- The number ends here: no name and no digit may follow directly. -/
def finish (d : Digits) (token : String → Token) : Scanned :=
  match d.isCut, d.rest with
  | false, c :: rest =>
    if isNameStart c || c.isDigit then
      ⟨.bad, rest.dropWhile isNameStart, d.faults ++ [.numberEnd]⟩
    else d.close token
  | _, _ => d.close token

/-- A whole number, which an `n` makes a big integer. -/
def finishWhole (d : Digits) : Scanned :=
  match d.rest with
  | 'n' :: rest => finish { d with seen := d.seen ++ ['n'], rest := rest } .bigint
  | _ => d.finish .number

end Digits

/-- A number in a base given by its letter, after the two characters of its mark. -/
def scanBased (mark : List Char) (isDigit : Char → Bool) (cs : List Char) : Scanned :=
  let d := Digits.some_ isDigit cs
  match d.faults with
  | [] => Digits.finishWhole { d with seen := mark ++ d.seen }
  | faults => ⟨.bad, d.rest, faults⟩

/-- A number with a leading zero before other digits: octal unless one of them is too large, and
only then with a fraction or an exponent. -/
def scanLeadingZero (cs : List Char) : Scanned :=
  let digits := cs.takeWhile Char.isDigit
  let whole : Digits := { seen := digits, rest := cs.drop digits.length }
  if digits.all StringLiteral.isOctal then whole.finish .number
  else
    match whole.rest with
    | '.' :: after =>
      let d := Digits.fraction after
      Digits.finish { d with seen := digits ++ '.' :: d.seen } .number
    | 'e' :: _ => (whole.then_ Digits.exponent?).close .number
    | _ => whole.finish .number

/-- A number that starts with a digit, or with a point before a digit. -/
def scanNumber (cs : List Char) : Scanned :=
  match cs with
  | '0' :: c :: rest =>
    if c == 'x' || c == 'X' then
      scanBased ['0', c] (fun c => (Unicode.hexDigit? c).isSome) rest
    else if c == 'o' || c == 'O' then scanBased ['0', c] StringLiteral.isOctal rest
    else if c == 'b' || c == 'B' then scanBased ['0', c] (fun c => c == '0' || c == '1') rest
    else if c.isDigit then scanLeadingZero cs
    else if c == 'e' || c == 'E' then
      (Digits.then_ { seen := ['0'], rest := c :: rest } Digits.exponent?).close .number
    else if c == '_' then Digits.finish { seen := ['0'], rest := c :: rest } .number
    else decimal
  | _ => decimal
where
  /-- A decimal number. -/
  decimal : Scanned :=
    match cs with
    | '.' :: rest =>
      let d := Digits.fraction rest
      Digits.finish { d with seen := '.' :: d.seen } .number
    | _ =>
      let whole := Digits.some_ Char.isDigit cs
      match whole.rest with
      | '.' :: rest =>
        let d := Digits.fraction rest
        Digits.finish ⟨whole.seen ++ '.' :: d.seen, whole.faults ++ d.faults, d.rest⟩ .number
      | c :: _ =>
        if c == 'e' || c == 'E' then (whole.then_ Digits.exponent?).finish .number
        else whole.finishWhole
      | [] => whole.finishWhole

/-! ## Strings, templates, regular expressions -/

/-- A string after its opening quote. -/
def scanString (fuel : Nat) (quote : Char) (cs : List Char) : Scanned :=
  let s := StringLiteral.scanUpTo quote fuel cs
  let faults := List.replicate s.badEscapes Fault.invalidEscape
  match s.rest with
  | some rest =>
    match StringLiteral.textOfUnits? s.units with
    | some text => ⟨.string (String.ofList text) false, rest, faults⟩
    | none => ⟨.string (String.ofList (StringLiteral.markedText s.units)) true, rest, faults⟩
  | none =>
    let cut := if s.cutEscape then [Fault.unterminatedString] else []
    ⟨.bad, [], faults ++ cut ++ [.unterminatedString]⟩

/-- Whether an escape in a template means something: those of octal digits do not. -/
def isTemplateEscape (cs : List Char) : Bool :=
  match cs with
  | '0' :: c :: _ => !c.isDigit
  | c :: _ =>
    if '1' ≤ c && c ≤ '9' then false else (StringLiteral.escape cs).any (·.sound)
  | [] => false

/-- A piece of a template, up to a substitution or its end; `seen` is reversed. A line end is a
line feed, however it is written. -/
def scanTemplate (sound : Bool) (seen : List Char) : List Char → Scanned
  | [] => .bad .unterminatedString []
  | '`' :: rest => ⟨.template (String.ofList seen.reverse) true sound, rest, []⟩
  | '$' :: '\x7b' :: rest => ⟨.template (String.ofList seen.reverse) false sound, rest, []⟩
  | '\r' :: '\n' :: rest => scanTemplate sound ('\n' :: seen) rest
  | '\r' :: rest => scanTemplate sound ('\n' :: seen) rest
  | '\\' :: '\r' :: '\n' :: rest => scanTemplate sound ('\n' :: '\\' :: seen) rest
  | '\\' :: '\r' :: rest => scanTemplate sound ('\n' :: '\\' :: seen) rest
  | ['\\'] => ⟨.bad, [], [.unterminatedString, .unterminatedString]⟩
  | '\\' :: c :: rest =>
    scanTemplate (sound && isTemplateEscape (c :: rest)) (c :: '\\' :: seen) rest
  | c :: rest => scanTemplate sound (c :: seen) rest

/-- The body of a regular expression after its opening slash; `seen` is reversed. -/
def scanRegexBody (inClass : Bool) (seen : List Char) : List Char → Option (List Char × List Char)
  | [] => none
  | '\\' :: c :: rest =>
    if isLineEnd c then none else scanRegexBody inClass (c :: '\\' :: seen) rest
  | c :: rest =>
    if isLineEnd c then none
    else if c == '[' then scanRegexBody true (c :: seen) rest
    else if c == ']' then scanRegexBody false (c :: seen) rest
    else if c == '/' && !inClass then some (seen.reverse, rest)
    else scanRegexBody inClass (c :: seen) rest

/-- The flags that are unknown or repeated. -/
def flagFaults : List Char → List Char → List Fault
  | _, [] => []
  | seen, c :: rest =>
    if !"dgimsuvy".toList.contains c then .regexFlag c :: flagFaults seen rest
    else if seen.contains c then .regexFlagTwice c :: flagFaults seen rest
    else flagFaults (c :: seen) rest

/-- A regular expression after its opening slash. -/
def scanRegex (cs : List Char) : Scanned :=
  match scanRegexBody false [] cs with
  | none => .bad .unterminatedRegex []
  | some (pattern, rest) =>
    let flags := rest.takeWhile fun c => c.isAlphanum || c == '$' || c == '_'
    let after := rest.drop flags.length
    match flagFaults [] flags with
    | [] => ⟨.regex (String.ofList pattern) (String.ofList flags), after, []⟩
    | faults => ⟨.bad, after, faults⟩

/-! ## Punctuators -/

/-- The punctuators, longer ones first. A closing angle is always a token of its own. -/
def punctuators : List (List Char) :=
  ["...", "===", "!==", "**=", "<<=", "&&=", "||=", "??=", "=>", "==", "!=", "<=", "<<", "**",
    "++", "--", "&&", "||", "??", "?.", "+=", "-=", "*=", "/=", "%=", "&=", "|=", "^=",
    "\x7b", "\x7d", "(", ")", "[", "]", ".", ";", ",", "<", ">", "+", "-", "*", "/", "%", "&",
    "|", "^", "!", "~", "?", ":", "=", "@"].map String.toList

/-- The punctuator at the head of the text. A question mark before `.5` stands alone. -/
def scanPunctuator (cs : List Char) : Option (List Char) :=
  match cs with
  | '?' :: '.' :: c :: _ => if c.isDigit then some ['?'] else some ['?', '.']
  | _ => punctuators.find? (·.isPrefixOf cs)

/-! ## Tokens -/

/-- The token at the head of a text that starts with no blank; `fuel` is at least the length of the
text. -/
def scanToken (fuel : Nat) (cs : List Char) : Scanned :=
  match cs with
  | [] => ⟨.endOfText, [], []⟩
  | c :: rest =>
    if isNameStart c || c == '\\' then
      let (name, escaped, faults, after) := scanName fuel [] false cs
      ⟨.name (String.ofList name) escaped, after, faults⟩
    else if c.isDigit || (c == '.' && rest.head?.any Char.isDigit) then scanNumber cs
    else if c == '"' || c == '\'' then scanString fuel c rest
    else if c == '`' then scanTemplate true [] rest
    else if c == '#' then
      match scanName fuel [] false rest with
      | ([], false, _, _) => .bad (unexpectedHead rest) rest
      | (name, _, faults, after) => ⟨.privateName (String.ofList name), after, faults⟩
    else match scanPunctuator cs with
      | some p => ⟨.punctuator (String.ofList p), cs.drop p.length, []⟩
      | none => .bad (.invalidCharacter c) rest

end QuietEmit.Syntax.Lexer
