/-
  QuietEmit.Syntax.StringLiteral

  String literals: what a literal denotes, and how a text is written as one. A
  literal denotes a sequence of UTF-16 units, since escapes can spell halves of
  surrogate pairs.
-/
import QuietEmit.Unicode.Ranges

namespace QuietEmit

/-- The two kinds of quotes. -/
inductive Quote where
  | single
  | double
deriving DecidableEq, Repr

/-- The quote character. -/
def Quote.char : Quote → Char
  | .single => '\''
  | .double => '"'

namespace StringLiteral

/-! ## UTF-16 -/

/-- The UTF-16 units of a character. -/
def unitsOfChar (c : Char) : List Nat :=
  let n := c.toNat
  if n < 0x10000 then [n] else [0xD800 + (n - 0x10000) / 0x400, 0xDC00 + (n - 0x10000) % 0x400]

/-- The UTF-16 units of a text. -/
def units (cs : List Char) : List Nat := cs.flatMap unitsOfChar

/-- Whether the unit is the first half of a pair. -/
def isHigh (n : Nat) : Bool := 0xD800 ≤ n && n ≤ 0xDBFF

/-- Whether the unit is the second half of a pair. -/
def isLow (n : Nat) : Bool := 0xDC00 ≤ n && n ≤ 0xDFFF

/-- The text of a sequence of units, or `none` if a surrogate stands alone. -/
def textOfUnits? : List Nat → Option (List Char)
  | [] => some []
  | [n] => if isHigh n || isLow n then none else some [Char.ofNat n]
  | n :: m :: rest =>
    if isHigh n && isLow m then
      (textOfUnits? rest).map
        (Char.ofNat (0x10000 + (n - 0xD800) * 0x400 + (m - 0xDC00)) :: ·)
    else if isHigh n || isLow n then none
    else (textOfUnits? (m :: rest)).map (Char.ofNat n :: ·)

/-- Four hexadecimal digits. -/
def fourDigits (n : Nat) : List Char :=
  let digit (k : Nat) : Char := (Nat.digitChar (n / Nat.pow 16 k % 16))
  [digit 3, digit 2, digit 1, digit 0]

/-- A text that shows lone surrogates, and the mark itself, as U+FFFD with four digits. -/
def markedText : List Nat → List Char
  | [] => []
  | [n] =>
    if isHigh n || isLow n || n == 0xFFFD then '\uFFFD' :: fourDigits n else [Char.ofNat n]
  | n :: m :: rest =>
    if isHigh n && isLow m then
      Char.ofNat (0x10000 + (n - 0xD800) * 0x400 + (m - 0xDC00)) :: markedText rest
    else if isHigh n || isLow n || n == 0xFFFD then
      ('\uFFFD' :: fourDigits n) ++ markedText (m :: rest)
    else Char.ofNat n :: markedText (m :: rest)

/-! ## Reading -/

/-- The character of a one-letter escape; other characters stand for themselves. -/
def simpleEscape : Char → Char
  | 'b' => '\x08'
  | 't' => '\t'
  | 'n' => '\n'
  | 'v' => '\x0b'
  | 'f' => '\x0c'
  | 'r' => '\r'
  | c => c

/-- Whether the digit is octal. -/
def isOctal (c : Char) : Bool := '0' ≤ c && c ≤ '7'

/-- The value and the rest of an octal escape: up to three digits, below 256. -/
def octalEscape (first : Char) (rest : List Char) : Nat × List Char :=
  let digit (c : Char) : Nat := c.toNat - 48
  match rest with
  | b :: c :: after =>
    if isOctal b && isOctal c && first ≤ '3' then
      (digit first * 64 + digit b * 8 + digit c, after)
    else if isOctal b then (digit first * 8 + digit b, c :: after)
    else (digit first, rest)
  | [b] => if isOctal b then (digit first * 8 + digit b, []) else (digit first, rest)
  | [] => (digit first, [])

/-- The value of a number of hexadecimal digits, and what follows those that are there. -/
def hexDigits : Nat → Nat → List Char → Option Nat × List Char
  | 0, value, rest => (some value, rest)
  | _ + 1, _, [] => (none, [])
  | n + 1, value, c :: rest =>
    match Unicode.hexDigit? c with
    | some d => hexDigits n (value * 16 + d) rest
    | none => (none, c :: rest)

/-- The code point of hexadecimal digits up to a closing brace, unless it is too large. -/
def bracedDigits (value : Nat) : List Char → Option Nat × List Char
  | [] => (none, [])
  | c :: rest =>
    match Unicode.hexDigit? c with
    | some d =>
      if value * 16 + d > 0x10FFFF then (none, rest) else bracedDigits (value * 16 + d) rest
    | none => if c == '\x7d' then (some value, rest) else (none, c :: rest)

/-- The code point of an escape after its `u`. -/
def codePoint : List Char → Option Nat × List Char
  | '\x7b' :: c :: rest =>
    match Unicode.hexDigit? c with
    | some d => bracedDigits d rest
    | none => (none, c :: rest)
  | '\x7b' :: [] => (none, [])
  | rest => hexDigits 4 0 rest

/-- What an escape stands for. -/
structure Escape where
  units : List Nat
  /-- The escape means something. -/
  sound : Bool
  rest : List Char

/-- An escape from its value, if it has one. -/
def Escape.ofValue : Option Nat × List Char → Escape
  | (some n, rest) => ⟨if n < 0x10000 then [n] else unitsOfChar (Char.ofNat n), true, rest⟩
  | (none, rest) => ⟨[], false, rest⟩

/-- The escape after a backslash; none at the end of the text. -/
def escape : List Char → Option Escape
  | [] => none
  | '\r' :: '\n' :: rest => some ⟨[], true, rest⟩
  | '\r' :: rest | '\n' :: rest | '\u2028' :: rest | '\u2029' :: rest => some ⟨[], true, rest⟩
  | 'x' :: rest => some (.ofValue (hexDigits 2 0 rest))
  | 'u' :: rest => some (.ofValue (codePoint rest))
  | c :: rest =>
    if isOctal c then
      let (n, rest) := octalEscape c rest
      some ⟨[n], true, rest⟩
    else some ⟨unitsOfChar (simpleEscape c), true, rest⟩

/-- What a scan of a literal finds. -/
structure Scanned where
  units : List Nat
  /-- How many escapes mean nothing. -/
  badEscapes : Nat
  /-- What follows the closing quote, if there is one. -/
  rest : Option (List Char)
  /-- The text ends after a backslash. -/
  cutEscape : Bool := false
deriving Inhabited

/-- Put units before those that were found. -/
def Scanned.prepend (units : List Nat) (s : Scanned) : Scanned :=
  { s with units := units ++ s.units }

/-- Scan a literal after its opening quote. Each step uses up at least one character, so `fuel` may
be the length of the text. -/
def scanUpTo (quote : Char) : Nat → List Char → Scanned
  | 0, _ => { units := [], badEscapes := 0, rest := none }
  | _ + 1, [] => { units := [], badEscapes := 0, rest := none }
  | fuel + 1, c :: rest =>
    if c = quote then { units := [], badEscapes := 0, rest := some rest }
    else if c = '\n' ∨ c = '\r' then { units := [], badEscapes := 0, rest := none }
    else if c = '\\' then
      match escape rest with
      | none => { units := [], badEscapes := 0, rest := none, cutEscape := true }
      | some e =>
        let others := (scanUpTo quote fuel e.rest).prepend e.units
        if e.sound then others else { others with badEscapes := others.badEscapes + 1 }
    else (scanUpTo quote fuel rest).prepend (unitsOfChar c)

/-- Scan a literal after its opening quote. -/
def scan (quote : Char) (text : List Char) : Scanned := scanUpTo quote text.length text

/-- The units that a whole literal denotes, quotes included in the text. -/
def denoted? : List Char → Option (List Nat)
  | q :: rest =>
    if q = '\'' ∨ q = '"' then
      match scan q rest with
      | ⟨units, 0, some [], _⟩ => some units
      | _ => none
    else none
  | [] => none

/-- The units of a piece of a template. Each step uses up at least one character, so `fuel` may be
the length of the text. -/
def templateUnits : Nat → List Char → List Nat
  | 0, _ | _, [] => []
  | fuel + 1, '\\' :: rest =>
    match escape rest with
    | none => []
    | some e => e.units ++ templateUnits fuel e.rest
  | fuel + 1, '\r' :: '\n' :: rest | fuel + 1, '\r' :: rest => 10 :: templateUnits fuel rest
  | fuel + 1, c :: rest => unitsOfChar c ++ templateUnits fuel rest

/-- The text that a piece of a template denotes. -/
def templateText (raw : String) : String :=
  let units := templateUnits raw.length raw.toList
  String.ofList ((textOfUnits? units).getD (markedText units))

/-! ## Writing -/

/-- A character inside a literal with that quote. -/
def writeChar (quote : Char) (c : Char) : List Char :=
  if c = '\\' then ['\\', '\\']
  else if c = '\n' then ['\\', 'n']
  else if c = '\r' then ['\\', 'r']
  else if c = quote then ['\\', c]
  else [c]

/-- A text as a literal. -/
def write (quote : Quote) (text : List Char) : List Char :=
  quote.char :: text.flatMap (writeChar quote.char) ++ [quote.char]

end StringLiteral

end QuietEmit
