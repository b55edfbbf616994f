/-
  QuietEmit.Syntax.Printer.Literals

  Literals as printed: numbers in the shortest spelling, strings in double quotes.
-/
import QuietEmit.Text
import QuietEmit.Decimal
import QuietEmit.Syntax.StringLiteral

namespace QuietEmit.Syntax.Literal

/-! ## Values of numbers -/

/-- The double nearest to a whole number in digits. -/
def wholeNumber (base : Nat) (cs : List Char) : Float :=
  Float.ofNat (cs.foldl (fun n c => n * base + (Unicode.hexDigit? c).getD 0) 0)

/-- The value of a number as written. -/
def numberValue (raw : String) : Float :=
  let cs := raw.toList.filter (· != '_')
  match cs with
  | '0' :: c :: digits =>
    if c == 'x' || c == 'X' then wholeNumber 16 digits
    else if c == 'o' || c == 'O' then wholeNumber 8 digits
    else if c == 'b' || c == 'B' then wholeNumber 2 digits
    else if (c :: digits).all StringLiteral.isOctal then wholeNumber 8 (c :: digits)
    else decimal cs
  | _ => decimal cs
where
  /-- The value of decimal digits with a point and an exponent. -/
  decimal (cs : List Char) : Float :=
    let whole := cs.takeWhile Char.isDigit
    let rest := cs.drop whole.length
    let (fraction, rest) := match rest with
      | '.' :: after =>
        let digits := after.takeWhile Char.isDigit
        (digits, after.drop digits.length)
      | _ => ([], rest)
    let number (ds : List Char) : Nat := ds.foldl (fun n c => n * 10 + (c.toNat - 48)) 0
    let exponent : Int := match rest with
      | _ :: '-' :: ds => -(number ds : Int)
      | _ :: '+' :: ds => number ds
      | _ :: ds => number ds
      | [] => 0
    let shift : Int := exponent - fraction.length
    let mantissa := number (whole ++ fraction)
    Decimal.nearest mantissa shift

/-! ## Spelling numbers -/

/-- A positive finite number in digits: positional from `1e-6` up to `1e21`, else with an
exponent. -/
def plainNumber (x : Float) : String :=
  if x == 0 then "0"
  else
    let d := Decimal.shortestOfBits x.toBits.toNat
    if -6 < d.exponent && d.exponent ≤ 21 then d.positional
    else
      let e := d.exponent - 1
      let mantissa := match d.digits with
        | [a] => Decimal.digitText [a]
        | a :: rest => Decimal.digitText [a] ++ "." ++ Decimal.digitText rest
        | [] => "0"
      mantissa ++ "e" ++ (if e < 0 then "-" else "+") ++ toString e.natAbs

/-- The shorter of two texts, the first if they are equally long. -/
def shorter (a b : List Char) : List Char := if b.length < a.length then b else a

/-- Small hexadecimal digits. -/
def hexText (n : Nat) : List Char := '0' :: 'x' :: Nat.toDigits 16 n

/-- Write `.00ddd` with an exponent. -/
def withExponent (text : List Char) : List Char :=
  match text with
  | '.' :: '0' :: rest =>
    let zeros := (rest.takeWhile (· == '0')).length + 1
    let digits := rest.dropWhile (· == '0')
    if digits.isEmpty then text
    else digits ++ ['e', '-'] ++ (toString (digits.length + zeros)).toList
  | _ => text

/-- Write zeros at the end as an exponent. -/
def withoutZeros (text : List Char) : List Char :=
  let zeros := (text.reverse.takeWhile (· == '0')).length
  if zeros == 0 then text else text.take (text.length - zeros) ++ ['e'] ++ (toString zeros).toList

/-- Write `a.bee` as `abee`, with the exponent lowered. -/
def withoutPoint (text : List Char) : List Char :=
  match Text.splitOnce? ['.'] text with
  | some (whole, rest) =>
    match Text.splitOnce? ['e'] rest with
    | some (fraction, exponent) =>
      let value : Int := match exponent with
        | '-' :: ds => -(ds.foldl (fun n c => n * 10 + (c.toNat - 48)) 0 : Nat)
        | ds => (ds.foldl (fun n c => n * 10 + (c.toNat - 48)) 0 : Nat)
      whole ++ fraction ++ ['e'] ++ (toString (value - fraction.length)).toList
    | none => text
  | none => text

/-- Whether a number as written is too large for a double. -/
def isInfinite (raw : String) : Bool := (numberValue raw).isInf

/-- The shortest spelling of a number that is not negative. -/
def numberText (x : Float) : String :=
  if x.isInf then "Infinity"
  else if x < 1000 && x.floor == x then plainNumber x
  else
    let text := (plainNumber x).toList
    let text := match text with
      | '0' :: '.' :: rest => '.' :: rest
      | _ => text
    let text := text.filter (· != '+')
    if x.floor == x then
      let hex := hexText (Decimal.Binary.ofBits x.toBits.toNat).whole
      if hex.length < text.length then String.ofList hex
      else String.ofList (shorter (shorter text (withoutZeros text)) (withoutPoint text))
    else
      let text := shorter text (withExponent text)
      let text := shorter text (withoutZeros text)
      String.ofList (shorter text (withoutPoint text))

/-- A big integer in decimal digits. -/
def bigintText (raw : String) : String :=
  let based (base : Nat) (digits : List Char) : String :=
    toString (digits.foldl (fun n c => n * base + (Unicode.hexDigit? c).getD 0) 0) ++ "n"
  match (raw.toList.filter (· != '_')).dropLast with
  | '0' :: c :: digits =>
    if c == 'x' || c == 'X' then based 16 digits
    else if c == 'o' || c == 'O' then based 8 digits
    else if c == 'b' || c == 'B' then based 2 digits
    else based 10 (c :: digits)
  | digits => based 10 digits

/-! ## Strings -/

/-- A character in a string, before the next one. -/
def stringChar (quote : Char) (c : Char) (next : Option Char) : String :=
  match c with
  | '\x00' => if next.any Char.isDigit then "\\x00" else "\\0"
  | '\x07' => "\\x07"
  | '\x08' => "\\b"
  | '\x0b' => "\\v"
  | '\x0c' => "\\f"
  | '\n' => "\\n"
  | '\r' => "\\r"
  | '\x1b' => "\\x1B"
  | '\\' => "\\\\"
  | '\u00A0' => "\\xA0"
  | '\u2028' => "\\u2028"
  | '\u2029' => "\\u2029"
  | c => if c == quote then "\\" ++ String.singleton c else String.singleton c

/-- The characters of a string between its quotes. -/
def stringBody (quote : Char) : List Char → List String
  | [] => []
  | c :: rest => stringChar quote c rest.head? :: stringBody quote rest

/-- The characters of a string whose halves of pairs are marked: each is written as an escape. -/
def markedBody (quote : Char) : List Char → List String
  | [] => []
  | '\uFFFD' :: a :: b :: c :: d :: rest =>
    let digits := String.ofList [a, b, c, d]
    (if digits == "fffd" then "\uFFFD" else "\\u" ++ digits) :: markedBody quote rest
  | c :: rest => stringChar quote c rest.head? :: markedBody quote rest

/-- Keep closing tags for scripts, in any case of letters, out of a text. -/
def guardScript (s : String) : String :=
  let rec guarded : List Char → List Char
    | [] => []
    | '<' :: '/' :: rest =>
      if (rest.take 6).map Char.toLower == "script".toList then '<' :: '\\' :: '/' :: guarded rest
      else '<' :: '/' :: guarded rest
    | c :: rest => c :: guarded rest
  String.ofList (guarded s.toList)

/-- A string in double quotes. -/
def stringText (value : String) (halves : Bool) : String :=
  let body := if halves then markedBody '"' value.toList else stringBody '"' value.toList
  "\"" ++ guardScript (String.join body) ++ "\""

/-- A directive keeps its text; its quotes are chosen so that nothing has to be escaped. -/
def directiveText (raw : String) : String :=
  let rec quoteFor : List Char → String
    | [] => "\""
    | '\\' :: _ :: rest => quoteFor rest
    | '"' :: _ => "'"
    | '\'' :: _ => "\""
    | _ :: rest => quoteFor rest
  let q := quoteFor raw.toList
  q ++ raw ++ q

end QuietEmit.Syntax.Literal
