/-
  QuietEmit.Settings.Environment

  Settings from environment variables. After the common beginning of their names,
  two underscores separate the keys of nested tables. A value is read as a truth
  value, a number, a quoted text, a list or a table where it has that form as a
  whole; any other value is a text.
-/
import QuietEmit.Decimal
import QuietEmit.Settings.Layer
import QuietEmit.Unicode.Properties

namespace QuietEmit.Environment

/-! ## Values -/

/-- Characters that end a bare value. -/
def isSeparator (c : Char) : Bool := [',', '\x7b', '\x7d', '[', ']'].contains c

/-- Blanks around values. -/
def isBlank (c : Char) : Bool := [' ', '\t', '\n', '\r', '\x0c'].contains c

/-- Characters of bare keys. -/
def isKeyChar (c : Char) : Bool := c.isAlphanum || c == '_' || c == '-'

/-- A natural number with so many hexadecimal digits. -/
def hexDigits? (count : Nat) (cs : List Char) : Option (Char × List Char) := do
  let digits := cs.take count
  guard (digits.length == count)
  let values ← digits.mapM Unicode.hexDigit?
  let n := values.foldl (fun n d => n * 16 + d) 0
  guard n.isValidChar
  return (Char.ofNat n, cs.drop count)

/-- The rest of a quoted text, and what follows its closing quote; `fuel` bounds its length. -/
def quotedRest? : Nat → List Char → Option (List Char × List Char)
  | 0, _ => none
  | _ + 1, [] => none
  | _ + 1, '"' :: rest => some ([], rest)
  | fuel + 1, '\\' :: c :: rest => do
    let (d, rest) ← match c with
      | '"' => some ('"', rest)
      | '\\' => some ('\\', rest)
      | 'b' => some ('\x08', rest)
      | 'f' => some ('\x0c', rest)
      | 'n' => some ('\n', rest)
      | 'r' => some ('\r', rest)
      | 't' => some ('\t', rest)
      | 'u' => hexDigits? 4 rest
      | 'U' => hexDigits? 8 rest
      | _ => none
    let (cs, rest) ← quotedRest? fuel rest
    return (d :: cs, rest)
  | fuel + 1, c :: rest => do
    guard (c == '\t' || (c.toNat ≥ 0x20 && c.toNat != 0x7F))
    let (cs, rest) ← quotedRest? fuel rest
    return (c :: cs, rest)

/-- The characters that fit into so many bytes. -/
def takeBytes : Nat → List Char → List Char
  | _, [] => []
  | count, c :: rest =>
    if c.utf8Size ≤ count then c :: takeBytes (count - c.utf8Size) rest else []

/-- A text in quotes. Of what stands before its first escape, as many bytes are kept as there are
characters. -/
def quoted? : List Char → Option (String × List Char)
  | '"' :: rest => do
    let (cs, after) ← quotedRest? (rest.length + 1) rest
    let plain := rest.takeWhile fun c => c != '"' && c != '\\'
    match rest.drop plain.length with
    | '\\' :: _ =>
      return (String.ofList (takeBytes plain.length plain ++ cs.drop plain.length), after)
    | _ => return (String.ofList cs, after)
  | _ => none

/-- Decimal digits, at least one. -/
def digits? (cs : List Char) : Option Nat := do
  guard (!cs.isEmpty && cs.all Char.isDigit)
  return cs.foldl (fun n c => n * 10 + (c.toNat - 48)) 0

/-- A sign and the rest. -/
def splitSign : List Char → Bool × List Char
  | '-' :: rest => (true, rest)
  | '+' :: rest => (false, rest)
  | cs => (false, cs)

/-- A number with a point. -/
def float? (cs : List Char) : Option Float := do
  let (negative, cs) := splitSign cs
  let isMark (c : Char) : Bool := c == 'e' || c == 'E'
  let mantissa := cs.takeWhile (!isMark ·)
  let exponent : Int ← match cs.dropWhile (!isMark ·) with
    | [] => some 0
    | _ :: e =>
      let (down, e) := splitSign e
      (digits? e).map fun n => if down then -(n : Int) else n
  let whole := mantissa.takeWhile (· != '.')
  let fraction ← match mantissa.dropWhile (· != '.') with
    | '.' :: fraction => some fraction
    | _ => none
  let n ← digits? (whole ++ fraction)
  let power : Int := exponent - fraction.length
  let x := Decimal.nearest n power
  return if negative then -x else x

/-- A whole number of 64 bits. -/
def integer? (cs : List Char) : Option Plain :=
  let (negative, ds) := splitSign cs
  match digits? ds with
  | none => none
  | some n =>
    if negative then if n ≤ Nat.pow 2 63 then some (.signed (-(n : Int))) else none
    else if n < UInt64.size then some (.unsigned n) else none

/-- A bare value. -/
def bare (cs : List Char) : Plain :=
  let float : Option Plain := if cs.contains '.' then (float? cs).map .float else none
  ((float.or (integer? cs)).getD (.text (String.ofList cs)))

/-- A key of a table, with the sign after it. -/
def key? (cs : List Char) : Option (String × List Char) := do
  let cs := cs.dropWhile isBlank
  let (key, rest) ← match cs with
    | '"' :: _ => quoted? cs
    | _ =>
      let key := cs.takeWhile isKeyChar
      if key.isEmpty then none else some (String.ofList key, cs.drop key.length)
  match rest.dropWhile isBlank with
  | '=' :: rest => some (key, rest)
  | _ => none

mutual

/-- A value and what follows it; `fuel` bounds how much there is to read. -/
def value? : Nat → List Char → Option (Setting × List Char)
  | 0, _ => none
  | fuel + 1, cs => do
    let cs := cs.dropWhile isBlank
    let plain (p : Plain) (rest : List Char) : Option (Setting × List Char) :=
      some (.plain .environment p, rest)
    let (v, rest) ← match cs with
      | 't' :: 'r' :: 'u' :: 'e' :: rest => plain (.boolean true) rest
      | 'f' :: 'a' :: 'l' :: 's' :: 'e' :: rest => plain (.boolean false) rest
      | '\x7b' :: rest => do
        let (entries, rest) ← entries? fuel rest
        some (Setting.ofEntries .environment entries, rest)
      | '[' :: rest => do
        let (items, rest) ← items? fuel rest
        some (.list .environment items, rest)
      | '"' :: _ => do
        let (s, rest) ← quoted? cs
        plain (.text s) rest
      | '\'' :: c :: '\'' :: rest => plain (.text (String.singleton c)) rest
      | '\'' :: _ => none
      | _ =>
        let word := cs.takeWhile (!isSeparator ·)
        plain (bare (Text.trimWhere Unicode.isBlank word)) (cs.drop word.length)
    return (v, rest.dropWhile isBlank)

/-- The items of a list up to its end. -/
def items? : Nat → List Char → Option (List Setting × List Char)
  | 0, _ => none
  | _ + 1, ']' :: rest => some ([], rest)
  | fuel + 1, cs => do
    let (v, rest) ← value? fuel cs
    match rest with
    | ',' :: rest =>
      let (items, rest) ← items? fuel rest
      return (v :: items, rest)
    | ']' :: rest => return ([v], rest)
    | _ => none

/-- The entries of a table up to its end. -/
def entries? : Nat → List Char → Option (List (String × Setting) × List Char)
  | 0, _ => none
  | _ + 1, '\x7d' :: rest => some ([], rest)
  | fuel + 1, cs => do
    let (key, rest) ← key? cs
    let (v, rest) ← value? fuel rest
    match rest with
    | ',' :: rest =>
      let (entries, rest) ← entries? fuel rest
      return ((key, v) :: entries, rest)
    | '\x7d' :: rest => return ([(key, v)], rest)
    | _ => none

end

/-- The setting that the value of a variable stands for. -/
def setting (text : String) : Setting :=
  let cs := Text.trimWhere Unicode.isBlank text.toList
  match value? (cs.length + 1) cs with
  | some (v, []) => v
  | _ => .plain .environment (.text (String.ofList cs))

/-! ## Variables -/

/-- The beginning of the names of variables, in lower case. -/
def namespaceOfNames : String := "hush_"

/-- The keys that a variable's name stands for, if it is one of ours: none of them is empty, and
blanks around the name and around what follows the beginning do not count. -/
def keys? (name : String) : Option (List String) := do
  let cs := (Text.trimWhere Unicode.isBlank name.toList).map Char.toLower
  let start := namespaceOfNames.toList
  guard (start.isPrefixOf cs)
  let dotted := Text.replaceAll ['_', '_'] ['.'] (cs.drop start.length)
  let keys := ((Text.trimWhere Unicode.isBlank dotted).splitOn '.').map String.ofList
  guard (keys.all fun key => !key.isEmpty)
  return keys

/-- The layer of the variables; of two with the same keys the later counts. -/
def layer (environment : List (String × String)) : Setting :=
  environment.foldl (fun layer (name, text) =>
    match (keys? name).map fun keys => Setting.nest .environment keys (setting text) with
    | some (.table o entries) => Setting.laidOn (.table o entries) layer
    | _ => layer) (.table .environment [])

end QuietEmit.Environment
