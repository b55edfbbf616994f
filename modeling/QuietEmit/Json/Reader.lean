/-
  QuietEmit.Json.Reader

  Reading typed values from a JSON text, one pass from left to right. Readers
  keep the cursor when they fail, because a fault without a place is reported
  where the value around it stopped.
-/
import QuietEmit.Unicode.Ranges
import QuietEmit.Decimal
import QuietEmit.Json.Error

namespace QuietEmit.Json

/-- What is left to read, after `index` bytes. -/
structure Cursor where
  rest : List Char
  index : Nat
deriving Repr

/-- Readers of a value. -/
abbrev Reader := EStateM Fault Cursor

namespace Reader

/-! ## Moving -/

/-- The next character. -/
def peek : Reader (Option Char) := return (← get).rest.head?

/-- Step over the next character. -/
def eat : Reader Unit := modify fun s =>
  match s.rest with
  | [] => s
  | c :: rest => ⟨rest, s.index + c.utf8Size⟩

/-- Take the next character. -/
def next : Reader (Option Char) := do
  let c ← peek
  eat
  return c

/-- Fail where the cursor stands. -/
def failHere {α : Type} (cause : Cause) : Reader α := do throw ⟨cause, some (← get).index⟩

/-- Fail at the next byte. -/
def failAhead {α : Type} (cause : Cause) : Reader α := do throw ⟨cause, some ((← get).index + 1)⟩

/-- Fail without a place. -/
def failLater {α : Type} (cause : Cause) : Reader α := throw ⟨cause, none⟩

/-- Run a reader; a fault without a place gets the cursor's. -/
def placed {α : Type} (r : Reader α) : Reader α := fun s =>
  match r s with
  | .ok a s' => .ok a s'
  | .error f s' => .error { f with index := f.index.or (some s'.index) } s'

/-- Run a reader and then another for its effect, also after a fault; the first fault counts. -/
def followedBy {α : Type} (r : Reader α) (close : Reader Unit) : Reader α := fun s =>
  match r s with
  | .ok a s' =>
    match close s' with
    | .ok _ s'' => .ok a s''
    | .error f s'' => .error f s''
  | .error f s' =>
    match close s' with
    | .ok _ s'' => .error f s''
    | .error _ s'' => .error f s''

/-- JSON white space. -/
def isSpace (c : Char) : Bool := c == ' ' || c == '\n' || c == '\t' || c == '\r'

/-- Step over white space and look at what follows. -/
def peekToken : Reader (Option Char) := do
  modify fun s =>
    let blank := s.rest.takeWhile isSpace
    ⟨s.rest.drop blank.length, s.index + blank.length⟩
  peek

/-! ## Words and strings -/

/-- The rest of a word such as `null`. -/
def word : List Char → Reader Unit
  | [] => return ()
  | c :: cs => do
    match ← next with
    | none => failHere .endInValue
    | some d => if c == d then word cs else failHere .expectedIdentifier

/-- Four hexadecimal digits. -/
def hexEscape : Reader Nat := do
  let s ← get
  if Text.utf8Length s.rest < 4 then
    throw ⟨.endInString, some (s.index + Text.utf8Length s.rest)⟩
  let digits := s.rest.take 4
  if digits.all fun c => (Unicode.hexDigit? c).isSome then
    set (⟨s.rest.drop 4, s.index + 4⟩ : Cursor)
    return Unicode.hexValue digits
  else throw ⟨.invalidEscape, some (s.index + 4)⟩

/-- The character after the letter `u` of an escape; surrogates come in pairs. -/
def unicodeEscape : Reader Char := do
  let n ← hexEscape
  if 0xDC00 ≤ n && n ≤ 0xDFFF then failHere .loneSurrogate
  if n < 0xD800 || 0xDBFF < n then return Char.ofNat n
  let expect (wanted : Char) : Reader Unit := do
    match ← peek with
    | none => failHere .endInString
    | some c =>
      eat
      if c != wanted then failHere .endOfHexEscape
  expect '\\'
  expect 'u'
  let m ← hexEscape
  if m < 0xDC00 || 0xDFFF < m then failHere .loneSurrogate
  return Char.ofNat ((n - 0xD800) * 1024 + (m - 0xDC00) + 0x10000)

/-- The character of a one-letter escape. -/
def plainEscape? : Char → Option Char
  | '"' => some '"'
  | '\\' => some '\\'
  | '/' => some '/'
  | 'b' => some '\x08'
  | 'f' => some '\x0c'
  | 'n' => some '\n'
  | 'r' => some '\r'
  | 't' => some '\t'
  | _ => none

/-- What follows a backslash. -/
def escape : Reader Char := do
  match ← next with
  | none => failHere .endInString
  | some 'u' => unicodeEscape
  | some c =>
    match plainEscape? c with
    | some d => return d
    | none => failHere .invalidEscape

/-- The characters of a string after its opening quote. -/
def stringBody : Nat → List Char → Reader (List Char)
  | 0, _ => failHere .endInString
  | fuel + 1, seen => do
    match ← peek with
    | none => failHere .endInString
    | some '"' =>
      eat
      return seen.reverse
    | some '\\' =>
      eat
      let c ← escape
      stringBody fuel (c :: seen)
    | some c =>
      eat
      if c.toNat < 32 then failHere .controlCharacter
      stringBody fuel (c :: seen)

/-- A string whose opening quote comes next. -/
def stringToken : Reader String := do
  eat
  return String.ofList (← stringBody ((← get).rest.length + 1) [])

/-- Step over the rest of a string whose contents do not matter; surrogates need no partner. -/
def skipString : Nat → Reader Unit
  | 0 => failHere .endInString
  | fuel + 1 => do
    match ← peek with
    | none => failHere .endInString
    | some '"' => eat
    | some '\\' =>
      eat
      match ← next with
      | none => failHere .endInString
      | some 'u' => discard hexEscape
      | some c => if (plainEscape? c).isNone then failHere .invalidEscape
      skipString fuel
    | some c =>
      if c.toNat < 32 then failHere .controlCharacter
      eat
      skipString fuel

/-! ## Numbers -/

/-- A number as read. -/
inductive Number where
  | integer (n : Int)
  | float (x : Float)

/-- The number as something found. -/
def Number.found : Number → Found
  | .integer n => .integer n
  | .float x => .float (Decimal.withPoint x)

/-- The value of a digit. -/
def digitValue (c : Char) : Nat := c.toNat - 48

/-- Digits at the cursor. -/
def digits : Reader (List Char) := modifyGet fun s =>
  let run := s.rest.takeWhile Char.isDigit
  (run, ⟨s.rest.drop run.length, s.index + run.length⟩)

/-- The digits of an integer: a zero stands alone. -/
def integerDigits : Reader (List Char) := do
  match ← next with
  | none => failHere .endInValue
  | some '0' =>
    match ← peek with
    | some c => if c.isDigit then failAhead .invalidNumber else return ['0']
    | none => return ['0']
  | some c => if c.isDigit then return c :: (← digits) else failHere .invalidNumber

/-- The digits after a decimal point. -/
def fractionDigits : Reader (List Char) := do
  if (← peek) == some '.' then
    eat
    let ds ← digits
    if ds.isEmpty then
      match ← peek with
      | some _ => failAhead .invalidNumber
      | none => failAhead .endInValue
    return ds
  else return []

/-- The digits that fit into 64 bits after `n`, and how many were left out. -/
def significand (n : Nat) (ds : List Char) : Nat × Nat :=
  ds.foldl (fun (n, dropped) c =>
    let m := n * 10 + digitValue c
    if dropped == 0 && m < UInt64.size then (m, 0) else (n, dropped + 1)) (n, 0)

/-- The largest exponent. -/
def exponentLimit : Nat := 2147483647

/-- How many of the digits make a number above the limit for exponents, if all of them do. -/
def excess? : Nat → List Char → Option Nat
  | _, [] => none
  | n, c :: rest =>
    let m := n * 10 + digitValue c
    if m > exponentLimit then some 1 else (excess? m rest).map (· + 1)

/-- The exponent after `e`. One above the limit is refused at the digit that exceeds it, unless
the number is zero whatever its exponent. -/
def exponentPart (isZero : Bool) : Reader (Option Int) := do
  match ← peek with
  | some 'e' | some 'E' =>
    eat
    let sign ← peek
    if sign == some '+' || sign == some '-' then eat
    let start := (← get).index
    match ← next with
    | none => failHere .endInValue
    | some c =>
      if !c.isDigit then failHere .invalidNumber
      let ds := c :: (← digits)
      let n : Nat := ds.foldl (fun n c => n * 10 + digitValue c) 0
      if sign == some '-' then return some (-n)
      match excess? 0 ds with
      | some count => if !isZero then throw ⟨.numberOutOfRange, some (start + count)⟩
      | none => pure ()
      return some n
  | _ => return none

/-- The nearest double to a significand times a power of ten, by one rounding each. -/
def floatOf (n : Nat) (exponent : Int) : Float :=
  let base := Float.ofScientific n false 0
  if n == 0 then base
  else if exponent > 308 then base / 0.0
  else if exponent ≥ 0 then base * Float.ofScientific 1 false exponent.toNat
  else if exponent ≥ -308 then base / Float.ofScientific 1 false (-exponent).toNat
  else base / Float.ofScientific 1 false 308 / Float.ofScientific 1 false (min 400 (-exponent - 308).toNat)

/-- A number after its sign. -/
def number (negative : Bool) : Reader Number := do
  let whole ← integerDigits
  let fraction ← fractionDigits
  let (n, dropped) := significand 0 whole
  let (m, lost) := significand n fraction
  let exponent ← exponentPart (m == 0)
  if fraction.isEmpty && exponent.isNone && dropped == 0 then
    if !negative then return .integer n
    else if 0 < n && n ≤ Nat.pow 2 63 then return .integer (-(n : Int))
  let shift : Int := (exponent.getD 0) + dropped + lost - fraction.length
  let x := floatOf m shift
  if x.isInf then failHere .numberOutOfRange
  return .float (if negative then -x else x)

/-- Step over a number after its sign. -/
def skipNumber : Reader Unit := do
  match ← peek with
  | none => failHere .invalidNumber
  | some _ => pure ()
  discard integerDigits
  if (← peek) == some '.' then
    eat
    if (← digits).isEmpty then failAhead .invalidNumber
  match ← peek with
  | some 'e' | some 'E' =>
    eat
    let sign ← peek
    if sign == some '+' || sign == some '-' then eat
    match ← peek with
    | none => failHere .invalidNumber
    | some _ =>
      match ← next with
      | some c => if c.isDigit then discard digits else failHere .invalidNumber
      | none => failHere .invalidNumber
  | _ => return ()

/-! ## Values of no interest -/

/-- Step over a value of any shape. `stack` holds the brackets open around the place, and
`fresh` tells that a value, and no comma or closing bracket, comes next. -/
def skipValues : Nat → Bool → List Char → Reader Unit
  | 0, _, _ => failHere .endInValue
  | fuel + 1, true, stack => do
    match ← peekToken with
    | none => failAhead .endInValue
    | some 'n' => do
      eat
      word ['u', 'l', 'l']
      skipValues fuel false stack
    | some 't' => do
      eat
      word ['r', 'u', 'e']
      skipValues fuel false stack
    | some 'f' => do
      eat
      word ['a', 'l', 's', 'e']
      skipValues fuel false stack
    | some '"' => do
      eat
      skipString ((← get).rest.length + 1)
      skipValues fuel false stack
    | some '-' => do
      eat
      skipNumber
      skipValues fuel false stack
    | some '[' => do
      eat
      match ← peekToken with
      | none => failAhead .endInList
      | some ']' =>
        eat
        skipValues fuel false stack
      | some _ => skipValues fuel true ('[' :: stack)
    | some '\x7b' => do
      eat
      match ← peekToken with
      | none => failAhead .endInObject
      | some '\x7d' =>
        eat
        skipValues fuel false stack
      | some _ =>
        skipKey
        skipValues fuel true ('\x7b' :: stack)
    | some c =>
      if c.isDigit then do
        skipNumber
        skipValues fuel false stack
      else failAhead .expectedValue
  | _ + 1, false, [] => return ()
  | fuel + 1, false, top :: stack => do
    let isList := top == '['
    match ← peekToken with
    | none => failAhead (if isList then .endInList else .endInObject)
    | some c =>
      if c == (if isList then ']' else '\x7d') then
        eat
        skipValues fuel false stack
      else if c == ',' then
        eat
        if !isList then skipKey
        skipValues fuel true (top :: stack)
      else failAhead (if isList then .expectedListCommaOrEnd else .expectedObjectCommaOrEnd)
where
  /-- Step over a key and its colon. -/
  skipKey : Reader Unit := do
    match ← peekToken with
    | none => failAhead .endInObject
    | some '"' =>
      eat
      skipString ((← get).rest.length + 1)
      match ← peekToken with
      | some ':' => eat
      | some _ => failAhead .expectedColon
      | none => failAhead .endInObject
    | some _ => failAhead .keyNotString

/-- Step over one value. -/
def skipValue : Reader Unit := do skipValues (2 * (← get).rest.length + 2) true []

/-! ## Typed values -/

/-- Refuse the value that comes next, saying what it is. -/
def refuse {α : Type} (expected : String) : Reader α := placed do
  let wrong (found : Found) : Reader α := failLater (.invalidType found expected)
  match ← peek with
  | some 'n' => do
    eat
    word ['u', 'l', 'l']
    wrong .null
  | some 't' => do
    eat
    word ['r', 'u', 'e']
    wrong (.bool true)
  | some 'f' => do
    eat
    word ['a', 'l', 's', 'e']
    wrong (.bool false)
  | some '-' => do
    eat
    wrong (← number true).found
  | some '"' => do wrong (.string (← stringToken))
  | some '[' => wrong .sequence
  | some '\x7b' => wrong .map
  | some c => if c.isDigit then do wrong (← number false).found else failAhead .expectedValue
  | none => failAhead .expectedValue

/-- Look at the next token, which has to exist. -/
def valueToken : Reader Char := do
  match ← peekToken with
  | some c => return c
  | none => failAhead .endInValue

/-- A string, described by `expected` in refusals. -/
def text (expected : String) : Reader String := do
  if (← valueToken) == '"' then stringToken else refuse expected

/-- A truth value. -/
def flag : Reader Bool := do
  match ← valueToken with
  | 't' =>
    eat
    word ['r', 'u', 'e']
    return true
  | 'f' =>
    eat
    word ['a', 'l', 's', 'e']
    return false
  | _ => refuse "a boolean"

/-- A natural number of 32 bits. -/
def word32 : Reader UInt32 := placed do
  let c ← valueToken
  if c != '-' && !c.isDigit then refuse "u32"
  if c == '-' then eat
  match ← number (c == '-') with
  | .integer n =>
    if 0 ≤ n && n < UInt32.size then return UInt32.ofNat n.toNat
    else failLater (.invalidValue (.integer n) "u32")
  | .float x => failLater (.invalidType (Number.float x).found "u32")

/-- `null`, or a value. -/
def optional {α : Type} (r : Reader α) : Reader (Option α) := do
  if (← peekToken) == some 'n' then
    eat
    word ['u', 'l', 'l']
    return none
  else return some (← r)

/-! ## Lists and records -/

/-- Whether another element follows in a list; `first` before the first one. -/
def moreElements (first : Bool) : Reader Bool := do
  match ← peekToken with
  | none => failAhead .endInList
  | some ']' => return false
  | some c =>
    if first then return true
    else if c == ',' then
      eat
      match ← peekToken with
      | some ']' => failAhead .trailingComma
      | some _ => return true
      | none => failAhead .endInValue
    else failAhead .expectedListCommaOrEnd

/-- The end of a list. -/
def endList : Reader Unit := do
  match ← peekToken with
  | some ']' => eat
  | some ',' =>
    eat
    match ← peekToken with
    | some ']' => failAhead .trailingComma
    | _ => failAhead .trailingCharacters
  | some _ => failAhead .trailingCharacters
  | none => failAhead .endInList

/-- The elements of a list after its opening bracket. -/
def elements {α : Type} (r : Reader α) : Nat → Bool → Reader (List α)
  | 0, _ => failHere .endInList
  | fuel + 1, first => do
    if ← moreElements first then
      let a ← r
      return a :: (← elements r fuel false)
    else return []

/-- A list. -/
def list {α : Type} (r : Reader α) : Reader (List α) := do
  if (← valueToken) != '[' then refuse "a sequence"
  placed (followedBy (do
    eat
    elements r ((← get).rest.length + 1) true) endList)

/-- Whether another member follows in an object; `first` before the first one. -/
def moreMembers (first : Bool) : Reader Bool := do
  match ← peekToken with
  | none => failAhead .endInObject
  | some '\x7d' => return false
  | some c =>
    if first then
      if c == '"' then return true else failAhead .keyNotString
    else if c == ',' then
      eat
      match ← peekToken with
      | some '"' => return true
      | some '\x7d' => failAhead .trailingComma
      | some _ => failAhead .keyNotString
      | none => failAhead .endInValue
    else failAhead .expectedObjectCommaOrEnd

/-- The end of an object. -/
def endObject : Reader Unit := do
  match ← peekToken with
  | some '\x7d' => eat
  | some ',' => failAhead .trailingComma
  | some _ => failAhead .trailingCharacters
  | none => failAhead .endInObject

/-- The colon after a key. -/
def colon : Reader Unit := do
  match ← peekToken with
  | some ':' => eat
  | some _ => failAhead .expectedColon
  | none => failAhead .endInObject

/-- A field of a record under construction. -/
structure Field (σ : Type) where
  name : String
  required : Bool
  read : σ → Reader σ

/-- How a record is read: from an object by name, or from a list by position. -/
structure Shape (σ : Type) where
  /-- The name of the record in refusals. -/
  name : String
  /-- Refuse fields that are not listed. -/
  closed : Bool
  fields : List (Field σ)

namespace Shape

variable {σ : Type}

/-- Members of an object. -/
def members (shape : Shape σ) : Nat → Bool → List String → σ → Reader σ
  | 0, _, _, _ => failHere .endInObject
  | fuel + 1, first, seen, state => do
    if ← moreMembers first then
      let key ← stringToken
      match shape.fields.find? (·.name == key) with
      | some field =>
        if seen.contains key then failLater (.duplicateField key)
        colon
        let state ← field.read state
        members shape fuel false (key :: seen) state
      | none =>
        if shape.closed then failLater (.unknownField key (shape.fields.map (·.name)))
        colon
        skipValue
        members shape fuel false seen state
    else
      match shape.fields.find? fun f => f.required && !seen.contains f.name with
      | some field => failLater (.missingField field.name)
      | none => return state

/-- The size of the record in words. -/
def sizeText (shape : Shape σ) : String :=
  shape.name ++ " with " ++ toString shape.fields.length ++
    (if shape.fields.length == 1 then " element" else " elements")

/-- Fields in order from a list. -/
def positions (shape : Shape σ) : List (Field σ) → Nat → σ → Reader σ
  | [], _, state => return state
  | field :: rest, i, state => do
    if ← moreElements (i == 0) then
      let state ← field.read state
      positions shape rest (i + 1) state
    else if field.required then failLater (.invalidLength i shape.sizeText)
    else positions shape rest i state

/-- Read a record, starting from the values of absent fields. -/
def read (shape : Shape σ) (initial : σ) : Reader σ := do
  match ← valueToken with
  | '[' => placed (followedBy (do
      eat
      positions shape shape.fields 0 initial) endList)
  | '\x7b' => placed (followedBy (do
      eat
      members shape ((← get).rest.length + 1) true [] initial) endObject)
  | _ => refuse shape.name

end Shape

/-- One of several names, or an object that gives the name the value `null`. -/
def variant (names : List String) : Reader String := do
  let named : Reader String := do
    if (← valueToken) != '"' then refuse "variant identifier"
    placed do
      let name ← stringToken
      if names.contains name then return name else failLater (.unknownVariant name names)
  match ← peekToken with
  | some '"' => named
  | some '\x7b' =>
    eat
    let name ← named
    colon
    if (← valueToken) == 'n' then
      eat
      word ['u', 'l', 'l']
    else refuse "unit"
    match ← peekToken with
    | some '\x7d' =>
      eat
      return name
    | some _ => failHere .expectedValue
    | none => failHere .endInObject
  | some _ => failAhead .expectedValue
  | none => failAhead .endInValue

/-- Read a whole text. -/
def run {α : Type} (r : Reader α) (text : List Char) : Except Error α :=
  let whole : Reader α := do
    let a ← r
    match ← peekToken with
    | some _ => failAhead .trailingCharacters
    | none => return a
  match whole ⟨text, 0⟩ with
  | .ok a _ => .ok a
  | .error f s => .error (.ofFault text { f with index := f.index.or (some s.index) })

end Reader

end QuietEmit.Json
