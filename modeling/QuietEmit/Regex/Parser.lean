/-
  QuietEmit.Regex.Parser

  Reading a pattern into its syntax tree, from left to right; the first fault
  ends the reading. Every recursive reader takes a bound on the number of steps,
  which the entry point computes from the length of the pattern.
-/
import QuietEmit.Unicode.Properties
import QuietEmit.Regex.Error

namespace QuietEmit.Regex

/-- What is left to read, and what has been seen. -/
structure Cursor where
  rest : List Char
  place : Place
  captures : Nat
  names : List (String × Extent)
  ignoreBlanks : Bool

/-- Readers over a cursor that may fail. -/
abbrev Reader := StateT Cursor (Except Error)

namespace Reader

/-! ## Looking and moving -/

/-- The place after one more character. -/
def advance (p : Place) (c : Char) : Place :=
  if c == '\n' then ⟨p.offset + 1, p.line + 1, 1⟩ else ⟨p.offset + 1, p.line, p.column + 1⟩

/-- The next character, if any. -/
def peek : Reader (Option Char) := return (← get).rest.head?

/-- The character after the next. -/
def peekSecond : Reader (Option Char) := return ((← get).rest.drop 1).head?

/-- Where the cursor stands. -/
def here : Reader Place := return (← get).place

/-- An extent of no width at the cursor. -/
def hereEmpty : Reader Extent := return ⟨(← get).place, (← get).place⟩

/-- The extent of the next character. -/
def hereChar : Reader Extent := do
  let s ← get
  return ⟨s.place, (s.rest.head?.map (advance s.place)).getD s.place⟩

/-- Move past the next character; false when that reaches the end. -/
def bump : Reader Bool := modifyGet fun s =>
  match s.rest with
  | [] => (false, s)
  | c :: rest => (!rest.isEmpty, { s with rest := rest, place := advance s.place c })

/-- Blanks and comments at the head of the text, one character per step. -/
def skipBlanks : Nat → Bool → Cursor → Cursor
  | 0, _, s => s
  | fuel + 1, inComment, s =>
    match s.rest with
    | [] => s
    | c :: rest =>
      let next := { s with rest := rest, place := advance s.place c }
      if inComment then skipBlanks fuel (c != '\n') next
      else if Unicode.isBlank c then skipBlanks fuel false next
      else if c == '#' then skipBlanks fuel true next
      else s

/-- Skip blanks and comments where the pattern ignores them. -/
def bumpSpace : Reader Unit := modify fun s =>
  if s.ignoreBlanks then skipBlanks s.rest.length false s else s

/-- Move past a character and the blanks after it. -/
def bumpAndSpace : Reader Bool := do
  if !(← bump) then return false
  bumpSpace
  return (← get).rest != []

/-- Move past `text` if it comes next. -/
def bumpIf (text : String) : Reader Bool := modifyGet fun s =>
  if text.toList.isPrefixOf s.rest then
    (true, { s with
      rest := s.rest.drop text.length
      place := text.toList.foldl advance s.place })
  else (false, s)

/-- The character after the next that is not an ignored blank. -/
def peekSpace : Reader (Option Char) := do
  let s ← get
  let after := { s with rest := s.rest.drop 1 }
  return (if s.ignoreBlanks then skipBlanks after.rest.length false after else after).rest.head?

/-- Give up at an extent. -/
def fault {α : Type} (cause : Cause) (extent : Extent) : Reader α :=
  throw (.fault cause extent none)

/-- Give up at an extent, pointing also at the earlier one it clashes with. -/
def clash {α : Type} (cause : Cause) (extent first : Extent) : Reader α :=
  throw (.fault cause extent (some first))

/-! ## Escapes -/

/-- What an escape or a plain character stands for. -/
inductive Primitive where
  | literal (extent : Extent) (c : Char) (isByte : Bool)
  | look (extent : Extent) (kind : Look)
  | line (extent : Extent) (start : Bool)
  | dot (extent : Extent)
  | property (extent : Extent) (negated : Bool) (query : PropertyQuery)
  | perl (extent : Extent) (kind : PerlClass) (negated : Bool)

/-- Where the primitive stands. -/
def Primitive.extent : Primitive → Extent
  | .literal e _ _ | .look e _ | .line e _ | .dot e | .property e _ _ | .perl e _ _ => e

/-- Characters with a meaning of their own in patterns. -/
def isMeta (c : Char) : Bool := "\\.+*?()|[]\x7b\x7d^$#&-~".toList.contains c

/-- Other characters that may be escaped without need. -/
def isEscapable (c : Char) : Bool :=
  c.toNat < 128 && !c.isAlphanum && c != '<' && c != '>'

/-- A code point spelt in hexadecimal, if it is a character. -/
def charOfHex? (digits : List Char) : Option Char :=
  let n := Unicode.hexValue digits
  if n < 0xD800 || (0xDFFF < n && n < 0x110000) then some (Char.ofNat n) else none

/-- A fixed number of hexadecimal digits. -/
def hexDigits (count : Nat) : Reader (List Char) :=
  (List.range count).foldlM (fun (digits : List Char) (i : Nat) => do
    if i > 0 then
      if !(← bumpAndSpace) then fault .escapeUnexpectedEnd (← hereEmpty)
    match ← peek with
    | some c =>
      if (Unicode.hexDigit? c).isNone then fault .escapeHexInvalidDigit (← hereChar)
      return digits ++ [c]
    | none => fault .escapeUnexpectedEnd (← hereEmpty)) []

/-- Characters up to a closing brace, which is left unread. -/
def untilBrace (accept : Char → Reader Unit) : Nat → List Char → Reader (List Char)
  | 0, seen => return seen
  | fuel + 1, seen => do
    if !(← bumpAndSpace) then return seen
    match ← peek with
    | some '}' => return seen
    | some c => accept c; untilBrace accept fuel (seen ++ [c])
    | none => return seen

/-- The code point after a hexadecimal escape letter. -/
def hexEscape (start : Place) (digits : Nat) : Reader Primitive := do
  if !(← bumpAndSpace) then fault .escapeUnexpectedEnd (← hereEmpty)
  if (← peek) == some '{' then
    let brace ← here
    let first := (← hereChar).stop
    let accept (c : Char) : Reader Unit := do
      if (Unicode.hexDigit? c).isNone then fault .escapeHexInvalidDigit (← hereChar)
    let hex ← untilBrace accept (← get).rest.length []
    if (← peek).isNone then fault .escapeUnexpectedEnd ⟨brace, ← here⟩
    let stop ← here
    discard bumpAndSpace
    if hex.isEmpty then fault .escapeHexEmpty ⟨brace, ← here⟩
    match charOfHex? hex with
    | some c => return .literal ⟨start, ← here⟩ c false
    | none => fault .escapeHexInvalid ⟨first, stop⟩
  else
    let first ← here
    let hex ← hexDigits digits
    discard bumpAndSpace
    match charOfHex? hex with
    | some c => return .literal ⟨start, ← here⟩ c (digits == 2)
    | none => fault .escapeHexInvalid ⟨first, ← here⟩

/-- The property class after `p` or `P`. -/
def propertyEscape (start : Place) (negated : Bool) : Reader Primitive := do
  if !(← bumpAndSpace) then fault .escapeUnexpectedEnd (← hereEmpty)
  if (← peek) == some '{' then
    let inside ← untilBrace (fun _ => return ()) (← get).rest.length []
    if (← peek).isNone then fault .escapeUnexpectedEnd (← hereEmpty)
    discard bump
    let split (sep : String) : Option (String × String) :=
      (Text.splitOnce? sep.toList inside).map fun (a, b) => (String.ofList a, String.ofList b)
    let query : PropertyQuery :=
      match split "!=", split ":", split "=" with
      | some (a, b), _, _ => .value true a b
      | none, some (a, b), _ => .value false a b
      | none, none, some (a, b) => .value false a b
      | none, none, none => .name (String.ofList inside)
    return .property ⟨start, ← here⟩ negated query
  else
    match ← peek with
    | some '\\' => fault .propertyClassInvalid (← hereChar)
    | some c =>
      discard bumpAndSpace
      return .property ⟨start, ← here⟩ negated (.name (String.singleton c))
    | none => fault .escapeUnexpectedEnd (← hereEmpty)

/-- The letters of a named word boundary. -/
def boundaryName : Nat → List Char → Reader (List Char)
  | 0, seen => return seen
  | fuel + 1, seen => do
    match ← peek with
    | some c =>
      if c.isAlpha || c == '-' then
        discard bumpAndSpace
        boundaryName fuel (seen ++ [c])
      else return seen
    | none => return seen

/-- A named word boundary in braces, or nothing if the braces hold a count. -/
def specialBoundary (start : Place) : Reader (Option Look) := do
  let saved ← get
  let opening ← here
  if !(← bumpAndSpace) then fault .wordBoundaryUnexpectedEnd ⟨start, ← here⟩
  let contents ← here
  match ← peek with
  | some c =>
    if !(c.isAlpha || c == '-') then
      set saved
      return none
    let name ← boundaryName (← get).rest.length []
    if (← peek) != some '}' then fault .wordBoundaryUnclosed ⟨opening, ← here⟩
    let stop ← here
    discard bump
    match String.ofList name with
    | "start" => return some .wordStart
    | "end" => return some .wordEnd
    | "start-half" => return some .wordStartHalf
    | "end-half" => return some .wordEndHalf
    | _ => fault .wordBoundaryUnrecognized ⟨contents, stop⟩
  | none => fault .wordBoundaryUnexpectedEnd ⟨start, ← here⟩

/-- The character of a one-letter control escape. -/
def controlEscape? : Char → Option Char
  | 'a' => some '\x07'
  | 'f' => some '\x0c'
  | 't' => some '\t'
  | 'n' => some '\n'
  | 'r' => some '\r'
  | 'v' => some '\x0b'
  | _ => none

/-- Everything a backslash can begin. -/
def escape : Reader Primitive := do
  let start ← here
  if !(← bump) then fault .escapeUnexpectedEnd ⟨start, ← here⟩
  let c := (← peek).getD '\\'
  if c.isDigit then fault .unsupportedBackreference ⟨start, (← hereChar).stop⟩
  match c with
  | 'x' => hexEscape start 2
  | 'u' => hexEscape start 4
  | 'U' => hexEscape start 8
  | 'p' => propertyEscape start false
  | 'P' => propertyEscape start true
  | _ =>
    discard bump
    let extent : Extent := ⟨start, ← here⟩
    match c with
    | 'd' => return .perl extent .digit false
    | 'D' => return .perl extent .digit true
    | 's' => return .perl extent .space false
    | 'S' => return .perl extent .space true
    | 'w' => return .perl extent .word false
    | 'W' => return .perl extent .word true
    | 'A' => return .look extent .textStart
    | 'z' => return .look extent .textEnd
    | 'B' => return .look extent .notWordBoundary
    | '<' => return .look extent .wordStart
    | '>' => return .look extent .wordEnd
    | 'b' =>
      if (← peek) == some '{' then
        match ← specialBoundary start with
        | some kind => return .look ⟨start, ← here⟩ kind
        | none => return .look extent .wordBoundary
      else return .look extent .wordBoundary
    | _ =>
      if isMeta c || isEscapable c then return .literal extent c false
      else match controlEscape? c with
        | some d => return .literal extent d false
        | none => fault .escapeUnrecognized extent

/-! ## Bracketed classes -/

/-- Names of the classes written as in `[:alpha:]`. -/
def asciiNames : List String :=
  ["alnum", "alpha", "ascii", "blank", "cntrl", "digit", "graph", "lower", "print", "punct",
    "space", "upper", "word", "xdigit"]

/-- A class such as `[:alpha:]`, or nothing with the cursor where it was. -/
def asciiClass? : Reader (Option ClassItem) := do
  let saved ← get
  match saved.rest with
  | '[' :: ':' :: rest =>
    let negated := rest.head? == some '^'
    let rest := if negated then rest.drop 1 else rest
    let name := rest.takeWhile (· != ':')
    if asciiNames.contains (String.ofList name)
        && (rest.drop name.length).take 2 == [':', ']'] then
      let used := 2 + (if negated then 1 else 0) + name.length + 2
      let stop := (saved.rest.take used).foldl advance saved.place
      set { saved with rest := saved.rest.drop used, place := stop }
      return some (.ascii ⟨saved.place, stop⟩ (String.ofList name) negated)
    else return none
  | _ => return none

/-- One end of a range, or a class of its own. -/
def classPrimitive : Reader Primitive := do
  match ← peek with
  | some '\\' => escape
  | some c =>
    let extent ← hereChar
    discard bump
    return .literal extent c false
  | none => fault .classUnclosed (← hereEmpty)

/-- A primitive as a member of a class. -/
def classItemOf : Primitive → Reader ClassItem
  | .literal extent c isByte => return .literal ⟨extent, c, isByte⟩
  | .property extent negated query => return .property extent negated query
  | .perl extent kind negated => return .perl extent kind negated
  | .look extent _ | .line extent _ | .dot extent => fault .classEscapeInvalid extent

/-- A primitive as the end of a range. -/
def rangeEnd : Primitive → Reader ClassChar
  | .literal extent c isByte => return ⟨extent, c, isByte⟩
  | other => fault .classRangeLiteral other.extent

/-- A member of a class: a range, a character or a class escape. -/
def classMember (unclosed : Extent) : Reader ClassItem := do
  let first ← classPrimitive
  bumpSpace
  if (← peek).isNone then fault .classUnclosed unclosed
  let after ← peekSpace
  if (← peek) != some '-' || after == some ']' || after == some '-' then classItemOf first
  else
    if !(← bumpAndSpace) then fault .classUnclosed unclosed
    let second ← classPrimitive
    let extent : Extent := ⟨first.extent.start, second.extent.stop⟩
    let lo ← rangeEnd first
    let hi ← rangeEnd second
    if hi.c < lo.c then fault .classRangeInvalid extent
    return .range lo hi

/-- Leading hyphens of a class, which stand for themselves. -/
def leadingHyphens (start : Place) : Nat → List ClassItem → Reader (List ClassItem)
  | 0, items => return items
  | fuel + 1, items => do
    if (← peek) == some '-' then
      let extent ← hereChar
      if !(← bumpAndSpace) then fault .classUnclosed ⟨start, start⟩
      leadingHyphens start fuel (items ++ [.literal ⟨extent, '-', false⟩])
    else return items

/-- The opening of a class: where it stands, whether it is negated, first members. -/
def classOpening : Reader (Extent × Bool × List ClassItem) := do
  let start ← here
  if !(← bumpAndSpace) then fault .classUnclosed ⟨start, ← here⟩
  let negated := (← peek) == some '^'
  if negated then
    if !(← bumpAndSpace) then fault .classUnclosed ⟨start, ← here⟩
  let items ← leadingHyphens start (← get).rest.length []
  let items ←
    if items.isEmpty && (← peek) == some ']' then do
      let extent ← hereChar
      if !(← bumpAndSpace) then fault .classUnclosed ⟨start, ← here⟩
      pure [ClassItem.literal ⟨extent, ']', false⟩]
    else pure items
  return (⟨start, ← here⟩, negated, items)

/-- Close a pending operator over the members read since. -/
def applyPending (pending : Option (ClassOp × ClassItem)) (right : ClassItem) : ClassItem :=
  match pending with
  | some (kind, left) => .op kind left right
  | none => right

/-- The members of a class up to its closing bracket. `opening` is where it began. -/
def classBody : Nat → Extent → Option (ClassOp × ClassItem) → List ClassItem → Reader ClassItem
  | 0, opening, _, _ => fault .classUnclosed opening
  | fuel + 1, opening, pending, items => do
    bumpSpace
    let operator (kind : ClassOp) : Reader ClassItem := do
      discard bump
      discard bump
      classBody fuel opening (some (kind, applyPending pending (.union items))) []
    match ← peek, ← peekSecond with
    | none, _ => fault .classUnclosed opening
    | some '[', _ =>
      match ← asciiClass? with
      | some item => classBody fuel opening pending (items ++ [item])
      | none =>
        let (extent, negated, first) ← classOpening
        let inside ← classBody fuel extent none first
        let whole : Extent := ⟨extent.start, ← here⟩
        classBody fuel opening pending (items ++ [.bracket whole negated inside])
    | some ']', _ =>
      discard bump
      return applyPending pending (.union items)
    | some '&', some '&' => operator .intersection
    | some '-', some '-' => operator .difference
    | some '~', some '~' => operator .symmetricDifference
    | some _, _ =>
      let item ← classMember opening
      classBody fuel opening pending (items ++ [item])

/-- A whole bracketed class. -/
def bracketClass : Reader Node := do
  let (extent, negated, first) ← classOpening
  let inside ← classBody ((← get).rest.length + 1) extent none first
  return .bracket ⟨extent.start, ← here⟩ negated inside

/-! ## Repetition -/

/-- Whether a repetition operator can apply to the item. -/
def isRepeatable : Node → Bool
  | .empty | .setFlags _ => false
  | _ => true

/-- Where an item begins. -/
def startOf (default : Place) : Node → Place
  | .literal e _ _ | .dot e | .property e _ _ | .perl e _ _ | .bracket e _ _
  | .repeated e _ _ _ _ | .group e _ _ | .alternatives e _ | .sequence e _ => e.start
  | _ => default

/-- Take the item that a repetition operator applies to. -/
def operand (items : List Node) : Reader (List Node × Node) := do
  match items with
  | last :: before =>
    if isRepeatable last then return (before, last)
    else fault .repetitionMissing (← hereEmpty)
  | [] => fault .repetitionMissing (← hereEmpty)

/-- The operators without a count; `items` is reversed. -/
def simpleRepetition (items : List Node) (least : Nat) (most : Option Nat) :
    Reader (List Node) := do
  let (before, body) ← operand items
  let start ← here
  let more ← bump
  let reluctant := more && (← peek) == some '?'
  if reluctant then discard bump
  return .repeated ⟨startOf start body, ← here⟩ least most (!reluctant) body :: before

/-- Digits at the cursor. -/
def digitRun : Nat → List Char → Reader (List Char)
  | 0, seen => return seen
  | fuel + 1, seen => do
    match ← peek with
    | some c =>
      if c.isDigit then
        discard bumpAndSpace
        digitRun fuel (seen ++ [c])
      else return seen
    | none => return seen

/-- Skip white space, whether or not the pattern ignores it. -/
def skipWhite : Nat → Reader Unit
  | 0 => return ()
  | fuel + 1 => do
    match ← peek with
    | some c => if Unicode.isBlank c then discard bump; skipWhite fuel else return ()
    | none => return ()

/-- A decimal number of 32 bits, or the error to raise if one is needed. -/
def decimal : Reader (Except Error Nat) := do
  skipWhite (← get).rest.length
  let start ← here
  let digits ← digitRun (← get).rest.length []
  let extent : Extent := ⟨start, ← here⟩
  skipWhite (← get).rest.length
  if digits.isEmpty then return .error (.fault .repetitionCountDecimalEmpty extent none)
  let n := digits.foldl (fun n c => n * 10 + (c.toNat - 48)) 0
  if n < UInt32.size then return .ok n else return .error (.fault .decimalInvalid extent none)

/-- The operator with a count in braces; `items` is reversed. -/
def countedRepetition (items : List Node) : Reader (List Node) := do
  let start ← here
  let (before, body) ← operand items
  let unclosed {α : Type} : Reader α := do fault .repetitionCountUnclosed ⟨start, ← here⟩
  if !(← bumpAndSpace) then unclosed
  let least ← decimal
  let (lo, hi) ← do
    match ← peek with
    | none => unclosed
    | some ',' =>
      if !(← bumpAndSpace) then unclosed
      let lo ← liftM least
      if (← peek) == some '}' then pure (lo, none)
      else
        let most ← decimal
        pure (lo, some (← liftM most))
    | some _ =>
      let n ← liftM least
      pure (n, some n)
  if (← peek) != some '}' then unclosed
  let more ← bumpAndSpace
  let reluctant := more && (← peek) == some '?'
  if reluctant then discard bump
  if hi.any (· < lo) then fault .repetitionCountInvalid ⟨start, ← here⟩
  return .repeated ⟨startOf start body, ← here⟩ lo hi (!reluctant) body :: before

/-! ## Groups -/

/-- Characters of a group name. -/
def isNameChar (first : Bool) (c : Char) : Bool :=
  c == '_' || Unicode.isAlphabetic c ||
    (!first && (c == '.' || c == '[' || c == ']' || Unicode.isNumeric c))

/-- The characters of a group name up to the closing angle. -/
def nameChars : Nat → List Char → Reader (List Char)
  | 0, seen => return seen
  | fuel + 1, seen => do
    match ← peek with
    | some '>' => return seen
    | some c =>
      if !isNameChar seen.isEmpty c then fault .groupNameInvalid (← hereChar)
      discard bump
      nameChars fuel (seen ++ [c])
    | none => return seen

/-- A group name, which must be new. -/
def groupName : Reader String := do
  if (← peek).isNone then fault .groupNameUnexpectedEnd (← hereEmpty)
  let start ← here
  let name ← nameChars (← get).rest.length []
  let extent : Extent := ⟨start, ← here⟩
  if (← peek).isNone then fault .groupNameUnexpectedEnd (← hereEmpty)
  discard bump
  if name.isEmpty then fault .groupNameEmpty ⟨start, start⟩
  let text := String.ofList name
  match (← get).names.find? (·.1 == text) with
  | some (_, first) => clash .groupNameDuplicate extent first
  | none =>
    modify fun s => { s with names := (text, extent) :: s.names }
    return text

/-- The flag a letter stands for. -/
def flagOf? : Char → Option Flag
  | 'i' => some .ignoreCase
  | 'm' => some .multiLine
  | 's' => some .dotMatchesNewline
  | 'U' => some .swapGreed
  | 'u' => some .unicode
  | 'R' => some .crlf
  | 'x' => some .ignoreBlanks
  | _ => none

/-- Flag letters up to a colon or a closing parenthesis, with their extents. -/
def flagItems : Nat → List (FlagItem × Extent) → Reader (List (FlagItem × Extent))
  | 0, items => return items
  | fuel + 1, items => do
    match ← peek with
    | some ':' | some ')' =>
      match items.getLast? with
      | some (.negation, extent) => fault .flagDanglingNegation extent
      | _ => return items
    | some c =>
      let extent ← hereChar
      let item ←
        if c == '-' then pure FlagItem.negation
        else match flagOf? c with
          | some f => pure (FlagItem.flag f)
          | none => fault .flagUnrecognized extent
      match items.find? (·.1 == item) with
      | some (_, first) =>
        clash (if item == .negation then .flagRepeatedNegation else .flagDuplicate) extent first
      | none =>
        if !(← bump) then fault .flagUnexpectedEnd (← hereEmpty)
        flagItems fuel (items ++ [(item, extent)])
    | none => fault .flagUnexpectedEnd (← hereEmpty)

/-- The value the items give to a flag: on before the negation, off after it. -/
def stateOf (f : Flag) (items : List FlagItem) : Option Bool :=
  if (items.takeWhile (· != .negation)).contains (.flag f) then some true
  else if items.contains (.flag f) then some false
  else none

/-- What an opening parenthesis starts. -/
inductive Opening where
  | flags (items : List FlagItem)
  | group (kind : GroupKind)

/-- Read an opening parenthesis with what follows it. -/
def groupOpening : Reader Opening := do
  let openExtent ← hereChar
  discard bump
  bumpSpace
  let around : Bool ← do
    if ← bumpIf "?=" then pure true
    else if ← bumpIf "?!" then pure true
    else if ← bumpIf "?<=" then pure true
    else bumpIf "?<!"
  if around then fault .unsupportedLookAround ⟨openExtent.start, ← here⟩
  let inner ← hereEmpty
  let nextCapture : Reader Nat := modifyGet fun s =>
    (s.captures + 1, { s with captures := s.captures + 1 })
  let named : Bool ← do
    if ← bumpIf "?P<" then pure true else bumpIf "?<"
  if named then
    let index ← nextCapture
    let name ← groupName
    return .group (.capture index (some name))
  else if ← bumpIf "?" then
    if (← peek).isNone then fault .groupUnclosed openExtent
    let items := (← flagItems ((← get).rest.length + 1) []).map Prod.fst
    let closing ← peek
    discard bump
    if closing == some ')' then
      if items.isEmpty then fault .repetitionMissing inner
      return .flags items
    else return .group (.flags items)
  else return .group (.capture (← nextCapture) none)

/-! ## Whole patterns -/

/-- A character or escape outside classes. -/
def primitive : Reader Node := do
  let extent ← hereChar
  let plain (node : Node) : Reader Node := do
    discard bump
    return node
  match ← peek with
  | some '\\' =>
    match ← escape with
    | .literal e c isByte => return .literal e c isByte
    | .look _ kind => return .look kind
    | .line _ start => return .line start
    | .dot e => return .dot e
    | .property e negated query => return .property e negated query
    | .perl e kind negated => return .perl e kind negated
  | some '.' => plain (.dot extent)
  | some '^' => plain (.line true)
  | some '$' => plain (.line false)
  | some c => plain (.literal extent c false)
  | none => return .empty

/-- One node for a reversed list of items. -/
def sequenceOf (start stop : Place) (items : List Node) : Node :=
  match items with
  | [] => .empty
  | [one] => one
  | many => .sequence ⟨start, stop⟩ many.reverse

/-- One node for the alternatives read, the last one first. -/
def alternativesOf (start stop : Place) (options : List Node) : Node :=
  match options with
  | [one] => one
  | many => .alternatives ⟨start, stop⟩ many.reverse

/-- Read items up to the end of the group opened at `opened`, or of the pattern. `start` is
where the group's contents begin and `branchStart` where the present alternative does. -/
def body : Nat → Option Extent → Place → Place → List Node → List Node → Reader Node
  | 0, _, _, _, _, _ => return .empty
  | fuel + 1, opened, start, branchStart, options, items => do
    bumpSpace
    let finish : Reader Node := do
      let stop ← here
      return alternativesOf start stop (sequenceOf branchStart stop items :: options)
    let again (items : List Node) : Reader Node := body fuel opened start branchStart options items
    match ← peek with
    | none =>
      match opened with
      | some extent => fault .groupUnclosed extent
      | none => finish
    | some ')' =>
      match opened with
      | some _ => finish
      | none => fault .groupUnopened (← hereChar)
    | some '|' =>
      let stop ← here
      discard bump
      body fuel opened start (← here) (sequenceOf branchStart stop items :: options) []
    | some '(' =>
      let openExtent ← hereChar
      let blanks := (← get).ignoreBlanks
      match ← groupOpening with
      | .flags flags =>
        modify fun s => { s with ignoreBlanks := (stateOf .ignoreBlanks flags).getD blanks }
        again (.setFlags flags :: items)
      | .group kind =>
        let inner := match kind with
          | .flags flags => (stateOf .ignoreBlanks flags).getD blanks
          | .capture _ _ => blanks
        modify fun s => { s with ignoreBlanks := inner }
        let contents ← here
        let inside ← body fuel (some openExtent) contents contents [] []
        modify fun s => { s with ignoreBlanks := blanks }
        discard bump
        again (.group ⟨openExtent.start, ← here⟩ kind inside :: items)
    | some '[' => again ((← bracketClass) :: items)
    | some '?' => again (← simpleRepetition items 0 (some 1))
    | some '*' => again (← simpleRepetition items 0 none)
    | some '+' => again (← simpleRepetition items 1 none)
    | some '{' => again (← countedRepetition items)
    | some _ => again ((← primitive) :: items)

end Reader

/-! ## Nesting -/

/-- The deepest nesting a pattern may have. -/
def nestLimit : Nat := 250

mutual

/-- The first class that lies deeper than the limit allows. -/
def ClassItem.tooDeep? (item : ClassItem) (depth : Nat) : Option Extent :=
  match item with
  | .bracket extent _ inside =>
    if depth + 1 > nestLimit then some extent else inside.tooDeep? (depth + 1)
  | .union items => ClassItem.anyTooDeep? items (depth + 1)
  | .op _ left right => (left.tooDeep? (depth + 1)).or (right.tooDeep? (depth + 1))
  | _ => none

/-- The same over a list of members. -/
def ClassItem.anyTooDeep? (items : List ClassItem) (depth : Nat) : Option Extent :=
  match items with
  | [] => none
  | item :: rest => (item.tooDeep? depth).or (ClassItem.anyTooDeep? rest depth)

end

mutual

/-- The first node that lies deeper than the limit allows. -/
def Node.tooDeep? (node : Node) (depth : Nat) : Option Extent :=
  match node with
  | .bracket extent _ inside =>
    if depth + 1 > nestLimit then some extent else inside.tooDeep? (depth + 1)
  | .repeated extent _ _ _ body | .group extent _ body =>
    if depth + 1 > nestLimit then some extent else body.tooDeep? (depth + 1)
  | .alternatives extent nodes | .sequence extent nodes =>
    if depth + 1 > nestLimit then some extent else Node.anyTooDeep? nodes (depth + 1)
  | _ => none

/-- The same over a list of nodes. -/
def Node.anyTooDeep? (nodes : List Node) (depth : Nat) : Option Extent :=
  match nodes with
  | [] => none
  | node :: rest => (node.tooDeep? depth).or (Node.anyTooDeep? rest depth)

end

/-- Read a whole pattern. -/
def parse (pattern : List Char) : Except Error Node := do
  let start : Place := ⟨0, 1, 1⟩
  let cursor : Cursor := ⟨pattern, start, 0, [], false⟩
  let (node, _) ← (Reader.body (2 * pattern.length + 2) none start start [] []).run cursor
  match node.tooDeep? 0 with
  | some extent => throw (.fault (.nestLimitExceeded nestLimit) extent none)
  | none => return node

end QuietEmit.Regex
