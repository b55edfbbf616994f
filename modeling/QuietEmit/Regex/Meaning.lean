/-
  QuietEmit.Regex.Meaning

  What a pattern matches: its syntax tree under the flags in force, as an
  expression over sets of characters. Case-insensitive matching closes every set
  under simple case folding before negation.
-/
import QuietEmit.Regex.CharSet
import QuietEmit.Regex.Parser
import QuietEmit.Regex.Property

namespace QuietEmit.Regex

/-- The flags in force at a point of the pattern. -/
structure Mode where
  ignoreCase : Bool
  multiLine : Bool
  dotMatchesNewline : Bool
  swapGreed : Bool
  unicode : Bool
  crlf : Bool
deriving DecidableEq, Repr

/-- Positions an expression can require. -/
inductive Anchor where
  | textStart
  | textEnd
  | lineStart (crlf : Bool)
  | lineEnd (crlf : Bool)
  | word (kind : Look) (unicode : Bool)
deriving DecidableEq, Repr

/-- Expressions over characters. -/
inductive Expr where
  | empty
  | char (set : CharSet)
  | anchor (kind : Anchor)
  | sequence (items : List Expr)
  | alternatives (items : List Expr)
  | repeated (least : Nat) (most : Option Nat) (greedy : Bool) (body : Expr)
  | capture (index : Nat) (body : Expr)

/-! ## Sets of characters -/

/-- Whether the character counts as part of a word. -/
def wordChar (unicode : Bool) (c : Char) : Bool :=
  if unicode then Unicode.isWord c else c.isAlphanum || c == '_'

/-- Fold when case is ignored. -/
def Mode.fold (m : Mode) (set : CharSet) : CharSet :=
  if m.ignoreCase then set.fold m.unicode else set

/-- A character, or those equal to it where case is ignored. -/
def Mode.charSet (m : Mode) (c : Char) : CharSet :=
  if !m.ignoreCase then .ofList [c]
  else if m.unicode then .ofList (c :: Unicode.CaseFold.equivalents c)
  else .ofList [c, c.toLower, c.toUpper]

/-- The classes with a one-letter escape. -/
def perlSet (unicode : Bool) : PerlClass → CharSet
  | .digit =>
    if unicode then .tabled (Unicode.inRanges Unicode.Category.decimalNumber)
    else .ascii Char.isDigit
  | .space => if unicode then .tabled Unicode.isBlank else .ascii Unicode.isBlank
  | .word => if unicode then .tabled (wordChar true) else .ascii (wordChar false)

/-- The classes written as in `[:alpha:]`. -/
def asciiSet (name : String) : CharSet := .ascii fun c =>
  let n := c.toNat
  let printable := 33 ≤ n && n ≤ 126
  match name with
  | "alnum" => c.isAlphanum
  | "alpha" => c.isAlpha
  | "ascii" => n < 128
  | "blank" => c == ' ' || c == '\t'
  | "cntrl" => n < 32 || n == 127
  | "digit" => c.isDigit
  | "graph" => printable
  | "lower" => c.isLower
  | "print" => printable || c == ' '
  | "punct" => printable && !c.isAlphanum
  | "space" => c == ' ' || (9 ≤ n && n ≤ 13)
  | "upper" => c.isUpper
  | "word" => c.isAlphanum || c == '_'
  | "xdigit" => (Unicode.hexDigit? c).isSome
  | _ => false

/-- The set a property query names, and whether the query asks for the other characters. -/
def propertySet : PropertyQuery → Except Cause (Bool × CharSet)
  | .name text => (namedSet text).map fun set => (false, .tabled set)
  | .value unequal name value => (valueSet name value).map fun set => (unequal, .tabled set)

/-- Attach the place to a cause. -/
def causeAt {α : Type} (extent : Extent) : Except Cause α → Except Error α
  | .ok a => .ok a
  | .error cause => .error (.fault cause extent none)

/-- The set of a property class under the mode. -/
def propertyClass (m : Mode) (extent : Extent) (negated : Bool) (query : PropertyQuery) :
    Except Error CharSet := do
  if !m.unicode then throw (.fault .unicodeNotAllowed extent none)
  let (unequal, set) ← causeAt extent (propertySet query)
  return (m.fold set).negateIf (negated != unequal)

/-- The set operation of a class operator. -/
def ClassOp.apply (op : ClassOp) : CharSet → CharSet → CharSet :=
  match op with
  | .intersection => .combine (· && ·)
  | .difference => .combine fun a b => a && !b
  | .symmetricDifference => .combine (· != ·)

/-- Without Unicode a set ranges over bytes, and must hold none above 127. -/
def asciiOnly (set : CharSet) : Bool :=
  (List.range 128).all fun i => !set.has (Char.ofNat (128 + i))

/-- A set that is refused if it could match half a character. -/
def wholeChars (m : Mode) (extent : Extent) (set : CharSet) : Except Error CharSet :=
  if !m.unicode && !asciiOnly set then .error (.fault .invalidUtf8 extent none) else .ok set

/-- A character of a class; without Unicode it has to be one of ASCII. -/
def ClassChar.value (m : Mode) (char : ClassChar) : Except Error Char :=
  if !m.unicode && char.c.toNat ≥ 128 then
    .error (.fault (if char.isByte then .invalidUtf8 else .unicodeNotAllowed) char.extent none)
  else .ok char.c

mutual

/-- The set a class member stands for. -/
def ClassItem.set (m : Mode) (item : ClassItem) : Except Error CharSet := do
  match item with
  | .empty => return .ofList []
  | .literal char =>
    let c ← char.value m
    return .ofList [c]
  | .range first last =>
    let lo ← first.value m
    let hi ← last.value m
    return .range lo hi
  | .ascii extent name negated => wholeChars m extent ((m.fold (asciiSet name)).negateIf negated)
  | .property extent negated query => propertyClass m extent negated query
  | .perl extent kind negated => wholeChars m extent ((perlSet m.unicode kind).negateIf negated)
  | .bracket extent negated inside =>
    wholeChars m extent ((m.fold (← inside.set m)).negateIf negated)
  | .union items => ClassItem.unionSet m items
  | .op kind left right => return kind.apply (m.fold (← left.set m)) (m.fold (← right.set m))

/-- The union of the members' sets. -/
def ClassItem.unionSet (m : Mode) (items : List ClassItem) : Except Error CharSet := do
  match items with
  | [] => return .ofList []
  | item :: rest =>
    let set ← item.set m
    let others ← ClassItem.unionSet m rest
    return set.union others

end

/-! ## Expressions -/

/-- Whether the expression can match the empty text. -/
def Expr.nullable : Expr → Bool
  | .empty | .anchor _ => true
  | .char _ => false
  | .sequence items => items.attach.all fun ⟨e, _⟩ => e.nullable
  | .alternatives items => items.attach.any fun ⟨e, _⟩ => e.nullable
  | .repeated least _ _ body => least == 0 || body.nullable
  | .capture _ body => body.nullable

/-! ## Meaning -/

/-- The mode after a flag group. -/
def Mode.with (m : Mode) (items : List FlagItem) : Mode :=
  let get (f : Flag) (old : Bool) : Bool := (Reader.stateOf f items).getD old
  ⟨get .ignoreCase m.ignoreCase, get .multiLine m.multiLine,
    get .dotMatchesNewline m.dotMatchesNewline, get .swapGreed m.swapGreed,
    get .unicode m.unicode, get .crlf m.crlf⟩

/-- The set of the dot. -/
def dotSet (m : Mode) : CharSet :=
  let ends := if m.dotMatchesNewline then [] else if m.crlf then ['\n', '\r'] else ['\n']
  (CharSet.ofList ends).negateIf true

mutual

/-- Interpret one node; a flag group answers the mode for what follows it. -/
def Node.expr (m : Mode) (node : Node) : Except Error (Expr × Mode) := do
  match node with
  | .empty => return (.empty, m)
  | .setFlags items => return (.empty, m.with items)
  | .literal extent c isByte =>
    if !m.unicode && isByte && c.toNat ≥ 128 then throw (.fault .invalidUtf8 extent none)
    return (.char (m.charSet c), m)
  | .dot extent =>
    if !m.unicode then throw (.fault .invalidUtf8 extent none)
    return (.char (dotSet m), m)
  | .look .textStart => return (.anchor .textStart, m)
  | .look .textEnd => return (.anchor .textEnd, m)
  | .look kind => return (.anchor (.word kind m.unicode), m)
  | .line true => return (.anchor (if m.multiLine then .lineStart m.crlf else .textStart), m)
  | .line false => return (.anchor (if m.multiLine then .lineEnd m.crlf else .textEnd), m)
  | .property extent negated query => return (.char (← propertyClass m extent negated query), m)
  | .perl extent kind negated =>
    return (.char (← wholeChars m extent ((perlSet m.unicode kind).negateIf negated)), m)
  | .bracket extent negated inside =>
    let set ← inside.set m
    return (.char (← wholeChars m extent ((m.fold set).negateIf negated)), m)
  | .repeated _ least most greedy body =>
    let (inside, _) ← body.expr m
    return (.repeated least most (greedy != m.swapGreed) inside, m)
  | .group _ (.capture index _) body =>
    let (inside, _) ← body.expr m
    return (.capture index inside, m)
  | .group _ (.flags items) body =>
    let (inside, _) ← body.expr (m.with items)
    return (inside, m)
  | .alternatives _ options =>
    let (exprs, after) ← Node.exprs m options
    return (.alternatives exprs, after)
  | .sequence _ items =>
    let (exprs, after) ← Node.exprs m items
    return (.sequence exprs, after)

/-- Interpret nodes in order, each under the mode the one before left. -/
def Node.exprs (m : Mode) (nodes : List Node) : Except Error (List Expr × Mode) := do
  match nodes with
  | [] => return ([], m)
  | node :: rest =>
    let (first, next) ← node.expr m
    let (others, after) ← Node.exprs next rest
    return (first :: others, after)

end

mutual

/-- The names of the groups with their indices. -/
def Node.groupNames (node : Node) : List (String × Nat) :=
  match node with
  | .group _ (.capture index (some name)) body => (name, index) :: body.groupNames
  | .group _ _ body | .repeated _ _ _ _ body => body.groupNames
  | .alternatives _ nodes | .sequence _ nodes => Node.allGroupNames nodes
  | _ => []

/-- The same over a list of nodes. -/
def Node.allGroupNames (nodes : List Node) : List (String × Nat) :=
  match nodes with
  | [] => []
  | node :: rest => node.groupNames ++ Node.allGroupNames rest

end

end QuietEmit.Regex
