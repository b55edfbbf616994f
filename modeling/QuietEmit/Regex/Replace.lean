/-
  QuietEmit.Regex.Replace

  Replacing every match by a template. In a template `$name`, `$1` and the forms
  with braces stand for groups, `$$` for a dollar; a group that is absent or took
  no part stands for nothing.
-/
import QuietEmit.Regex.Matcher

namespace QuietEmit.Regex

/-! ## Templates -/

/-- A piece of a template. -/
inductive Piece where
  | text (c : Char)
  | number (index : Nat)
  | named (name : String)
deriving DecidableEq, Repr

/-- Letters of a group reference without braces. -/
def isReferenceChar (c : Char) : Bool := c.isAlphanum || c == '_'

/-- A group is named by number when the reference is a decimal number of 64 bits. -/
def referenceOf (name : List Char) : Piece :=
  let digits := if name.head? == some '+' then name.drop 1 else name
  let n := digits.foldl (fun n c => n * 10 + (c.toNat - 48)) 0
  if !digits.isEmpty && digits.all Char.isDigit && n < UInt64.size then .number n
  else .named (String.ofList name)

/-- The reference after a dollar, with what follows it. -/
def reference? : List Char → Option (Piece × List Char)
  | '\x7b' :: rest =>
    let name := rest.takeWhile (· != '\x7d')
    match rest.drop name.length with
    | _ :: after => some (referenceOf name, after)
    | [] => none
  | rest =>
    let name := rest.takeWhile isReferenceChar
    if name.isEmpty then none else some (referenceOf name, rest.drop name.length)

/-- The pieces of a template. -/
def piecesUpTo : Nat → List Char → List Piece
  | 0, _ => []
  | _ + 1, [] => []
  | fuel + 1, '$' :: rest =>
    match rest with
    | '$' :: after => .text '$' :: piecesUpTo fuel after
    | _ =>
      match reference? rest with
      | some (piece, after) => piece :: piecesUpTo fuel after
      | none => .text '$' :: piecesUpTo fuel rest
  | fuel + 1, c :: rest => .text c :: piecesUpTo fuel rest

/-- The pieces of a whole template. -/
def pieces (template : List Char) : List Piece := piecesUpTo template.length template

/-! ## Matches -/

/-- The last value saved in a slot. -/
def slot? (slots : Slots) (slot : Nat) : Option Nat :=
  (slots.find? (·.1 == slot)).map (·.2)

/-- The text a group matched, empty if it took no part. -/
def groupText (text : List Char) (slots : Slots) (index : Nat) : List Char :=
  match slot? slots (2 * index), slot? slots (2 * index + 1) with
  | some a, some b => (text.drop a).take (b - a)
  | _, _ => []

/-- The text a piece stands for. -/
def Piece.expand (names : List (String × Nat)) (text : List Char) (slots : Slots) :
    Piece → List Char
  | .text c => [c]
  | .number index => groupText text slots index
  | .named name =>
    match names.find? (·.1 == name) with
    | some (_, index) => groupText text slots index
    | none => []

/-- Start and end of a match. -/
def bounds (slots : Slots) : Nat × Nat := ((slot? slots 0).getD 0, (slot? slots 1).getD 0)

/-- The position with that index. -/
def spotAt (text : List Char) (index : Nat) : Spot :=
  ⟨index, if index == 0 then none else text[index - 1]?, text.drop index⟩

/-- The matches from left to right. An empty match right after another match is passed over. -/
def Compiled.matchesFrom (r : Compiled) (text : List Char) :
    Nat → Nat → Option Nat → List Slots
  | 0, _, _ => []
  | fuel + 1, start, lastEnd =>
    if start > text.length then []
    else match r.find (text.length + 1) (spotAt text start) with
      | none => []
      | some slots =>
        let (a, b) := bounds slots
        if a == b && lastEnd == some b then r.matchesFrom text fuel (start + 1) lastEnd
        else slots :: r.matchesFrom text fuel b (some b)

/-- The matches in a text. -/
def Compiled.allMatches (r : Compiled) (text : List Char) : List Slots :=
  r.matchesFrom text (2 * text.length + 3) 0 none

/-- Whether the pattern matches somewhere. -/
def Compiled.isMatch (r : Compiled) (text : List Char) : Bool :=
  (r.find (text.length + 1) (spotAt text 0)).isSome

/-- The text from `start` on with the matches replaced. -/
def Compiled.replaceMatches (r : Compiled) (template : List Piece) (text : List Char) :
    List Slots → Nat → List Char
  | [], start => text.drop start
  | slots :: rest, start =>
    let (a, b) := bounds slots
    (text.drop start).take (a - start) ++ template.flatMap (·.expand r.names text slots) ++
      r.replaceMatches template text rest b

/-- Replace every match by the template. -/
def Compiled.replaceAll (r : Compiled) (template text : String) : String :=
  let cs := text.toList
  String.ofList (r.replaceMatches (pieces template.toList) cs (r.allMatches cs) 0)

end QuietEmit.Regex
