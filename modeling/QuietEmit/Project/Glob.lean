/-
  QuietEmit.Project.Glob

  Glob patterns over the bytes of a path. `*` and `?` stay within one step of the
  path, `**` as a whole step spans any number of them. Alternatives are written
  out in full before matching.
-/
import QuietEmit.Text

namespace QuietEmit

/-! ## Patterns -/

/-- A piece of a glob. -/
inductive GlobPiece where
  | literal (c : Char)
  | anyByte
  | star
  /-- `**` before the rest of a pattern. -/
  | deepFront
  /-- `**` after the rest of a pattern or of an alternative, with the slash before it. -/
  | deepBack
  /-- `**` inside a pattern, with the slashes around it. -/
  | deepInside
  | class_ (negated : Bool) (ranges : List (Char × Char))
  | alternatives (options : List (List GlobPiece))
deriving Repr, Inhabited

/-- Why a glob is no glob. -/
inductive GlobFault where
  | unclosedClass
  | invalidRange (first last : Char)
  | unopenedAlternatives
  | unclosedAlternatives
  | danglingEscape
deriving DecidableEq, Repr

/-- The words for a fault. -/
def GlobFault.message : GlobFault → String
  | .unclosedClass => "unclosed character class; missing ']'"
  | .invalidRange a b => "invalid range; '" ++ String.singleton a ++ "' > '" ++ String.singleton b ++ "'"
  | .unopenedAlternatives =>
    "unopened alternate group; missing '\x7b' (maybe escape '\x7d' with '[\x7d]'?)"
  | .unclosedAlternatives =>
    "unclosed alternate group; missing '\x7d' (maybe escape '\x7b' with '[\x7b]'?)"
  | .danglingEscape => "dangling '\\'"

namespace Glob

/-! ## Reading -/

/-- The ranges of a class after its opening, and what follows the class. `pending` says that
a hyphen waits for the end of the last range; ranges are reversed. -/
def readClass (first pending : Bool) (ranges : List (Char × Char)) :
    List Char → Except GlobFault (List (Char × Char) × List Char)
  | [] => .error .unclosedClass
  | c :: rest =>
    if c = ']' ∧ !first then
      .ok ((if pending then ('-', '-') :: ranges else ranges).reverse, rest)
    else if c = '-' ∧ !first ∧ !pending then readClass false true ranges rest
    else
      match pending && c != ']', ranges with
      | true, (a, _) :: others =>
        if c < a then .error (.invalidRange a c) else readClass false false ((a, c) :: others) rest
      | _, _ => readClass false false ((c, c) :: ranges) rest

/-- The groups of alternatives that are open, the innermost first: for each, the finished
options in reverse, and the pieces of the current one in reverse. -/
abbrev Groups := List (List (List GlobPiece) × List GlobPiece)

/-- Add a piece to the current option. -/
def push (piece : GlobPiece) : Groups → Groups
  | (options, pieces) :: outer => (options, piece :: pieces) :: outer
  | [] => []

/-- Read `**` with what stands around it; `rest` follows the second star. -/
def readDeep (groups : Groups) (previous : Option Char) (rest : List Char) : Groups × List Char :=
  let twoStars := (push .star (push .star groups), rest)
  match groups with
  | [] => twoStars
  | (options, pieces) :: outer =>
    if pieces.isEmpty then
      match rest with
      | [] => (push .deepFront groups, [])
      | '/' :: after => (push .deepFront groups, after)
      | _ => twoStars
    else if previous != some '/' &&
        (outer.isEmpty || (previous != some ',' && previous != some '\x7b')) then twoStars
    else
      let suffix : Option (Bool × List Char) :=
        match rest with
        | [] => some (true, [])
        | '/' :: after => some (false, after)
        | c :: _ => if (c == ',' || c == '\x7d') && !outer.isEmpty then some (true, rest) else none
      match suffix, pieces with
      | some (isLast, rest), last :: before =>
        let piece := match last with
          | .deepFront => .deepFront
          | .deepBack => .deepBack
          | _ => if isLast then .deepBack else .deepInside
        ((options, piece :: before) :: outer, rest)
      | _, _ => twoStars

/-- Read pieces up to the end; `fuel` is at least the length of the text. -/
def readPieces : Nat → Groups → Option Char → List Char → Except GlobFault (List GlobPiece)
  | 0, _, _, _ => .ok []
  | _ + 1, groups, _, [] =>
    match groups with
    | [(_, pieces)] => .ok pieces.reverse
    | _ => .error .unclosedAlternatives
  | fuel + 1, groups, previous, c :: rest =>
    match c with
    | '?' => readPieces fuel (push .anyByte groups) (some c) rest
    | '*' =>
      match rest with
      | '*' :: after =>
        let (groups, after) := readDeep groups previous after
        let previous := (rest.take (rest.length - after.length)).getLast?
        readPieces fuel groups previous after
      | _ => readPieces fuel (push .star groups) (some c) rest
    | '[' => do
      let (negated, body) := match rest with
        | '!' :: r | '^' :: r => (true, r)
        | r => (false, r)
      let (ranges, after) ← readClass true false [] body
      readPieces fuel (push (.class_ negated ranges) groups) (some ']') after
    | '\x7b' => readPieces fuel (([], []) :: groups) (some c) rest
    | '\x7d' =>
      match groups with
      | (options, pieces) :: outer@(_ :: _) =>
        readPieces fuel (push (.alternatives (pieces.reverse :: options).reverse) outer) (some c) rest
      | _ => .error .unopenedAlternatives
    | ',' =>
      match groups with
      | (options, pieces) :: outer@(_ :: _) =>
        readPieces fuel ((pieces.reverse :: options, []) :: outer) (some c) rest
      | _ => readPieces fuel (push (.literal c) groups) (some c) rest
    | '\\' =>
      match rest with
      | [] => .error .danglingEscape
      | d :: after => readPieces fuel (push (.literal d) groups) (some d) after
    | _ => readPieces fuel (push (.literal c) groups) (some c) rest

/-- Read a glob. -/
def read (text : List Char) : Except GlobFault (List GlobPiece) :=
  readPieces (text.length + 1) [([], [])] none text

end Glob

/-! ## Matching -/

/-- A piece of a glob that holds no alternatives, over bytes. -/
inductive GlobStep where
  | byte (b : UInt8)
  | oneOf (negated : Bool) (ranges : List (UInt8 × UInt8))
  | anyByte
  | star
  | deepFront
  | deepBack
  | deepInside
  /-- All that is left. -/
  | everything
deriving DecidableEq, Repr

namespace Glob

/-- The bytes of a character. -/
def bytesOf (c : Char) : List UInt8 := (String.singleton c).toUTF8.toList

/-- The byte of a slash. -/
def slash : UInt8 := 47

/-- The byte ranges of a class: a character of several bytes counts as each of them, and a range
runs from the last byte of its first end to the first byte of its last one. -/
def byteRanges (ranges : List (Char × Char)) : List (UInt8 × UInt8) :=
  ranges.flatMap fun (a, b) =>
    let single (x : UInt8) := (x, x)
    if a = b then (bytesOf a).map single
    else
      match (bytesOf a).reverse, bytesOf b with
      | last :: before, first :: after =>
        before.reverse.map single ++ [(last, first)] ++ after.map single
      | _, _ => []

mutual

/-- All ways to choose among the alternatives of pieces. -/
def expand : List GlobPiece → List (List GlobStep)
  | [] => [[]]
  | piece :: rest =>
    let heads := expandPiece piece
    let tails := expand rest
    heads.flatMap fun h => tails.map fun t => h ++ t

/-- All ways to choose within one piece. -/
def expandPiece : GlobPiece → List (List GlobStep)
  | .literal c => [(bytesOf c).map .byte]
  | .anyByte => [[.anyByte]]
  | .star => [[.star]]
  | .deepFront => [[.deepFront]]
  | .deepBack => [[.deepBack]]
  | .deepInside => [[.deepInside]]
  | .class_ negated ranges => [[.oneOf negated (byteRanges ranges)]]
  | .alternatives options =>
    -- Empty options are no options; without any, the group stands for nothing.
    let choices := (expandAll options).filter (!·.isEmpty)
    if choices.isEmpty then [[]] else choices

/-- All ways to choose in one of several options. -/
def expandAll : List (List GlobPiece) → List (List GlobStep)
  | [] => []
  | option :: rest => expand option ++ expandAll rest

end

/-- What can be left of a text after each of its slashes. -/
def afterSlashes : List UInt8 → List (List UInt8)
  | [] => []
  | b :: rest => if b = slash then rest :: afterSlashes rest else afterSlashes rest

/-- What can be left of a text within its first step. -/
def withinStep : List UInt8 → List (List UInt8)
  | [] => [[]]
  | b :: rest => (b :: rest) :: (if b = slash then [] else withinStep rest)

/-- The ends of a text, of every length. -/
def ends : List UInt8 → List (List UInt8)
  | [] => [[]]
  | b :: rest => (b :: rest) :: ends rest

/-- What a step of a glob can leave of a text. -/
def restsAfter : GlobStep → List UInt8 → List (List UInt8)
  | .byte b, c :: rest => if b = c then [rest] else []
  | .oneOf negated ranges, c :: rest =>
    if (ranges.any fun (a, b) => a ≤ c && c ≤ b) != negated then [rest] else []
  | .anyByte, c :: rest => if c = slash then [] else [rest]
  | .star, text => withinStep text
  | .everything, _ => [[]]
  | .deepFront, text => text :: afterSlashes text
  | .deepBack, c :: rest => if c = slash then ends rest else []
  | .deepInside, c :: rest => if c = slash then rest :: afterSlashes rest else []
  | _, [] => []

/-- Whether steps take up a whole text. -/
def matchesSteps : List GlobStep → List UInt8 → Bool
  | [], text => text.isEmpty
  | step :: steps, text => (restsAfter step text).any (matchesSteps steps)

end Glob

/-- A glob made ready for matching. -/
structure Glob where
  choices : List (List GlobStep)
deriving Repr

/-- Read a glob. `**` alone stands for everything. -/
def Glob.compile (text : List Char) : Except GlobFault Glob :=
  (Glob.read text).map fun
    | [.deepFront] => ⟨[[.everything]]⟩
    | pieces => ⟨Glob.expand pieces⟩

/-- Whether a glob matches a path. -/
def Glob.isMatch (g : Glob) (path : List UInt8) : Bool :=
  g.choices.any fun steps => Glob.matchesSteps steps path

end QuietEmit
