/-
  QuietEmit.Text.Wrapping

  Filling lines of a given width. Every line costs something, and the more the
  more room it leaves; the lines are those that cost least together. A line that
  is too wide costs far more than any room, and so does nothing but one short
  piece on the last line cost a little.
-/
import QuietEmit.Text
import QuietEmit.Unicode.LineBreak
import QuietEmit.Unicode.Properties

namespace QuietEmit.Text

/-- A part of a text that is not broken, and the spaces after it. -/
structure Piece where
  text : List Char
  spaces : Nat := 0
deriving DecidableEq, Repr, Inhabited

namespace Piece

/-- Columns of the text, without the spaces. -/
def width (p : Piece) : Nat := Unicode.textWidth p.text

/-- Take the spaces at the end of a part. -/
def ofPart (part : List Char) : Piece :=
  let text := dropRightWhile (· == ' ') part
  ⟨text, part.length - text.length⟩

/-- Whether a character is a letter or a number. -/
def isWordChar (c : Char) : Bool := Unicode.isAlphabetic c || Unicode.isNumeric c

/-- Cut a text after the hyphens between letters or numbers. -/
def hyphenParts : List Char → List Char → List (List Char)
  | part, [] => [part.reverse]
  | part, '-' :: rest =>
    if part.head?.any isWordChar && rest.head?.any isWordChar then
      ('-' :: part).reverse :: hyphenParts [] rest
    else hyphenParts ('-' :: part) rest
  | part, c :: rest => hyphenParts (c :: part) rest

/-- Cut a text that is wider than a line; `filled` columns of the first part are `part`. -/
def chunks (limit : Nat) : Nat → List Char → List (Bool × Char) → List (List Char)
  | _, part, [] => if part.isEmpty then [] else [part.reverse]
  | filled, part, (shown, c) :: rest =>
    let w := if shown then Unicode.width c else 0
    if filled > 0 && filled + w > limit then part.reverse :: chunks limit w [c] rest
    else chunks limit (filled + w) (c :: part) rest

/-- The spaces of a piece go to the last of its parts. -/
def distribute (p : Piece) (parts : List (List Char)) : List Piece :=
  match parts.reverse with
  | [] => []
  | last :: before => before.reverse.map (Piece.mk · 0) ++ [⟨last, p.spaces⟩]

/-- Cut a piece after its hyphens. -/
def splitHyphens (p : Piece) : List Piece := p.distribute (hyphenParts [] p.text)

/-- Cut a piece that is wider than a line. -/
def fitting (limit : Nat) (p : Piece) : List Piece :=
  if p.width > limit then p.distribute (chunks limit 0 [] (Unicode.Escape.outside.marked p.text))
  else [p]

/-- The pieces of a line of text, after an empty one. -/
def ofLine (limit : Nat) (line : List Char) : List Piece :=
  ⟨[], 0⟩ :: (((Unicode.lineParts line).map ofPart).flatMap splitHyphens).flatMap (fitting limit)

/-- The text of pieces on one line; the spaces after the last one are left out. -/
def joined : List Piece → List Char
  | [] => []
  | [p] => p.text
  | p :: rest => p.text ++ List.replicate p.spaces ' ' ++ joined rest

end Piece

/-! ## Costs -/

/-- The cost of a line of so many columns: `last` for the last line, `single` for a line of one
piece. -/
def lineCost (limit width : Nat) (last single : Bool) : Nat :=
  1000 +
    if width > limit then (width - limit) * 2500
    else if !last then (limit - width) * (limit - width)
    else if single && width * 4 < limit then 25
    else 0

/-- A way to fill lines up to some piece, the later lines first, and the pieces after it, the
later ones first. -/
structure Filling where
  cost : Nat := 0
  lines : List (List Piece) := []
  pending : List Piece := []
  /-- Columns of the open pieces with their spaces. -/
  width : Nat := 0
deriving Repr, Inhabited

namespace Filling

/-- Add an open piece. -/
def push (f : Filling) (p : Piece) : Filling :=
  { f with pending := p :: f.pending, width := f.width + p.width + p.spaces }

/-- Put the open pieces on a line. -/
def close (limit : Nat) (last : Bool) (f : Filling) : Filling :=
  let spaces := (f.pending.head?.map (·.spaces)).getD 0
  { cost := f.cost + lineCost limit (f.width - spaces) last (f.pending.length == 1)
    lines := f.pending.reverse :: f.lines }

/-- The first of the fillings that cost least. -/
def cheapest : Filling → List Filling → Filling
  | f, [] => f
  | f, g :: rest => cheapest (if g.cost < f.cost then g else f) rest

/-- One more piece: every filling may be continued or its line closed. -/
def extend (limit : Nat) (fillings : List Filling) (p : Piece) (last : Bool) : List Filling :=
  let pushed := fillings.map (·.push p)
  match pushed.map (close limit last) with
  | [] => pushed
  | f :: rest => pushed ++ [cheapest f rest]

/-- The best lines for pieces, starting from all ways to fill lines up to them. -/
def best (limit : Nat) : List Filling → List Piece → List (List Piece)
  | fillings, [] => ((fillings.getLast?.map (·.lines)).getD []).reverse
  | fillings, p :: rest => best limit (extend limit fillings p rest.isEmpty) rest

end Filling

/-- Fill lines of `limit` columns with one line of text. -/
def wrapLine (limit : Nat) (line : List Char) : List (List Char) :=
  (Filling.best (max limit 1) [{}] (Piece.ofLine limit line)).map Piece.joined

/-- Fill lines of `limit` columns with a text of several lines. -/
def wrap (limit : Nat) (text : List Char) : List (List Char) :=
  (lines text).flatMap (wrapLine limit)

/-- Fill lines and put one text before the first of them and another before the others. -/
def wrapIndented (limit : Nat) (first others : String) (text : String) : String :=
  match wrap limit text.toList with
  | [] => ""
  | line :: rest =>
    "\n".intercalate ((first ++ String.ofList line) :: rest.map fun l => others ++ String.ofList l)

end QuietEmit.Text
