/-
  QuietEmit.Text

  Text as a list of characters, measured in UTF-8 bytes.

  Offsets and spans count bytes, so every cut goes through `splitBytes?`, which
  refuses a cut inside a character or past the end. The searches below take the
  first occurrence, reading from the left.
-/

namespace QuietEmit

/-- A half-open range of byte offsets. -/
structure Span where
  start : Nat
  stop : Nat
deriving DecidableEq, Repr, Inhabited

namespace Text

/-! ## Byte lengths and cuts -/

/-- Number of bytes of the UTF-8 form. -/
def utf8Length (cs : List Char) : Nat :=
  cs.foldr (fun c n => c.utf8Size + n) 0

@[simp] theorem utf8Length_nil : utf8Length [] = 0 := rfl

@[simp] theorem utf8Length_cons (c : Char) (cs : List Char) :
    utf8Length (c :: cs) = c.utf8Size + utf8Length cs := rfl

@[simp] theorem utf8Length_append (a b : List Char) :
    utf8Length (a ++ b) = utf8Length a + utf8Length b := by
  induction a with
  | nil => simp
  | cons c cs ih => simp [ih, Nat.add_assoc]

/-- Cut after `n` bytes; `none` when `n` is inside a character or past the end. -/
def splitBytes? : Nat → List Char → Option (List Char × List Char)
  | 0, cs => some ([], cs)
  | _ + 1, [] => none
  | n + 1, c :: cs =>
    if c.utf8Size ≤ n + 1 then
      (splitBytes? (n + 1 - c.utf8Size) cs).map fun (a, b) => (c :: a, b)
    else none
  termination_by _ cs => cs.length

/-- The characters of a span, if both ends are character boundaries in order. -/
def slice? (cs : List Char) (span : Span) : Option (List Char) := do
  let (_, rest) ← splitBytes? span.start cs
  if span.start ≤ span.stop then
    let (inside, _) ← splitBytes? (span.stop - span.start) rest
    return inside
  else none

/-! ## Searching -/

/-- The text before and after the first occurrence of `sep`. -/
def splitOnce? (sep : List Char) : List Char → Option (List Char × List Char)
  | [] => if sep.isEmpty then some ([], []) else none
  | c :: cs =>
    if sep.isPrefixOf (c :: cs) then some ([], (c :: cs).drop sep.length)
    else (splitOnce? sep cs).map fun (a, b) => (c :: a, b)

/-- Whether `part` occurs somewhere. -/
def contains (part cs : List Char) : Bool := (splitOnce? part cs).isSome

/-- Replace the occurrences of `old` from left to right, at most `fuel` of them. -/
def replaceUpTo (old new : List Char) : Nat → List Char → List Char
  | 0, cs => cs
  | fuel + 1, cs =>
    match splitOnce? old cs with
    | none => cs
    | some (a, b) => a ++ new ++ replaceUpTo old new fuel b

/-- Replace every non-overlapping occurrence of the non-empty text `old`. -/
def replaceAll (old new cs : List Char) : List Char :=
  if old.isEmpty then cs else replaceUpTo old new cs.length cs

/-! ## Trimming and lines -/

/-- Drop the longest tail whose characters satisfy `p`. -/
def dropRightWhile (p : Char → Bool) (cs : List Char) : List Char :=
  (cs.reverse.dropWhile p).reverse

/-- Drop such characters at both ends. -/
def trimWhere (p : Char → Bool) (cs : List Char) : List Char :=
  dropRightWhile p (cs.dropWhile p)

/-- The pieces between newlines; the last piece follows the last newline. -/
def lines (cs : List Char) : List (List Char) := cs.splitOn '\n'

end Text

end QuietEmit
