/-
  QuietEmit.Regex.Size

  How much room an expression takes as an automaton over the bytes of UTF-8. It is
  laid out twice, once for each direction of reading, and a limit holds for either.
-/
import QuietEmit.Regex.Meaning

namespace QuietEmit.Regex

/-! ## Bytes of characters -/

/-- Bytes from one to another. -/
abbrev ByteRange := Nat × Nat

/-- A character's bytes, each from a range. -/
abbrev ByteSequence := List ByteRange

/-- The sequences for the numbers `lo` to `hi` in digits of base 64, the first of them added to
`lead` and `n` others to the mark of bytes that continue. -/
def sequencesOf (lead : Nat) : Nat → Nat → Nat → List ByteSequence
  | 0, lo, hi => [[(lead + lo, lead + hi)]]
  | n + 1, lo, hi =>
    let block := Nat.pow 64 (n + 1)
    let begun (digit start stop : Nat) : List ByteSequence :=
      (sequencesOf 0x80 n start stop).map ((lead + digit, lead + digit) :: ·)
    let first := lo / block
    let last := hi / block
    if first == last then begun first (lo % block) (hi % block)
    else
      let cutsFirst := lo % block != 0
      let cutsLast := hi % block != block - 1
      let start := if cutsFirst then first + 1 else first
      let stop := if cutsLast then last else last + 1
      let whole := List.replicate (n + 1) (0x80, 0xBF)
      (if cutsFirst then begun first (lo % block) (block - 1) else []) ++
        (if start < stop then [(lead + start, lead + stop - 1) :: whole] else []) ++
        (if cutsLast then begun last 0 (hi % block) else [])

/-- The sequences for a range of code points: those of one length after another. -/
def encodings (lo hi : Nat) : List ByteSequence :=
  let lengths : List (Nat × Nat × Nat × Nat) :=
    [(0, 0, 0, 0x7F), (0xC0, 1, 0x80, 0x7FF), (0xE0, 2, 0x800, 0xFFFF), (0xF0, 3, 0x10000, 0x10FFFF)]
  lengths.flatMap fun (lead, n, least, most) =>
    let start := max lo least
    let stop := min hi most
    if start ≤ stop then sequencesOf lead n start stop else []

/-- Sequences by their first bytes. -/
def byFirst (ss : List ByteSequence) : List (ByteRange × List ByteSequence) :=
  (ss.splitBy fun a b => a.head? == b.head?).filterMap fun group =>
    group.head?.bind fun s => s.head?.map fun r => (r, group.map List.tail)

/-! ## Room -/

/-- The room of a state of an automaton, of a transition beyond its first, and of a choice. -/
def stateRoom : Nat := 32
def transitionRoom : Nat := 8
def choiceRoom : Nat := 4

/-- The sum of rooms. -/
def total (rooms : List Nat) : Nat := rooms.foldl (· + ·) 0

/-- What may follow at the states for some sequences, `depth` bytes deep. -/
def followers : Nat → List ByteSequence → List (List ByteSequence)
  | 0, _ => []
  | depth + 1, ss =>
    ss :: (byFirst ss).flatMap fun (_, tails) =>
      if tails == [[]] then [] else followers depth tails

/-- The number of different beginnings of sequences, `depth` bytes long at most. -/
def beginnings : Nat → List ByteSequence → Nat
  | 0, _ => 0
  | depth + 1, ss => total ((byFirst ss).map fun (_, tails) => 1 + beginnings depth tails)

/-- The longest sequence of bytes for a character. -/
def longestEncoding : Nat := 4

/-- The room of sequences: read forward, states with the same future are shared, and read backward,
those with the same bytes behind them. -/
def sequencesRoom (backward : Bool) (ss : List ByteSequence) : Nat :=
  if backward then
    2 * stateRoom + choiceRoom * ss.length + stateRoom * beginnings longestEncoding ss
  else
    let states := (followers longestEncoding ss).eraseDups
    stateRoom + total (states.map fun s => stateRoom + transitionRoom * (byFirst s).length)

/-- The room of a set with these ranges. -/
def rangesRoom (backward : Bool) (rs : List (Nat × Nat)) : Nat :=
  match rs with
  | [(lo, hi)] =>
    if lo == hi then stateRoom * (Char.ofNat lo).utf8Size else several rs
  | _ => several rs
where
  /-- The room of several characters. -/
  several (rs : List (Nat × Nat)) : Nat :=
    if rs.all fun r => r.2 < 0x80 then 2 * stateRoom + transitionRoom * rs.length
    else sequencesRoom backward (rs.flatMap fun r => encodings r.1 r.2)

/-! ## Expressions -/

/-- Whether the expression can match nothing but the empty text. -/
def Expr.isWidthless : Expr → Bool
  | .empty | .anchor _ => true
  | .char _ => false
  | .sequence items => items.attach.all fun ⟨e, _⟩ => e.isWidthless
  | .alternatives items => items.attach.all fun ⟨e, _⟩ => e.isWidthless
  | .repeated _ _ _ body => body.isWidthless
  | .capture _ body => body.isWidthless

/-- The set of an expression for one character. -/
def Expr.charSet? : Expr → Option CharSet
  | .char set => some set
  | _ => none

/-- The room of a repetition of something that takes `room`. -/
def repeatedRoom (nullable : Bool) (room least : Nat) (most : Option Nat) : Nat :=
  let choice := stateRoom + 2 * choiceRoom
  match least, most with
  | 0, some 0 => stateRoom
  | 1, some 1 => room
  | 0, some 1 => choice + stateRoom + room
  | 0, none => if nullable then room + 2 * choice + stateRoom else choice + room
  | n, none => n * room + choice
  | n, some m =>
    if n == m then n * room
    else (if n == 0 then stateRoom else n * room) + stateRoom + (m - n) * (choice + room)

/-- The room of an expression, where `set` tells that of a set. Groups are kept only when reading
forward. -/
def Expr.room (backward : Bool) (set : CharSet → Nat) : Expr → Nat
  | .empty | .anchor _ => stateRoom
  | .char s => set s
  | .sequence items =>
    let rooms := items.attach.map fun ⟨e, _⟩ =>
      match e with
      | .empty => 0
      | _ => e.room backward set
    max stateRoom (total rooms)
  | .alternatives items =>
    match items.mapM Expr.charSet? with
    | some (first :: rest) => set (rest.foldl CharSet.union first)
    | _ =>
      let rooms := items.attach.map fun ⟨e, _⟩ => e.room backward set
      2 * stateRoom + choiceRoom * items.length + total rooms
  | .repeated least most _ body =>
    let (least, most) :=
      if body.isWidthless then (min least 1, some (min (most.getD 1) 1)) else (least, most)
    repeatedRoom body.nullable (body.room backward set) least most
  | .capture _ body => (if backward then 0 else 2 * stateRoom) + body.room backward set

/-- The room of what stands around every expression: the whole match, and what comes before it. -/
def aroundRoom (backward : Bool) : Nat :=
  (if backward then 0 else 2 * stateRoom) + 4 * stateRoom + 4 * choiceRoom

/-- A room that no set exceeds: of one told by tables, and of one with as many ranges as edges. -/
def mostRoom (s : CharSet) : Nat :=
  if s.isTabled || s.isFolded then 250000 else 2500 * (s.edges.length + 1)

/-- The most room that a pattern may take. -/
def roomLimit : Nat := 10485760

/-- Whether an expression takes more room than it may. Only where that is in doubt are its sets
laid out. -/
def Expr.isTooLarge (e : Expr) : Bool :=
  let exceeds (backward : Bool) : Bool :=
    e.room backward (fun s => rangesRoom backward s.ranges) + aroundRoom backward > roomLimit
  e.room false mostRoom + aroundRoom false > roomLimit && (exceeds false || exceeds true)

end QuietEmit.Regex
