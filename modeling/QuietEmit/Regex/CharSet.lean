/-
  QuietEmit.Regex.CharSet

  Sets of characters: what belongs to one, and where it may begin or end, which
  gives its ranges without asking every character.
-/
import QuietEmit.Unicode.Age
import QuietEmit.Unicode.CaseFold
import QuietEmit.Unicode.Segment

namespace QuietEmit.Regex

/-- A set of characters. -/
structure CharSet where
  has : Char → Bool
  /-- Code points where the set may begin or end. -/
  edges : List Nat := []
  /-- It may begin or end where a set of the standard does, too. -/
  isTabled : Bool := false
  /-- It is closed under case. -/
  isFolded : Bool := false

namespace CharSet

/-! ## Making sets -/

/-- The characters from one to another. -/
def range (first last : Char) : CharSet :=
  ⟨fun c => first ≤ c && c ≤ last, [first.toNat, last.toNat + 1], false, false⟩

/-- Some characters. -/
def ofList (cs : List Char) : CharSet :=
  ⟨cs.contains, cs.flatMap fun c => [c.toNat, c.toNat + 1], false, false⟩

/-- A set of characters of ASCII alone. -/
def ascii (has : Char → Bool) : CharSet :=
  ⟨fun c => c.toNat < 128 && has c, List.range 129, false, false⟩

/-- A set of the standard. -/
def tabled (has : Char → Bool) : CharSet := ⟨has, [], true, false⟩

/-- The characters of two sets for which a condition holds. -/
def combine (condition : Bool → Bool → Bool) (a b : CharSet) : CharSet :=
  ⟨fun c => condition (a.has c) (b.has c), a.edges ++ b.edges, a.isTabled || b.isTabled,
    a.isFolded || b.isFolded⟩

/-- The characters of either set. -/
def union (a b : CharSet) : CharSet := combine (· || ·) a b

/-- The complement when `negated`. -/
def negateIf (negated : Bool) (s : CharSet) : CharSet := { s with has := fun c => s.has c != negated }

/-- Close a set under case, over all characters or over ASCII alone. -/
def fold (unicode : Bool) (s : CharSet) : CharSet :=
  if unicode then
    { s with
      has := fun c => s.has c || (Unicode.CaseFold.equivalents c).any s.has
      isFolded := true }
  else
    { s with
      has := fun c => s.has c || (c.isAlpha && (s.has c.toLower || s.has c.toUpper))
      edges := s.edges ++ List.range 129 }

/-! ## Ranges -/

/-- Where ranges of a table begin, and where they have ended. -/
def edgesOf (rs : List Unicode.Range) : List Nat :=
  rs.flatMap fun r =>
    if r.step == 1 then [r.lo, r.hi + 1]
    else (List.range ((r.hi - r.lo) / r.step + 1)).flatMap fun i =>
      [r.lo + i * r.step, r.lo + i * r.step + 1]

/-- The edges of the sets of the standard. -/
def tableEdges : List Nat :=
  let rows (table : List (String × List String)) : List Nat :=
    table.flatMap fun e => edgesOf (Unicode.decode e.2)
  List.range 0x100 ++ (Unicode.Category.named.flatMap fun e => edgesOf e.2.2) ++
    rows Unicode.Script.table ++ rows Unicode.Age.table ++ rows Unicode.Binary.table ++
    edgesOf (Unicode.decode (Unicode.Script.extensions.map Prod.fst)) ++
    edgesOf Unicode.otherAlphabetic ++ rows Unicode.Segment.clusterTable ++
    rows Unicode.Segment.wordTable ++ rows Unicode.Segment.sentenceTable

/-- The edges of what folds by the same distance, and of what that folds to. -/
def foldEdges : List Nat :=
  Unicode.CaseFold.runs.flatMap fun r =>
    let own := edgesOf [⟨r.lo, r.hi, r.step⟩]
    own ++ own.map fun (n : Nat) => ((n : Int) + r.delta).toNat

/-- Edges, and those of the characters that are equal up to case to the ones beside them. -/
def foldedEdges (es : List Nat) : List Nat :=
  es ++ foldEdges ++ es.flatMap fun e =>
    (Unicode.CaseFold.equivalents (Char.ofNat e)).map Char.toNat ++
      (Unicode.CaseFold.equivalents (Char.ofNat (e - 1))).map fun c => c.toNat + 1

/-- All the places where a set may begin or end, in order. -/
def allEdges (s : CharSet) : List Nat :=
  let own := s.edges ++ if s.isTabled then tableEdges else []
  let all := 0 :: 0xD800 :: 0xE000 :: if s.isFolded then foldedEdges own else own
  ((all.filter Nat.isValidChar).mergeSort (· ≤ ·)).splitBy (· == ·) |>.filterMap List.head?

/-- The ranges of a set between its edges; neighbours are put together. -/
def rangesBetween (has : Char → Bool) : List Nat → List (Nat × Nat)
  | [] => []
  | p :: rest =>
    let stop := if p < 0xD800 then min (rest.headD 0xD800) 0xD800 else rest.headD 0x110000
    let later := rangesBetween has rest
    if !has (Char.ofNat p) then later
    else
      match later with
      | (lo, hi) :: others => if lo == stop then (p, hi) :: others else (p, stop - 1) :: later
      | [] => [(p, stop - 1)]

/-- The ranges of code points of a set, in order. -/
def ranges (s : CharSet) : List (Nat × Nat) := rangesBetween s.has s.allEdges

end CharSet

end QuietEmit.Regex
