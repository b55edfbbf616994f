/-
  QuietEmit.Text.Similarity

  How alike two texts are: characters match when they are equal and not too far
  apart, and matches out of order count half.
-/
import QuietEmit.Text

namespace QuietEmit.Text

/-- A fraction of natural numbers, the denominator not zero. -/
structure Share where
  part : Nat
  whole : Nat
deriving DecidableEq, Repr

namespace Share

/-- Whether one fraction is less than another. -/
def lt (a b : Share) : Bool := a.part * b.whole < b.part * a.whole

end Share

/-- The first place from `low` on and before `high` where the character stands and that is not
taken. -/
def freePlace? (c : Char) (low high : Nat) (taken : List Nat) (text : List Char) : Option Nat :=
  (List.range text.length).find? fun j =>
    low ≤ j && j < high && text[j]? == some c && !taken.contains j

/-- Pair each character of `a` with the first free equal one of `b` within reach: the places of
the pairs, in the order of `a`. -/
def matchingPlaces (reach : Nat) (b : List Char) : Nat → List Nat → List Char → List (Nat × Nat)
  | _, _, [] => []
  | i, taken, c :: rest =>
    match freePlace? c (i - reach) (i + reach + 1) taken b with
    | some j => (i, j) :: matchingPlaces reach b (i + 1) (j :: taken) rest
    | none => matchingPlaces reach b (i + 1) taken rest

/-- How alike two texts are, from 0 to 1: the mean of the shares of matched characters in each
text, and of the matches that are in order. -/
def similarity (a b : List Char) : Share :=
  match a.length, b.length with
  | 0, 0 => ⟨1, 1⟩
  | 0, _ | _, 0 => ⟨0, 1⟩
  | n, k =>
    let places := matchingPlaces (max n k / 2 - 1) b 0 [] a
    let m := places.length
    if m = 0 then ⟨0, 1⟩
    else
      let fromA := places.filterMap fun (i, _) => a[i]?
      let fromB := ((places.map Prod.snd).mergeSort fun x y => x ≤ y).filterMap fun j => b[j]?
      let moved := (fromA.zip fromB).countP fun (x, y) => x != y
      ⟨m * k * m + m * n * m + (m - moved / 2) * n * k, 3 * n * k * m⟩

/-- The candidate most like a text, if one is more than seven tenths alike; of equals the last. -/
def mostSimilar? (text : String) (candidates : List String) : Option String :=
  let scored := candidates.map fun c => (similarity text.toList c.toList, c)
  let close := scored.filter fun (s, _) => Share.lt ⟨7, 10⟩ s
  (close.foldl (fun best one =>
    match best with
    | some (s, c) => if one.1.lt s then some (s, c) else some one
    | none => some one) none).map Prod.snd

end QuietEmit.Text
