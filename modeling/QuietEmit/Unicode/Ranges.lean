/-
  QuietEmit.Unicode.Ranges

  Sets of code points written as lists of ranges. The tables of the Unicode
  standard are kept as text and decoded: a word is a hexadecimal code point
  ("AA"), a range of them ("41-5A"), or some of a range at regular distances
  ("100-12E/2").
-/

namespace QuietEmit.Unicode

/-- Every `step`-th code point from `lo` to `hi`, both included. -/
structure Range where
  lo : Nat
  hi : Nat
  step : Nat := 1
deriving DecidableEq, Repr

namespace Range

/-- Whether the range holds the code point. -/
def has (r : Range) (n : Nat) : Bool := r.lo ≤ n && n ≤ r.hi && (n - r.lo) % r.step == 0

end Range

/-- Value of a hexadecimal digit, either case. -/
def hexDigit? (c : Char) : Option Nat :=
  if '0' ≤ c && c ≤ '9' then some (c.toNat - '0'.toNat)
  else if 'a' ≤ c && c ≤ 'f' then some (c.toNat - 'a'.toNat + 10)
  else if 'A' ≤ c && c ≤ 'F' then some (c.toNat - 'A'.toNat + 10)
  else none

/-- The number spelt by hexadecimal digits; other characters count as zero. -/
def hexValue (cs : List Char) : Nat :=
  cs.foldl (fun n c => n * 16 + (hexDigit? c).getD 0) 0

/-- The number spelt by decimal digits. -/
def decimalValue (cs : List Char) : Nat := cs.foldl (fun n c => n * 10 + (c.toNat - 48)) 0

/-- One word of a table. -/
def Range.ofWord (word : List Char) : Range :=
  let bounds := word.takeWhile (· != '/')
  let step := match word.dropWhile (· != '/') with
    | _ :: step => decimalValue step
    | [] => 1
  let lo := hexValue (bounds.takeWhile (· != '-'))
  match bounds.dropWhile (· != '-') with
  | _ :: hi => ⟨lo, hexValue hi, step⟩
  | [] => ⟨lo, lo, 1⟩

/-- Decode the lines of a table. -/
def decode (rows : List String) : List Range :=
  (rows.flatMap fun row => row.toList.splitOn ' ').map Range.ofWord

/-- Whether some range of the list holds the character. -/
def inRanges (rs : List Range) (c : Char) : Bool := rs.any (·.has c.toNat)

end QuietEmit.Unicode
