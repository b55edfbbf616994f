/-
  QuietEmit.Decimal

  The double nearest to a decimal number, and the fewest decimal digits that read back
  as the same binary fraction.

  A finite double is m * 2^q. The numbers that round to it form an interval
  around it, whose ends belong to it when m is even. For 1, 2, ... digits, the two
  neighbours of the value on the decimal grid are tried; the first grid with a
  hit decides, and of two hits the nearer one.
-/

namespace QuietEmit.Decimal

/-! ## The nearest double -/

/-- A power of ten that no number with a larger magnitude has a finite double for, and no number
with a smaller one a double other than zero. -/
def farthestPower : Int := 400

/-- The double nearest to `mantissa * 10^power`. Numbers far out of range are settled by their
magnitude alone, so that no large power is ever computed. -/
def nearest (mantissa : Nat) (power : Int) : Float :=
  let magnitude : Int := (mantissa.log2 * 3 / 10 : Nat)
  let atMost : Int := (mantissa.log2 / 3 + 1 : Nat)
  if mantissa == 0 then 0.0
  else if magnitude + power > farthestPower then 1.0 / 0.0
  else if atMost + power < -farthestPower then 0.0
  else Float.ofScientific mantissa (power < 0) power.natAbs

/-! ## The fewest digits -/

/-- A positive decimal number: digits, read as 0.d1d2d3..., times 10 to the exponent. -/
structure Digits where
  digits : List Nat
  exponent : Int
deriving DecidableEq, Repr

/-- A positive double, as mantissa and power of two. -/
structure Binary where
  mantissa : Nat
  power : Int
  /-- The next smaller double is only half as far away as the next larger one. -/
  atBinade : Bool
deriving DecidableEq, Repr

/-- Take apart the bits of a positive finite double. -/
def Binary.ofBits (bits : Nat) : Binary :=
  let fraction : Nat := bits % Nat.pow 2 52
  let biased : Nat := bits / Nat.pow 2 52 % Nat.pow 2 11
  if biased == 0 then ⟨fraction, -1074, false⟩
  else ⟨fraction + Nat.pow 2 52, (biased : Int) - 1075, fraction == 0 && biased > 1⟩

/-- The whole part of a double. -/
def Binary.whole (b : Binary) : Nat :=
  if b.power ≥ 0 then b.mantissa * Nat.pow 2 b.power.toNat
  else b.mantissa / Nat.pow 2 (-b.power).toNat

/-- A positive fraction. -/
structure Ratio where
  num : Nat
  den : Nat

/-- `m * 2^q` as a fraction. -/
def Ratio.ofPower (m : Nat) (q : Int) : Ratio :=
  if q ≥ 0 then ⟨m * Nat.pow 2 q.toNat, 1⟩ else ⟨m, Nat.pow 2 (-q).toNat⟩

/-- Multiply a fraction by a power of ten. -/
def Ratio.scale (r : Ratio) (k : Int) : Ratio :=
  if k ≥ 0 then ⟨r.num * Nat.pow 10 k.toNat, r.den⟩ else ⟨r.num, r.den * Nat.pow 10 (-k).toNat⟩

/-- The exponent `e` for which the fraction lies between 10^(e-1) and 10^e. -/
def Ratio.magnitude (r : Ratio) : Int :=
  let guess : Int := ((toString r.num).length : Int) - ((toString r.den).length : Int)
  let s := r.scale (-guess)
  if s.num ≥ s.den then guess + 1 else guess

/-- Whether the integer `n`, scaled by 10^-k, reads back as the double. -/
def Binary.readsBack (b : Binary) (k : Int) (n : Nat) : Bool :=
  -- Four times the mantissa makes both half-way points whole.
  let low := Ratio.scale (Ratio.ofPower (4 * b.mantissa - (if b.atBinade then 1 else 2)) (b.power - 2)) k
  let high := Ratio.scale (Ratio.ofPower (4 * b.mantissa + 2) (b.power - 2)) k
  if b.mantissa % 2 == 0 then low.num ≤ n * low.den && n * high.den ≤ high.num
  else low.num < n * low.den && n * high.den < high.num

/-- Digits of a number, most significant first. -/
def digitsOf (n : Nat) : List Nat := (toString n).toList.map fun c => c.toNat - 48

/-- Drop zeros at the end. -/
def dropZeros (ds : List Nat) : List Nat := (ds.reverse.dropWhile (· == 0)).reverse

/-- Try the grids with `count` digits and more, `fuel` of them. -/
def Binary.search (b : Binary) (value : Ratio) (magnitude : Int) : Nat → Nat → Digits
  | 0, _ => ⟨[], 0⟩
  | fuel + 1, count =>
    let k : Int := (count : Int) - magnitude
    let s := value.scale k
    let below := s.num / s.den
    let hit (n : Nat) : Digits :=
      let ds := digitsOf n
      ⟨dropZeros ds, (ds.length : Int) - k⟩
    let lowHit := below > 0 && b.readsBack k below
    let highHit := b.readsBack k (below + 1)
    let rest := s.num % s.den
    if lowHit && highHit then
      if 2 * rest < s.den || (2 * rest == s.den && below % 2 == 0) then hit below else hit (below + 1)
    else if lowHit then hit below
    else if highHit then hit (below + 1)
    else b.search value magnitude fuel (count + 1)

/-- The shortest digits of a positive finite double, given by its bits. -/
def shortestOfBits (bits : Nat) : Digits :=
  let b := Binary.ofBits bits
  let value := Ratio.ofPower b.mantissa b.power
  b.search value value.magnitude 18 1

/-- Digits as text. -/
def digitText (ds : List Nat) : String :=
  String.ofList (ds.map fun d => Char.ofNat (48 + d))

/-- Positional text: all digits, with a point only if a fraction remains. -/
def Digits.positional (d : Digits) : String :=
  let n : Int := d.digits.length
  if d.exponent ≥ n then digitText (d.digits ++ List.replicate (d.exponent - n).toNat 0)
  else if d.exponent > 0 then
    digitText (d.digits.take d.exponent.toNat) ++ "." ++ digitText (d.digits.drop d.exponent.toNat)
  else "0." ++ digitText (List.replicate (-d.exponent).toNat 0 ++ d.digits)

/-- Positional text of a finite double with its sign; zero is `0`. -/
def positional (x : Float) : String :=
  let bits := x.toBits.toNat
  let sign := if bits ≥ Nat.pow 2 63 then "-" else ""
  let size := bits % Nat.pow 2 63
  if size == 0 then sign ++ "0" else sign ++ (shortestOfBits size).positional

/-- Positional text of any double. -/
def shown (x : Float) : String :=
  if x.isNaN then "NaN"
  else if x.isInf then (if x < 0 then "-inf" else "inf")
  else positional x

/-- Positional text that always shows a point. -/
def withPoint (x : Float) : String :=
  let text := positional x
  if text.toList.contains '.' then text else text ++ ".0"

end QuietEmit.Decimal
