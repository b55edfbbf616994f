/-
  QuietEmit.Toml.Scalar

  Readers for numbers, dates and times.
-/
import QuietEmit.Decimal
import QuietEmit.Toml.Reader
import QuietEmit.Toml.Value

namespace QuietEmit.Toml.Reader

/-! ## Numbers -/

/-- A digit, or a digit after an underscore. -/
def nextDigit (isDigit : Char → Bool) : Reader Char :=
  orElse (one isDigit) do
    discard (one (· == '_'))
    settled (expecting ["digit"] (one isDigit))

/-- Digits with underscores between them. -/
def digits (isDigit : Char → Bool) : Reader (List Char) := do
  let first ← one isDigit
  return first :: (← many (nextDigit isDigit) (← left))

/-- A sign. -/
def sign : Reader (List Char) := do
  match ← optional (one fun c => c == '+' || c == '-') with
  | some c => return [c]
  | none => return []

/-- A whole number in decimal digits, without zeros before it. -/
def decimal : Reader (List Char) :=
  naming "integer" do
    let s ← sign
    let ds ← orElse (do
        let first ← one fun c => c.isDigit && c != '0'
        return first :: (← many (nextDigit Char.isDigit) (← left)))
      ((fun c => [c]) <$> one Char.isDigit)
    return s ++ ds

/-- The value of digits. -/
def valueOf (base : Nat) (ds : List Char) : Nat :=
  ds.foldl (fun n c => n * base + (Unicode.hexDigit? c).getD 0) 0

/-- A number has to fit into 64 bits with a sign. -/
def fitting (place : Nat) (n : Int) : Reader Int :=
  if n > 9223372036854775807 then refuse place "number too large to fit in target type"
  else if n < -9223372036854775808 then refuse place "number too small to fit in target type"
  else return n

/-- A whole number. -/
def integer : Reader Int := do
  let start := (← get).place
  let based (mark subject : String) (base : Nat) : Reader Int := do
    text mark
    let ds ← naming subject (settled (digits fun c => (Unicode.hexDigit? c).any (· < base)))
    fitting start (valueOf base ds)
  orElse (based "0x" "hexadecimal integer" 16)
    (orElse (based "0o" "octal integer" 8)
      (orElse (based "0b" "binary integer" 2) do
        match ← decimal with
        | '-' :: ds => fitting start (-(valueOf 10 ds : Int))
        | '+' :: ds => fitting start (valueOf 10 ds)
        | ds => fitting start (valueOf 10 ds)))

/-- An exponent. -/
def exponent : Reader Int := do
  discard (one fun c => c == 'e' || c == 'E')
  let s ← sign
  let ds ← settled (digits Char.isDigit)
  return if s == ['-'] then -(valueOf 10 ds : Int) else valueOf 10 ds

/-- A number with a fraction or an exponent. One that is too large is refused where it starts. -/
def float : Reader Float :=
  naming "floating-point number" (orElse (do
      let start := (← get).place
      let whole ← decimal
      let (fraction, e) ← orElse (do return (([] : List Char), ← exponent)) do
        discard (one (· == '.'))
        let fraction ← settled (expecting ["digit"] (digits Char.isDigit))
        return (fraction, (← optional exponent).getD 0)
      let (negative, ds) : Bool × List Char := match whole with
        | '-' :: ds => (true, ds)
        | '+' :: ds => (false, ds)
        | ds => (false, ds)
      let fraction := fraction.filter (· != '_')
      let mantissa := valueOf 10 ((ds ++ fraction).filter (· != '_'))
      let shift : Int := e - fraction.length
      let x := Decimal.nearest mantissa shift
      if x.isInf && !negative then throw ⟨true, { place := start }⟩
      return if negative then -x else x)
    (do
      let s ← sign
      let x ← orElse (do
          text "inf"
          return (1.0 / 0.0 : Float))
        (do
          text "nan"
          return (0.0 / 0.0 : Float))
      return if s == ['-'] then -x else x))

/-! ## Dates and times -/

/-- So many digits. -/
def exactDigits (count : Nat) : Reader (List Char) := do
  let s ← get
  let ds := (s.rest.take count).takeWhile Char.isDigit
  if ds.length < count then fail
  set (Input.mk (s.rest.drop count) (s.place + count))
  return ds

/-- Two digits within bounds. -/
def field (low high : Nat) : Reader (List Char) := do
  let start := (← get).place
  let ds ← exactDigits 2
  let n := valueOf 10 ds
  if n < low || n > high then
    throw ⟨false, { place := start, cause := some "value is out of range" }⟩
  return ds

/-- A date. -/
def date : Reader (List Char) := do
  let year ← exactDigits 4
  discard (one (· == '-'))
  let month ← settled (field 1 12)
  settled (discard (one (· == '-')))
  let y := valueOf 10 year
  let isLeap := y % 4 == 0 && (y % 100 != 0 || y % 400 == 0)
  let days := match valueOf 10 month with
    | 2 => if isLeap then 29 else 28
    | 4 | 6 | 9 | 11 => 30
    | _ => 31
  let day ← settled (field 1 days)
  return year ++ ['-'] ++ month ++ ['-'] ++ day

/-- A time of day. -/
def time : Reader (List Char) := do
  let hour ← field 0 23
  discard (one (· == ':'))
  settled do
    let minute ← field 0 59
    discard (one (· == ':'))
    let second ← field 0 60
    let fraction ← optional do
      discard (one (· == '.'))
      let first ← one Char.isDigit
      return '.' :: first :: (← takeWhile Char.isDigit)
    return hour ++ [':'] ++ minute ++ [':'] ++ second ++ fraction.getD []

/-- An offset from the time of reference. -/
def zone : Reader (List Char) :=
  naming "time offset" (orElse ((fun c => [c]) <$> one fun c => c == 'Z' || c == 'z') do
    let s ← one fun c => c == '+' || c == '-'
    let hour ← settled (field 0 23)
    settled (discard (one (· == ':')))
    let minute ← settled (field 0 59)
    return s :: hour ++ [':'] ++ minute)

/-- A date, a time, or both. -/
def datetime : Reader String :=
  orElse (naming "date-time" do
      let d ← date
      let rest ← optional do
        let t ← one fun c => c == 'T' || c == 't' || c == ' '
        let clock ← time
        let offset ← optional zone
        return t :: clock ++ offset.getD []
      return String.ofList (d ++ rest.getD []))
    (naming "time" (String.ofList <$> time))

end QuietEmit.Toml.Reader
