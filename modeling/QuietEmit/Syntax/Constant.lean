/-
  QuietEmit.Syntax.Constant

  Expressions whose value is known without running the module.
-/
import QuietEmit.Syntax.Printer.Literals
import QuietEmit.Syntax.Tree

namespace QuietEmit.Syntax

/-- A known value. -/
inductive Constant where
  | number (value : Float)
  | text (value : String)
deriving Repr, Inhabited

namespace Constant

/-! ## Whole numbers of 32 bits -/

/-- The whole part of the size of a finite number. -/
def wholeSize (x : Float) : Nat := (Decimal.Binary.ofBits x.toBits.toNat).whole

/-- The last 32 bits of the whole part of a number. -/
def bits (x : Float) : UInt32 :=
  if x.isNaN || x.isInf then 0
  else
    let size := UInt32.ofNat (wholeSize x)
    if x < 0 then -size else size

/-- The number with these bits, the first of them a sign. -/
def ofSigned (n : UInt32) : Float := Float.ofInt n.toInt32.toInt

/-- The number with these bits. -/
def ofUnsigned (n : UInt32) : Float := Float.ofNat n.toNat

/-- The bits moved right, the sign repeated. -/
def shiftSigned (a b : UInt32) : Float :=
  Float.ofInt (a.toInt32.toInt / (Nat.pow 2 (b.toNat % 32) : Nat))

/-! ## Operators -/

/-- What is left of a number after whole multiples of another one, with the sign of the first. It
is exact: both are whole multiples of the same power of two. -/
def remainder (x y : Float) : Float :=
  if x.isNaN || y.isNaN || x.isInf || y == 0 then 0.0 / 0.0
  else if y.isInf then x
  else
    let a := Decimal.Binary.ofBits x.toBits.toNat
    let b := Decimal.Binary.ofBits y.toBits.toNat
    let power := min a.power b.power
    let multiple (c : Decimal.Binary) : Nat := c.mantissa * Nat.pow 2 (c.power - power).toNat
    let size := (Float.ofNat (multiple a % multiple b)).scaleB power
    if x.toBits >>> 63 == 1 then -size else size

/-- A number as text. -/
def numberText (x : Float) : String :=
  if x.isNaN then "NaN"
  else if x < 0 then "-" ++ positive x.abs
  else positive x
where
  /-- The text of a number that is not negative. -/
  positive (x : Float) : String := if x.isInf then "Infinity" else Literal.plainNumber x

/-- The text of a constant. -/
def toText : Constant → String
  | .number x => numberText x
  | .text s => s

/-- An operator between constants. -/
def binary? (operator : String) (a b : Constant) : Option Constant :=
  match operator, a, b with
  | "+", .number x, .number y => some (.number (x + y))
  | "+", _, _ => some (.text (a.toText ++ b.toText))
  | _, .number x, .number y =>
    match operator with
    | "-" => some (.number (x - y))
    | "*" => some (.number (x * y))
    | "/" => some (.number (x / y))
    | "%" => some (.number (remainder x y))
    | "**" => some (.number (x ^ y))
    | "|" => some (.number (ofSigned (bits x ||| bits y)))
    | "&" => some (.number (ofSigned (bits x &&& bits y)))
    | "^" => some (.number (ofSigned (bits x ^^^ bits y)))
    | "<<" => some (.number (ofSigned (bits x <<< (bits y % 32))))
    | ">>" => some (.number (shiftSigned (bits x) (bits y)))
    | ">>>" => some (.number (ofUnsigned (bits x >>> (bits y % 32))))
    | _ => none
  | _, _, _ => none

/-- An operator before a constant; most operators leave a text as it is. -/
def unary? (operator : String) (a : Constant) : Option Constant :=
  match operator, a with
  | "-", .text _ => some (.number (0.0 / 0.0))
  | "~", .text _ => some (.number (-1))
  | _, .text s => some (.text s)
  | "+", .number x => some (.number x)
  | "-", .number x => some (.number (-x))
  | "~", .number x => some (.number (ofSigned (~~~ (bits x))))
  | _, _ => none

/-! ## Expressions -/

/-- The text of a template whose substitutions are known. -/
def templateText : List String → List Constant → String
  | [], _ => ""
  | s :: rest, c :: cs => StringLiteral.templateText s ++ c.toText ++ templateText rest cs
  | s :: rest, [] => StringLiteral.templateText s ++ templateText rest []

/-- The value of an expression, where names have the values that `value?` knows; a member of an
object is looked up by the object's name too. -/
def ofExpression? (value? : Option String → String → Option Constant) : Tree → Option Constant :=
  Tree.recurse fun form _ parts =>
    let result (i : Nat) : Option Constant := (parts[i]?).bind Prod.snd
    let tree (i : Nat) : Tree := ((parts[i]?).map Prod.fst).getD Tree.none
    match form with
    | .number raw => some (.number (Literal.numberValue raw))
    | .string s _ => some (.text s)
    | .template texts =>
      (parts.mapM Prod.snd).map fun cs => .text (templateText texts cs)
    | .identifier "Infinity" => some (.number (1.0 / 0.0))
    | .identifier "NaN" => some (.number (0.0 / 0.0))
    | .identifier n => value? none n
    | .member false =>
      match (tree 0).name?, (tree 1).name? with
      | some o, some n => value? (some o) n
      | _, _ => none
    | .computedMember false =>
      match (tree 0).name?, tree 1 with
      | some o, .node (.string n _) _ _ => value? (some o) n
      | some o, .node (.template [s]) _ _ => value? (some o) (StringLiteral.templateText s)
      | _, _ => none
    | .paren => result 0
    | .unary operator => (result 0).bind (unary? operator)
    | .binary operator =>
      match result 0, result 1 with
      | some a, some b => binary? operator a b
      | _, _ => none
    | _ => none

end Constant

end QuietEmit.Syntax
