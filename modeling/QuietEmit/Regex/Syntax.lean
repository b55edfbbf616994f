/-
  QuietEmit.Regex.Syntax

  Regular expressions as written: the syntax tree of a pattern, with the places
  that error messages point at.
-/
import QuietEmit.Unicode.Ranges

namespace QuietEmit.Regex

/-- A place in the pattern, counted in characters. Lines and columns start at 1. -/
structure Place where
  offset : Nat
  line : Nat
  column : Nat
deriving DecidableEq, Repr, Inhabited

/-- The part of the pattern from `start` up to `stop`. -/
structure Extent where
  start : Place
  stop : Place
deriving DecidableEq, Repr, Inhabited

/-- Whether the extent stays on one line. -/
def Extent.isOneLine (e : Extent) : Bool := e.start.line == e.stop.line

/-- Flags that a pattern can switch on and off. -/
inductive Flag where
  | ignoreCase
  | multiLine
  | dotMatchesNewline
  | swapGreed
  | unicode
  | crlf
  | ignoreBlanks
deriving DecidableEq, Repr

/-- One entry of a flag group. -/
inductive FlagItem where
  | negation
  | flag (f : Flag)
deriving DecidableEq, Repr

/-- Conditions on a position that match no character. -/
inductive Look where
  | textStart
  | textEnd
  | lineStart
  | lineEnd
  | wordBoundary
  | notWordBoundary
  | wordStart
  | wordEnd
  | wordStartHalf
  | wordEndHalf
deriving DecidableEq, Repr

/-- The classes with a one-letter escape. -/
inductive PerlClass where
  | digit
  | space
  | word
deriving DecidableEq, Repr

/-- What stands between the braces of a property class. -/
inductive PropertyQuery where
  | name (text : String)
  | value (unequal : Bool) (name value : String)
deriving DecidableEq, Repr

/-- The three ways of combining two classes. -/
inductive ClassOp where
  | intersection
  | difference
  | symmetricDifference
deriving DecidableEq, Repr

/-- A character of a bracketed class; `isByte` when two hexadecimal digits give it. -/
structure ClassChar where
  extent : Extent
  c : Char
  isByte : Bool := false
deriving DecidableEq, Repr

/-- The contents of a bracketed class. -/
inductive ClassItem where
  | empty
  | literal (char : ClassChar)
  | range (first last : ClassChar)
  | ascii (extent : Extent) (name : String) (negated : Bool)
  | property (extent : Extent) (negated : Bool) (query : PropertyQuery)
  | perl (extent : Extent) (kind : PerlClass) (negated : Bool)
  | bracket (extent : Extent) (negated : Bool) (inside : ClassItem)
  | union (items : List ClassItem)
  | op (kind : ClassOp) (left right : ClassItem)

/-- How a group was opened. -/
inductive GroupKind where
  | capture (index : Nat) (name : Option String)
  | flags (items : List FlagItem)

/-- A parsed pattern. -/
inductive Node where
  | empty
  | setFlags (items : List FlagItem)
  | literal (extent : Extent) (c : Char) (isByte : Bool)
  | dot (extent : Extent)
  | look (kind : Look)
  | line (start : Bool)
  | property (extent : Extent) (negated : Bool) (query : PropertyQuery)
  | perl (extent : Extent) (kind : PerlClass) (negated : Bool)
  | bracket (extent : Extent) (negated : Bool) (inside : ClassItem)
  | repeated (extent : Extent) (least : Nat) (most : Option Nat) (greedy : Bool) (body : Node)
  | group (extent : Extent) (kind : GroupKind) (body : Node)
  | alternatives (extent : Extent) (options : List Node)
  | sequence (extent : Extent) (items : List Node)

end QuietEmit.Regex
