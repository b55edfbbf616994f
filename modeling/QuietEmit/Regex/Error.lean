/-
  QuietEmit.Regex.Error

  Why a pattern is refused, and how the message shows the place: the pattern is
  quoted with carets below the offending part, with line numbers when it has
  several lines.
-/
import QuietEmit.Text
import QuietEmit.Regex.Syntax

namespace QuietEmit.Regex

/-- Causes found while reading or interpreting a pattern. -/
inductive Cause where
  | classEscapeInvalid
  | classRangeInvalid
  | classRangeLiteral
  | classUnclosed
  | decimalEmpty
  | decimalInvalid
  | escapeHexEmpty
  | escapeHexInvalid
  | escapeHexInvalidDigit
  | escapeUnexpectedEnd
  | escapeUnrecognized
  | flagDanglingNegation
  | flagDuplicate
  | flagRepeatedNegation
  | flagUnexpectedEnd
  | flagUnrecognized
  | groupNameDuplicate
  | groupNameEmpty
  | groupNameInvalid
  | groupNameUnexpectedEnd
  | groupUnclosed
  | groupUnopened
  | nestLimitExceeded (limit : Nat)
  | repetitionCountInvalid
  | repetitionCountDecimalEmpty
  | repetitionCountUnclosed
  | repetitionMissing
  | wordBoundaryUnclosed
  | wordBoundaryUnrecognized
  | wordBoundaryUnexpectedEnd
  | propertyClassInvalid
  | unsupportedBackreference
  | unsupportedLookAround
  | unicodeNotAllowed
  | invalidUtf8
  | propertyNotFound
  | propertyValueNotFound
deriving DecidableEq, Repr

/-- The sentence that ends the message. -/
def Cause.message : Cause → String
  | .classEscapeInvalid => "invalid escape sequence found in character class"
  | .classRangeInvalid => "invalid character class range, the start must be <= the end"
  | .classRangeLiteral => "invalid range boundary, must be a literal"
  | .classUnclosed => "unclosed character class"
  | .decimalEmpty => "decimal literal empty"
  | .decimalInvalid => "decimal literal invalid"
  | .escapeHexEmpty => "hexadecimal literal empty"
  | .escapeHexInvalid => "hexadecimal literal is not a Unicode scalar value"
  | .escapeHexInvalidDigit => "invalid hexadecimal digit"
  | .escapeUnexpectedEnd => "incomplete escape sequence, reached end of pattern prematurely"
  | .escapeUnrecognized => "unrecognized escape sequence"
  | .flagDanglingNegation => "dangling flag negation operator"
  | .flagDuplicate => "duplicate flag"
  | .flagRepeatedNegation => "flag negation operator repeated"
  | .flagUnexpectedEnd => "expected flag but got end of regex"
  | .flagUnrecognized => "unrecognized flag"
  | .groupNameDuplicate => "duplicate capture group name"
  | .groupNameEmpty => "empty capture group name"
  | .groupNameInvalid => "invalid capture group character"
  | .groupNameUnexpectedEnd => "unclosed capture group name"
  | .groupUnclosed => "unclosed group"
  | .groupUnopened => "unopened group"
  | .nestLimitExceeded limit =>
    "exceed the maximum number of nested parentheses/brackets (" ++ toString limit ++ ")"
  | .repetitionCountInvalid =>
    "invalid repetition count range, the start must be <= the end"
  | .repetitionCountDecimalEmpty => "repetition quantifier expects a valid decimal"
  | .repetitionCountUnclosed => "unclosed counted repetition"
  | .repetitionMissing => "repetition operator missing expression"
  | .wordBoundaryUnclosed =>
    "special word boundary assertion is either unclosed or contains an invalid character"
  | .wordBoundaryUnrecognized =>
    "unrecognized special word boundary assertion, valid choices are: start, end, start-half or end-half"
  | .wordBoundaryUnexpectedEnd =>
    "found either the beginning of a special word boundary or a bounded repetition on a \\b with an opening brace, but no closing brace"
  | .propertyClassInvalid => "invalid Unicode character class"
  | .unsupportedBackreference => "backreferences are not supported"
  | .unsupportedLookAround =>
    "look-around, including look-ahead and look-behind, is not supported"
  | .unicodeNotAllowed => "Unicode not allowed here"
  | .invalidUtf8 => "pattern can match invalid UTF-8"
  | .propertyNotFound => "Unicode property not found"
  | .propertyValueNotFound => "Unicode property value not found"

/-- A refused pattern: a fault with its place, or a program that grows too large. -/
inductive Error where
  | fault (cause : Cause) (place : Extent) (first : Option Extent)
  | tooLarge (limit : Nat)
deriving DecidableEq, Repr

/-! ## Showing the place -/

/-- A line without the carriage return that ends it. -/
def dropReturn (line : List Char) : List Char :=
  if line.getLast? == some '\r' then line.dropLast else line

/-- The lines of a pattern; a newline at the very end starts no further line, and
a carriage return before a newline is part of the line end. -/
def patternLines (pattern : List Char) : List (List Char) :=
  match (Text.lines pattern).reverse with
  | [] :: ended => ended.reverse.map dropReturn
  | last :: ended => ended.reverse.map dropReturn ++ [last]
  | [] => []

/-- Carets below the extents of one line, which come in order. -/
def carets (extents : List Extent) : List Char :=
  (extents.foldl (fun (line : List Char) e =>
    let gap := (e.start.column - 1) - line.length
    line ++ List.replicate gap ' ' ++
      List.replicate (max 1 (e.stop.column - e.start.column)) '^') [])

/-- Earlier extents first. -/
def extentLe (a b : Extent) : Bool :=
  a.start.offset < b.start.offset ||
    (a.start.offset == b.start.offset && a.stop.offset ≤ b.stop.offset)

/-- The quoted pattern with its carets, each line ended by a newline. -/
def notated (pattern : List Char) (extents : List Extent) : String :=
  let rows := patternLines pattern
  let count := rows.length + (if pattern.getLast? == some '\n' then 1 else 0)
  let width := if count ≤ 1 then 0 else (toString count).length
  let padding := String.ofList (List.replicate (if width == 0 then 4 else 2 + width) ' ')
  let row (i : Nat) (line : List Char) : String :=
    let number := toString (i + 1)
    let label := String.ofList (List.replicate (width - number.length) ' ') ++ number ++ ": "
    let below := (extents.filter fun e => e.isOneLine && e.start.line == i + 1).mergeSort extentLe
    (if width == 0 then "    " else label) ++ String.ofList line ++ "\n" ++
      (if below.isEmpty then "" else padding ++ String.ofList (carets below) ++ "\n")
  String.join (rows.mapIdx row)

/-- The whole message for a fault. -/
def faultMessage (pattern : List Char) (cause : Cause) (extents : List Extent) : String :=
  let quoted := notated pattern extents
  if pattern.contains '\n' then
    let divider := String.ofList (List.replicate 79 '~') ++ "\n"
    let far := (extents.filter (!·.isOneLine)).mergeSort extentLe
    let note (e : Extent) : String :=
      "on line " ++ toString e.start.line ++ " (column " ++ toString e.start.column ++
        ") through line " ++ toString e.stop.line ++ " (column " ++ toString (e.stop.column - 1) ++ ")"
    "regex parse error:\n" ++ divider ++ quoted ++ divider ++
      (if far.isEmpty then "" else "\n".intercalate (far.map note) ++ "\n") ++
      "error: " ++ cause.message
  else "regex parse error:\n" ++ quoted ++ "error: " ++ cause.message

/-- The message for a refused pattern. -/
def Error.message (pattern : String) : Error → String
  | .fault cause place first => faultMessage pattern.toList cause (place :: first.toList)
  | .tooLarge limit => "Compiled regex exceeds size limit of " ++ toString limit ++ " bytes."

end QuietEmit.Regex
