/-
  QuietEmit.Json.Comments

  JSON with comments and trailing commas. Both are blanked out in place, so that
  every character keeps its line and its column.
-/
import QuietEmit.Unicode.Properties

namespace QuietEmit.Json

/-! ## Where a scan stands -/

/-- What the next character belongs to. -/
inductive CommentMode where
  | plain
  | string
  /-- After a backslash in a string. -/
  | escaped
  | line
  /-- At the star that opens a block. -/
  | blockStart
  | block
  /-- At the slash that closes a block. -/
  | blockEnd
deriving DecidableEq, Repr

namespace CommentMode

/-- The mode after a character; `ahead` is the character after that. -/
def next (mode : CommentMode) (c : Char) (ahead : Option Char) : CommentMode :=
  match mode with
  | .plain =>
    if c = '"' then .string
    else if c = '/' ∧ ahead = some '/' then .line
    else if c = '/' ∧ ahead = some '*' then .blockStart
    else .plain
  | .string => if c = '\\' then .escaped else if c = '"' then .plain else .string
  | .escaped => .string
  | .line => if c = '\n' then .plain else .line
  | .blockStart => .block
  | .block => if c = '*' ∧ ahead = some '/' then .blockEnd else .block
  | .blockEnd => .plain

/-- Whether a character read in a mode is part of a comment. -/
def covers (mode : CommentMode) (c : Char) (ahead : Option Char) : Bool :=
  match mode with
  | .plain => c = '/' ∧ (ahead = some '/' ∨ ahead = some '*')
  | .line => c ≠ '\n'
  | .blockStart | .block | .blockEnd => true
  | .string | .escaped => false

end CommentMode

/-! ## Blanking out -/

/-- The first character that is neither blank nor part of a comment. -/
def nextSignificant? (mode : CommentMode) : List Char → Option Char
  | [] => none
  | c :: rest =>
    if mode.covers c rest.head? || Unicode.isBlank c then
      nextSignificant? (mode.next c rest.head?) rest
    else some c

/-- What follows a comma closes a list or an object. -/
def closesAfter (rest : List Char) : Bool :=
  match nextSignificant? .plain rest with
  | some c => c == '\x7d' || c == ']'
  | none => false

/-- A blank for a character; line ends stay. -/
def blankFor (c : Char) : Char := if c = '\n' then '\n' else ' '

/-- Blank out comments and trailing commas. -/
def blankComments (mode : CommentMode) : List Char → List Char
  | [] => []
  | c :: rest =>
    let shown :=
      if mode.covers c rest.head? then blankFor c
      else if mode = .plain ∧ c = ',' ∧ closesAfter rest then ' '
      else c
    shown :: blankComments (mode.next c rest.head?) rest

/-- A text without comments and trailing commas, everything else in its place. -/
def withoutComments (text : List Char) : List Char := blankComments .plain text

end QuietEmit.Json
