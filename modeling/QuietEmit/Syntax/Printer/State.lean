/-
  QuietEmit.Syntax.Printer.State

  The state of printing a module: the text so far, how deep it is indented, and
  the comments that still wait for the place they belong to.
-/
import QuietEmit.Syntax.Printer.Literals
import QuietEmit.Syntax.Token
import QuietEmit.Syntax.Tree
import QuietEmit.Unicode.Properties

namespace QuietEmit.Syntax

/-- The state of printing. -/
structure PrintState where
  out : String := ""
  depth : Nat := 0
  /-- The next indentation is a single blank, because a statement follows on the same line. -/
  indentAsBlank : Bool := false
  /-- Where the current expression statement, default export or arrow body starts. -/
  statementStart : Option Nat := none
  defaultStart : Option Nat := none
  arrowStart : Option Nat := none
  /-- A point here would be read as part of the number before it. -/
  numberEnd : Option Nat := none
  /-- Inside a type, where numbers keep their spelling. -/
  inType : Bool := false
  /-- Leading comments that were not printed yet. -/
  comments : List Comment := []
deriving Inhabited

/-- Printing. -/
abbrev Printer := StateM PrintState

namespace Printer

/-- Write text. -/
def write (s : String) : Printer Unit := modify fun st => { st with out := st.out ++ s }

/-- How much is written. -/
def length : Printer Nat := return (← get).out.utf8ByteSize

/-- The last character written. -/
def lastChar? : Printer (Option Char) := do
  let out := (← get).out
  return if out.isEmpty then none else some out.back

/-- End the line. -/
def newline : Printer Unit := write "\n"

/-- A blank. -/
def blank : Printer Unit := write " "

/-- Tabs. -/
def tabs (n : Nat) : String := String.ofList (List.replicate n '\t')

/-- Indent the line. -/
def indentation : Printer Unit := do
  let st ← get
  if st.indentAsBlank then
    set { st with indentAsBlank := false }
    blank
  else write (tabs st.depth)

/-- Print one step deeper. -/
def deeper (p : Printer Unit) : Printer Unit := do
  modify fun st => { st with depth := st.depth + 1 }
  p
  modify fun st => { st with depth := st.depth - 1 }

/-- Print what belongs to a type. -/
def ofType (p : Printer Unit) : Printer Unit := do
  let outside := (← get).inType
  modify fun st => { st with inType := true }
  p
  modify fun st => { st with inType := outside }

/-- The end of a statement. -/
def semicolon : Printer Unit := write ";\n"

/-- Put something in parentheses if it has to be. -/
def wrap (needed : Bool) (p : Printer Unit) : Printer Unit := do
  if needed then write "("
  p
  if needed then write ")"

/-- Things with a text between them. -/
def separated (between : Printer Unit) : List (Printer Unit) → Printer Unit
  | [] => pure ()
  | [p] => p
  | p :: ps => do
    p
    between
    separated between ps

/-- Things with commas between them. -/
def commas (ps : List (Printer Unit)) : Printer Unit := separated (write ", ") ps

/-- A line for each thing, with a comma after all but the last. -/
def commaLines (ps : List (Printer Unit)) : Printer Unit := do
  deeper (separated (write ",") (ps.map fun p => do
    newline
    indentation
    p))
  newline
  indentation

/-- Something between braces, on one line or on lines of its own. -/
def braces (oneLine : Bool) (p : Printer Unit) : Printer Unit := do
  write "\x7b"
  if oneLine then p
  else
    newline
    deeper p
    indentation
  write "\x7d"

/-- Keep two words, or two equal signs, apart. -/
def apart (next : Char) : Printer Unit := do
  match ← lastChar? with
  | some c =>
    let isWord (c : Char) : Bool := c.isAlphanum || c == '_' || c == '$' || c.toNat > 127
    if isWord c && isWord next then blank
    else if (next == '+' || next == '-') && c == next then blank
  | none => pure ()

/-! ## Comments -/

/-- Take the comments that belong to a place. -/
def takeComments (place : Nat) : Printer (List Comment) := do
  let st ← get
  match st.comments.filter fun c => c.attachedTo == place with
  | [] => return []
  | found =>
    set { st with comments := st.comments.filter fun c => c.attachedTo != place }
    return found

/-- Whether comments wait for a place. -/
def hasComments (place : Nat) : Printer Bool := do
  return (← get).comments.any fun c => c.attachedTo == place

/-- The lines of a comment. -/
def commentLines (c : Comment) : List (List Char) :=
  (Text.replaceAll ['\r', '\n'] ['\n'] (Literal.guardScript c.text).toList).splitOnP fun c =>
    c == '\n' || c == '\r' || c == '\u2028' || c == '\u2029'

/-- A comment by itself. -/
def comment (c : Comment) : Printer Unit := do
  match commentLines c with
  | [] => pure ()
  | [line] => write (String.ofList line)
  | first :: rest =>
    write (String.ofList first)
    for line in rest do
      newline
      indentation
      write (String.ofList (line.dropWhile Unicode.isBlank))

/-- Comments before something that starts a line. -/
def comments : Bool → List Comment → Printer Unit
  | _, [] => pure ()
  | isFirst, c :: rest => do
    if isFirst then
      if c.afterNewline then
        match ← lastChar? with
        | some '\n' => indentation
        | some '\t' | none => pure ()
        | some _ =>
          newline
          indentation
      else indentation
    else if c.afterNewline then
      newline
      indentation
    comment c
    if rest.isEmpty then
      if !c.isBlock || c.beforeNewline then newline
      else modify fun st => { st with indentAsBlank := true }
    comments false rest

/-- The comments that belong to a place. -/
def commentsAt (place : Nat) : Printer Unit := do comments true (← takeComments place)

/-- The comments that belong to a place, each on a line of its own, with the end of the line after
them; whether there are any. -/
def commentLinesAt (place : Nat) : Printer Bool := do
  let found ← takeComments place
  for c in found do
    newline
    indentation
    comment c
  if found.isEmpty then return false
  newline
  return true

/-- Items between parentheses, each given with the place its comments belong to. With comments
before an item or at the end of `span`, each item stands on a line of its own. -/
def argumentList (span : Span) (items : List (Nat × Printer Unit)) : Printer Unit := do
  let atEnd ← if span.stop > 0 then hasComments (span.stop - 1) else pure false
  let commented ← items.anyM fun i => hasComments i.1
  write "("
  if atEnd || commented then
    deeper do
      separated (write ",") (items.map fun (place, item) => do
        if !(← commentLinesAt place) then newline
        indentation
        item)
      if !(← if atEnd then commentLinesAt (span.stop - 1) else pure false) then newline
    indentation
  else commas (items.map Prod.snd)
  write ")"

end Printer

end QuietEmit.Syntax
