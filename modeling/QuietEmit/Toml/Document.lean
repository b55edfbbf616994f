/-
  QuietEmit.Toml.Document

  Whole configurations: headers and entries, one a line, and the values in them.
-/
import QuietEmit.Toml.Scalar

namespace QuietEmit.Toml

namespace Reader

/-! ## Values -/

/-- Name a text that was meant to be a string. -/
def likeString {α : Type} (p : Reader α) : Reader α :=
  naming "string" (expecting ["\x60\"\x60", "\x60'\x60"] p)

/-- An entry between a key and a value. -/
def equalSign : Reader Unit :=
  expecting ["\x60.\x60", "\x60=\x60"] (discard (one (· == '=')))

/-- Make a table of the entries between braces. A table in it is closed to keys with dots like any
other that is there already. -/
def tableOf (place : Nat) (entries : List (List String × Value)) : Reader Value := do
  let add (es : List (String × Node)) (entry : List String × Value) :
      Except Clash (List (String × Node)) :=
    match Node.insert [] entry.1 entry.2 es with
    | .error (.duplicate key _) => .error (.duplicate key none)
    | .error (.notTable path kind) =>
      if kind == (Value.table []).kind then .error (.duplicate (path.getLastD "") none)
      else .error (.notTable path kind)
    | r => r
  let built := entries.foldlM add []
  match built with
  | .ok es => return .table (Node.entryValues es)
  | .error clash => refuse place clash.message

/-- An array whose values `inner` reads. -/
def arrayValue (inner : Reader Value) : Reader Value := do
  discard (one (· == '['))
  let items ← settled do
    let items ← optional do
      let found ← separated (do
        blankLines
        let v ← inner
        blankLines
        return v) (discard (one (· == ','))) (← left)
      discard (optional (one (· == ',')))
      return found
    blankLines
    return items.getD []
  naming "array" (expecting ["\x60]\x60"] (settled (discard (one (· == ']')))))
  return .array items

/-- A table on one line whose values `inner` reads. -/
def tableValue (inner : Reader Value) : Reader Value := do
  discard (one (· == '\x7b'))
  let place := (← get).place
  let entries ← settled do
    let found ← optional (separated (do
      let k ← key
      settled do
        equalSign
        blanks
        let v ← inner
        blanks
        return (k, v)) (discard (one (· == ','))) (← left))
    blanks
    return found.getD []
  let table ← tableOf place entries
  naming "inline table" (expecting ["\x60\x7d\x60"] (settled (discard (one (· == '\x7d')))))
  return table

/-- A value that `c` starts and that has no values in it. -/
def scalar (c : Char) : Reader Value := do
  let word (w : String) (v : Value) : Reader Value :=
    likeString (settled do
      text w
      return v)
  if c == '"' || c == '\'' then .text <$> string
  else if c == '+' || c == '-' || c.isDigit then
    orElse (.datetime <$> datetime) (orElse (.float <$> float) (.integer <$> integer))
  else if c == '_' then expecting ["leading digit"] (.integer <$> integer)
  else if c == '.' then expecting ["leading digit"] (.float <$> float)
  else if c == 't' then word "true" (.boolean true)
  else if c == 'f' then word "false" (.boolean false)
  else if c == 'i' then word "inf" (.float (1.0 / 0.0))
  else if c == 'n' then word "nan" (.float (0.0 / 0.0))
  else likeString fail

/-- A value; `depth` tells how deep other values may be nested in it. -/
def value (depth : Nat) : Reader Value := do
  match ← peek with
  | none => fail
  | some c =>
    if c == '[' || c == '\x7b' then
      match depth with
      | 0 => refuse (← get).place tooDeep
      | depth + 1 => if c == '[' then arrayValue (value depth) else tableValue (value depth)
    else scalar c

/-! ## Lines -/

/-- A line of a configuration. -/
inductive Line where
  | entry (key : List String) (value : Value)
  | header (key : List String)
  | repeatedHeader (key : List String)
  | nothing
deriving Inhabited

/-- A header between `start` and `stop`. -/
def header (start stop : String) : Reader (List String) := do
  text start
  let k ← settled key
  settled (expecting ["\x60.\x60", "\x60" ++ stop ++ "\x60"] (text stop))
  settled lineRest
  return k

/-- One line. -/
def line : Reader Line := do
  match (← get).rest with
  | [] => fail
  | '#' :: _ =>
    settled do
      comment
      lineEnd
    return .nothing
  | '[' :: rest =>
    naming "table header" (settled (
      if rest.head? == some '[' then .repeatedHeader <$> header "[[" "]]"
      else .header <$> header "[" "]"))
  | '\n' :: _ | '\r' :: _ =>
    newline
    return .nothing
  | _ =>
    settled do
      let k ← key
      equalSign
      blanks
      let v ← value depthLimit
      lineRest
      return .entry k v

/-! ## Documents -/

/-- What the lines so far make. -/
structure Document where
  root : Node := .empty
  /-- The header that entries belong to. -/
  table : List String := []
deriving Inhabited

namespace Document

/-- Add a line. -/
def add (d : Document) : Line → Except Clash Document
  | .nothing => .ok d
  | .header path => do return ⟨← Node.openTable path d.root, path⟩
  | .repeatedHeader path => do return ⟨← Node.openRepeated path d.root, path⟩
  | .entry path v => do
    let root ← Node.change false (fun _ es => Node.insert d.table path v es) [] d.table d.root
    return { d with root := root }

end Document

/-- Lines up to the end of the text; `fuel` bounds their number. A line that clashes with those
before it is refused where it starts. -/
def lines : Nat → Document → Reader Document
  | 0, d => return d
  | fuel + 1, d => do
    let start := (← get).place
    let isHeader := (← peek) == some '['
    match ← optional line with
    | none => return d
    | some l =>
      match d.add l with
      | .ok d =>
        blanks
        lines fuel d
      | .error clash =>
        if isHeader then naming "table header" (refuse start clash.message)
        else refuse start clash.message

/-- A whole configuration. -/
def document : Reader Value := do
  discard (optional (one (· == '\uFEFF')))
  blanks
  let d ← lines (← left) {}
  ending
  return d.root.toValue

end Reader

/-- Read a configuration. -/
def Value.ofText (text : String) : Except Fault Value :=
  match Reader.document.run ⟨text.toList, 0⟩ with
  | .ok (v, _) => .ok v
  | .error e => .error e.fault

end QuietEmit.Toml
