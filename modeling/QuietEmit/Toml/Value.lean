/-
  QuietEmit.Toml.Value

  Values of configurations, and tables while they are built: a table may be
  there only because another one is below it, or because of a key with dots.
-/
namespace QuietEmit.Toml

/-- A value. -/
inductive Value where
  | text (s : String)
  | integer (n : Int)
  | float (x : Float)
  | boolean (b : Bool)
  /-- A date, a time, or both, as written. -/
  | datetime (written : String)
  | array (items : List Value)
  | table (entries : List (String × Value))
deriving Inhabited

/-- What kind of value it is. -/
def Value.kind : Value → String
  | .text _ => "string"
  | .integer _ => "integer"
  | .float _ => "float"
  | .boolean _ => "boolean"
  | .datetime _ => "datetime"
  | .array _ => "array"
  | .table _ => "inline table"

/-- An entry of a table under construction. -/
inductive Node where
  | value (v : Value)
  /-- `implicit`: no header or value of its own made it; `dotted`: a key with dots made it. -/
  | table (implicit dotted : Bool) (entries : List (String × Node))
  /-- Tables written under repeated headers. -/
  | tables (items : List Node)
deriving Inhabited

/-- Why an entry cannot be added. -/
inductive Clash where
  /-- The key is there already; the table is named where it is known. -/
  | duplicate (key : String) (table : Option (List String))
  /-- A key with dots goes through something that is no table. -/
  | notTable (path : List String) (kind : String)
deriving DecidableEq, Repr

/-- The text of a clash. -/
def Clash.message : Clash → String
  | .duplicate key none => "duplicate key \x60" ++ key ++ "\x60"
  | .duplicate key (some []) => "duplicate key \x60" ++ key ++ "\x60 in document root"
  | .duplicate key (some path) =>
    "duplicate key \x60" ++ key ++ "\x60 in table \x60" ++ ".".intercalate path ++ "\x60"
  | .notTable path kind =>
    "dotted key \x60" ++ ".".intercalate path ++ "\x60 attempted to extend non-table type (" ++
      kind ++ ")"

namespace Node

/-- An empty table. -/
def empty : Node := .table false false []

/-- Replace the entry of a key, or add one. -/
def set (key : String) (n : Node) : List (String × Node) → List (String × Node)
  | [] => [(key, n)]
  | (k, m) :: rest => if k == key then (k, n) :: rest else (k, m) :: set key n rest

mutual

/-- The value of a node. -/
def toValue : Node → Value
  | .value v => v
  | .table _ _ entries => .table (entryValues entries)
  | .tables items => .array (itemValues items)

/-- The values of entries. -/
def entryValues : List (String × Node) → List (String × Value)
  | [] => []
  | (k, n) :: rest => (k, n.toValue) :: entryValues rest

/-- The values of nodes. -/
def itemValues : List Node → List Value
  | [] => []
  | n :: rest => n.toValue :: itemValues rest

end

/-- Change the table at the end of a path, making the tables on the way. `dotted` tells a key
with dots from a header; `walked` is the path so far. A key with dots enters no table that has a
header or value of its own. -/
def change (dotted : Bool) (f : Bool → List (String × Node) → Except Clash (List (String × Node))) :
    List String → List String → Node → Except Clash Node
  | _, [], .table implicit isDotted entries => do
    return .table implicit isDotted (← f isDotted entries)
  | walked, key :: path, .table implicit isDotted entries => do
    match entries.lookup key with
    | none =>
      let inner ← change dotted f (walked ++ [key]) path (.table true dotted [])
      return .table implicit isDotted (set key inner entries)
    | some (.table innerImplicit innerDotted inner) =>
      if dotted && !innerImplicit then throw (.duplicate key none)
      let inner ← change dotted f (walked ++ [key]) path (.table innerImplicit innerDotted inner)
      return .table implicit isDotted (set key inner entries)
    | some (.tables items) =>
      match items.getLast? with
      | some last =>
        let last ← change dotted f (walked ++ [key]) path last
        return .table implicit isDotted (set key (.tables (items.dropLast ++ [last])) entries)
      | none => throw (.duplicate key none)
    | some (.value v) => throw (.notTable (walked ++ [key]) v.kind)
  | _, _, n => .ok n
termination_by _ path => path.length

/-- Add a value under a key with dots to a table that the header `header` names. -/
def insert (header path : List String) (v : Value) : List (String × Node) →
    Except Clash (List (String × Node)) := fun entries => do
  let key := path.getLastD ""
  let above := path.dropLast
  let put (isDotted : Bool) (es : List (String × Node)) :
      Except Clash (List (String × Node)) :=
    if !above.isEmpty && !isDotted then throw (.duplicate key none)
    else if (es.lookup key).isSome then throw (.duplicate key (some header))
    else return es ++ [(key, .value v)]
  match ← change true put [] above (.table false false entries) with
  | .table _ _ es => return es
  | _ => return entries

/-- Open the table of a header. -/
def openTable (path : List String) (root : Node) : Except Clash Node :=
  let key := path.getLastD ""
  change false (fun _ entries =>
    match entries.lookup key with
    | none => .ok (entries ++ [(key, empty)])
    | some (.table true false inner) => .ok (set key (.table false false inner) entries)
    | some _ => .error (.duplicate key (some path.dropLast))) [] path.dropLast root

/-- Open one more table under a repeated header. -/
def openRepeated (path : List String) (root : Node) : Except Clash Node :=
  let key := path.getLastD ""
  change false (fun _ entries =>
    match entries.lookup key with
    | none => .ok (entries ++ [(key, .tables [empty])])
    | some (.tables items) => .ok (set key (.tables (items ++ [empty])) entries)
    | some _ => .error (.duplicate key (some path.dropLast))) [] path.dropLast root

end Node

end QuietEmit.Toml
