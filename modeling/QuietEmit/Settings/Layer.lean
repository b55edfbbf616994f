/-
  QuietEmit.Settings.Layer

  Layers of settings: values with the source that set them, and laying one layer
  over another. Tables are merged key by key; any other value of the upper layer
  takes the place of what lies below it.

    * `Setting.laidOn` lays a setting over another one.
    * `Setting.ofToml` takes a layer from a configuration.

  Tables are kept in the order of their keys.
-/
import QuietEmit.Decimal
import QuietEmit.Path
import QuietEmit.Text.Quoted
import QuietEmit.Toml.Value

namespace QuietEmit

/-- The source of a setting. -/
inductive Origin where
  | initial
  /-- The file, under the name it is shown by. -/
  | file (shown : Path)
  | environment
  | arguments
deriving DecidableEq, Repr, Inhabited

/-- A setting that holds no others. -/
inductive Plain where
  | boolean (b : Bool)
  | signed (n : Int)
  | unsigned (n : Nat)
  | float (x : Float)
  | text (s : String)
deriving Repr, Inhabited

/-- A setting and its source. -/
inductive Setting where
  | plain (origin : Origin) (value : Plain)
  | list (origin : Origin) (items : List Setting)
  | table (origin : Origin) (entries : List (String × Setting))
deriving Inhabited

/-- The words for a plain setting. -/
def Plain.found : Plain → String
  | .boolean b => "bool " ++ toString b
  | .signed n => "signed int `" ++ toString n ++ "`"
  | .unsigned n => "unsigned int `" ++ toString n ++ "`"
  | .float x => "float `" ++ Decimal.shown x ++ "`"
  | .text s => "string " ++ Text.debugQuoted s

namespace Setting

/-- The source of a setting. -/
def origin : Setting → Origin
  | .plain o _ | .list o _ | .table o _ => o

/-- The words for a setting. -/
def found : Setting → String
  | .plain _ p => p.found
  | .list _ _ => "sequence"
  | .table _ _ => "map"

/-! ## Tables -/

/-- Give a key a value, in the place that its order asks for. -/
def put (key : String) (v : Setting) : List (String × Setting) → List (String × Setting)
  | [] => [(key, v)]
  | (k, w) :: rest =>
    if key == k then (key, v) :: rest
    else if key < k then (key, v) :: (k, w) :: rest
    else (k, w) :: put key v rest

mutual

/-- Lay a setting over another one. -/
def laidOn : Setting → Setting → Setting
  | .table o entries, .table _ below => .table o (layEntries entries below)
  | v, _ => v

/-- Lay entries over those of a table below. -/
def layEntries : List (String × Setting) → List (String × Setting) → List (String × Setting)
  | [], below => below
  | (key, v) :: rest, below =>
    layEntries rest (put key (match below.lookup key with
      | some w => v.laidOn w
      | none => v) below)

end

/-- A table with the entries of a list; of two with the same key the later counts. -/
def ofEntries (o : Origin) (entries : List (String × Setting)) : Setting :=
  .table o (entries.foldl (fun t (k, v) => put k v t) [])

/-! ## Configurations -/

mutual

/-- A value of a configuration as a setting. Dates and times are tables of their own kind. -/
def ofToml (o : Origin) : Toml.Value → Setting
  | .text s => .plain o (.text s)
  | .integer n => .plain o (.signed n)
  | .float x => .plain o (.float x)
  | .boolean b => .plain o (.boolean b)
  | .datetime s => .table o [("$__toml_private_datetime", .plain o (.text s))]
  | .array items => .list o (ofTomlItems o items)
  | .table entries => ofEntries o (ofTomlEntries o entries)

/-- Items of an array as settings. -/
def ofTomlItems (o : Origin) : List Toml.Value → List Setting
  | [] => []
  | v :: rest => ofToml o v :: ofTomlItems o rest

/-- Entries of a table as settings. -/
def ofTomlEntries (o : Origin) : List (String × Toml.Value) → List (String × Setting)
  | [] => []
  | (k, v) :: rest => (k, ofToml o v) :: ofTomlEntries o rest

end

/-- Settings under a key with dots; an empty part ends the key. -/
def nest (o : Origin) : List String → Setting → Setting
  | [], v => v
  | key :: path, v => if key.isEmpty then v else .table o [(key, nest o path v)]

end Setting

end QuietEmit
