/-
  QuietEmit.Settings.Decoding

  From layered settings to the settings of a run. Tables are read in the order of
  their keys, and the first fault is the answer. A record may also be given as a
  list of its fields in order.
-/
import QuietEmit.Settings.Basic
import QuietEmit.Settings.Layer

namespace QuietEmit

/-- What is wrong with a setting. -/
inductive Misfit where
  | wrongType (found expected : String)
  | unknownKey (name : String) (expected : List String)
  | missingKey (name : String)
  | wrongLength (count : Nat) (expected : String)
deriving DecidableEq, Repr

/-- The text of a misfit. -/
def Misfit.message : Misfit → String
  | .wrongType found expected => "invalid type: found " ++ found ++ ", expected " ++ expected
  | .unknownKey name expected =>
    "unknown field: found `" ++ name ++ "`, expected `" ++ Json.oneOf expected ++ "`"
  | .missingKey name => "missing field `" ++ name ++ "`"
  | .wrongLength count expected =>
    "invalid length " ++ toString count ++ ", expected " ++ expected

/-- A misfit, the keys that lead to it, and the source that set it. -/
structure SettingFault where
  misfit : Misfit
  path : List String
  origin : Origin
deriving DecidableEq, Repr

namespace SettingFault

/-- Put a key in front. -/
def under (key : String) (f : SettingFault) : SettingFault := { f with path := key :: f.path }

/-- The keys as their source writes them. -/
def key (f : SettingFault) : String :=
  match f.origin with
  | .environment => ".".intercalate (f.path.map fun k => k.map Char.toUpper)
  | _ => ".".intercalate ("default" :: f.path)

/-- The words for a source. -/
def place : Origin → String
  | .initial => " in defaults"
  | .file shown => " in " ++ shown.text ++ " TOML file"
  | .environment => " in `HUSH_` environment variable(s)"
  | .arguments => " in arguments"

/-- The text of a fault. -/
def message (f : SettingFault) : String :=
  f.misfit.message ++ (if f.path.isEmpty then "" else " for key " ++ Text.debugQuoted f.key) ++
    place f.origin

end SettingFault

/-- Reading a value from a setting. -/
abbrev Decoder (α : Type) := Setting → Except SettingFault α

namespace Decoder

/-- Refuse a setting of the wrong type. -/
def refuse {α : Type} (expected : String) : Decoder α := fun v =>
  .error ⟨.wrongType v.found expected, [], v.origin⟩

/-- A text, described by `expected` in refusals. -/
def text (expected : String) : Decoder String
  | .plain _ (.text s) => .ok s
  | v => refuse expected v

/-- A truth value. -/
def flag : Decoder Bool
  | .plain _ (.boolean b) => .ok b
  | v => refuse "a boolean" v

/-- The items of a list from an index on. -/
def items {α : Type} (d : Decoder α) : Nat → List Setting → Except SettingFault (List α)
  | _, [] => .ok []
  | i, v :: rest => do
    let a ← (d v).mapError (·.under (toString i))
    return a :: (← items d (i + 1) rest)

/-- A list. -/
def list {α : Type} (d : Decoder α) : Decoder (List α)
  | .list _ vs => items d 0 vs
  | v => refuse "a sequence" v

/-! ## Records -/

/-- A field of a record under construction. -/
structure Field (σ : Type) where
  name : String
  required : Bool
  read : σ → Decoder σ

/-- How a record is read. -/
structure Shape (σ : Type) where
  /-- The name of the record in refusals. -/
  name : String
  /-- Refuse keys that are not listed. -/
  closed : Bool
  fields : List (Field σ)

namespace Shape

variable {σ : Type}

/-- One entry of a table. -/
def entry (shape : Shape σ) (state : σ) (key : String) (v : Setting) : Except SettingFault σ :=
  match shape.fields.find? (·.name == key) with
  | some field => (field.read state v).mapError (·.under key)
  | none =>
    if shape.closed then
      .error ⟨.unknownKey key (shape.fields.map (·.name)), [key], v.origin⟩
    else .ok state

/-- The entries of a table in order. -/
def entries (shape : Shape σ) : List (String × Setting) → σ → Except SettingFault σ
  | [], state => .ok state
  | (key, v) :: rest, state => do shape.entries rest (← shape.entry state key v)

/-- The first required field that a table lacks. -/
def missing? (shape : Shape σ) (table : List (String × Setting)) : Option (Field σ) :=
  shape.fields.find? fun f => f.required && (table.lookup f.name).isNone

/-- The fields in order, `count` of them having been read. -/
def positions (shape : Shape σ) (origin : Origin) (count : Nat) :
    List (Field σ) → List Setting → σ → Except SettingFault σ
  | [], _, state => .ok state
  | field :: fields, [], state =>
    if field.required then
      .error ⟨.wrongLength count (shape.name ++ " with " ++ toString shape.fields.length ++
        " elements"), [], origin⟩
    else shape.positions origin count fields [] state
  | field :: fields, v :: rest, state => do
    let state ← (field.read state v).mapError (·.under (toString count))
    shape.positions origin (count + 1) fields rest state

/-- Read a record, starting from the values of absent fields. -/
def read (shape : Shape σ) (initial : σ) : Decoder σ
  | .table origin table => do
    let state ← shape.entries table initial
    match shape.missing? table with
    | some field => .error ⟨.missingKey field.name, [], origin⟩
    | none => return state
  | .list origin items => shape.positions origin 0 shape.fields items initial
  | v => refuse shape.name v

end Shape

end Decoder

/-! ## Settings -/

open Decoder

/-- An alias. -/
def AliasSetting.layout : Shape AliasSetting where
  name := "struct AliasEntry"
  closed := true
  fields := [
    ⟨"pattern", true, fun e v => do return { e with pattern := ← text "a string" v }⟩,
    ⟨"replacement", true, fun e v => do return { e with replacement := ← text "a string" v }⟩]

/-- The redirecting settings. -/
def RedirectionSettings.layout : Shape RedirectionSettings where
  name := "struct RewriteSettings"
  closed := true
  fields := [
    ⟨"base_url", false, fun s v => do
      return { s with baseUrl := some ⟨← text "path string" v⟩ }⟩,
    ⟨"project", false, fun s v => do return { s with project := some (← text "a string" v) }⟩,
    ⟨"alias", false, fun s v => do
      return { s with aliases := ← list (AliasSetting.layout.read ⟨"", ""⟩) v }⟩]

/-- All settings. -/
def Settings.layout : Shape Settings where
  name := "struct HushConfig"
  closed := false
  fields := [
    ⟨"project", false, fun s v => do return { s with project := ⟨← text "path string" v⟩ }⟩,
    ⟨"compiler", false, fun s v => do return { s with compiler := ← text "a string" v }⟩,
    ⟨"watch", false, fun s v => do return { s with watch := ← flag v }⟩,
    ⟨"rewrite", false, fun s v => do
      return { s with redirection := ← RedirectionSettings.layout.read RedirectionSettings.none v }⟩]

/-- Read settings; what nothing sets keeps its initial value. -/
def Settings.decode : Decoder Settings := Settings.layout.read Settings.initial

end QuietEmit
