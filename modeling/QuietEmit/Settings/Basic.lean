/-
  QuietEmit.Settings.Basic

  The settings of a run, the compilers they can ask for by name, the rules they have
  to satisfy, and their JSON form. What is absent, and an empty alias table, is left out
  when writing and restored when reading.
-/
import QuietEmit.Settings.Error
import QuietEmit.Unicode.Properties
import QuietEmit.Json.Reader
import QuietEmit.Json.Printer

namespace QuietEmit

/-- A compiler. -/
inductive Compiler where
  | standard
deriving DecidableEq, Repr

namespace Compiler

/-- The name of a compiler. -/
def name : Compiler → String
  | .standard => "oxc"

/-- All compilers. -/
def all : List Compiler := [.standard]

/-- Letters of ASCII in lower case. -/
def lower (cs : List Char) : List Char := cs.map Char.toLower

/-- Find a compiler by name, without regard to case or to blanks around the name. -/
def find (text : String) : Except RunError Compiler :=
  let wanted := lower (Text.trimWhere Unicode.isBlank text.toList)
  match all.find? fun c => lower c.name.toList == wanted with
  | some c => .ok c
  | none =>
    .error (.compilerNotFound text
      ("Available compilers: " ++ ", ".intercalate (all.map name)))

end Compiler

/-- One alias: a pattern and what replaces its matches. -/
structure AliasSetting where
  pattern : String
  replacement : String
deriving DecidableEq, Repr, Inhabited

/-- How specifiers are redirected. -/
structure RedirectionSettings where
  baseUrl : Option Path
  project : Option String
  aliases : List AliasSetting
deriving DecidableEq, Repr

/-- The settings of a run. -/
structure Settings where
  project : Path
  compiler : String
  watch : Bool
  redirection : RedirectionSettings
deriving DecidableEq, Repr

/-- No redirecting. -/
def RedirectionSettings.none : RedirectionSettings := ⟨.none, .none, []⟩

/-- The settings when nothing is set. -/
def Settings.initial : Settings :=
  ⟨⟨"tsconfig.json"⟩, Compiler.standard.name, false, RedirectionSettings.none⟩

/-! ## Rules -/

/-- Whether a text holds nothing but blanks. -/
def isBlankText (s : String) : Bool := s.toList.all Unicode.isBlank

/-- The first alias that is empty or repeats an earlier pattern. -/
def aliasFault? : List String → List AliasSetting → Option SettingsError
  | _, [] => Option.none
  | seen, entry :: rest =>
    if entry.pattern.isEmpty then
      some (.invalidValue "rewrite.alias.pattern" "\"\""
        "Alias patterns must match something, e.g. \"^@app/\"")
    else if seen.contains entry.pattern then
      some (.invalidValue "rewrite.alias.pattern" entry.pattern
        "Each alias pattern may appear only once; the first match always wins")
    else aliasFault? (entry.pattern :: seen) rest

/-- The first rule that the settings break. -/
def RedirectionSettings.fault? (s : RedirectionSettings) : Option SettingsError :=
  match s.project.filter isBlankText with
  | some project =>
    some (.invalidValue "rewrite.project" (Text.debugQuoted project)
      "Use a non-empty prefix such as \"@lib\"")
  | Option.none =>
    if s.baseUrl == some ⟨""⟩ then
      some (.invalidValue "rewrite.base_url" "\"\""
        "Remove the key to use compilerOptions.baseUrl")
    else aliasFault? [] s.aliases

/-- Check the redirecting settings. -/
def RedirectionSettings.check (s : RedirectionSettings) : Except RunError Unit :=
  match s.fault? with
  | some e => .error (.settings e)
  | Option.none => .ok ()

/-- Check the settings; the compiler comes first. -/
def Settings.check (s : Settings) : Except RunError Unit := do
  discard (Compiler.find s.compiler)
  s.redirection.check

/-! ## JSON -/

open Json (Reader)

namespace AliasSetting

/-- The fields of an alias. -/
def shape : Reader.Shape AliasSetting where
  name := "struct AliasEntry"
  closed := true
  fields := [
    ⟨"pattern", true, fun e => do return { e with pattern := ← Reader.text "a string" }⟩,
    ⟨"replacement", true, fun e => do return { e with replacement := ← Reader.text "a string" }⟩]

/-- Write an alias. -/
def toJson (e : AliasSetting) : String :=
  Json.object [("pattern", Json.quoted e.pattern), ("replacement", Json.quoted e.replacement)]

end AliasSetting

namespace RedirectionSettings

/-- The fields of the redirecting settings. -/
def shape : Reader.Shape RedirectionSettings where
  name := "struct RewriteSettings"
  closed := true
  fields := [
    ⟨"base_url", false, fun s => do
      return { s with baseUrl := (← Reader.optional (Reader.text "path string")).map Path.mk }⟩,
    ⟨"project", false, fun s => do
      return { s with project := ← Reader.optional (Reader.text "a string") }⟩,
    ⟨"alias", false, fun s => do
      return { s with aliases := ← Reader.list (AliasSetting.shape.read ⟨"", ""⟩) }⟩]

/-- Write the redirecting settings. -/
def toJson (s : RedirectionSettings) : String :=
  Json.object ((s.baseUrl.map fun p => ("base_url", Json.quoted p.text)).toList ++
    (s.project.map fun p => ("project", Json.quoted p)).toList ++
    (if s.aliases.isEmpty then [] else [("alias", Json.array (s.aliases.map (·.toJson)))]))

end RedirectionSettings

namespace Settings

/-- The fields of the settings. -/
def shape : Reader.Shape Settings where
  name := "struct HushConfig"
  closed := false
  fields := [
    ⟨"project", false, fun s => do return { s with project := ⟨← Reader.text "path string"⟩ }⟩,
    ⟨"compiler", false, fun s => do return { s with compiler := ← Reader.text "a string" }⟩,
    ⟨"watch", false, fun s => do return { s with watch := ← Reader.flag }⟩,
    ⟨"rewrite", false, fun s => do
      return { s with redirection := ← RedirectionSettings.shape.read RedirectionSettings.none }⟩]

/-- Read settings from a whole text. -/
def ofJson (text : String) : Except Json.Error Settings := (shape.read initial).run text.toList

/-- Write settings. -/
def toJson (s : Settings) : String :=
  Json.object [("project", Json.quoted s.project.text), ("compiler", Json.quoted s.compiler),
    ("watch", toString s.watch), ("rewrite", s.redirection.toJson)]

end Settings

end QuietEmit
