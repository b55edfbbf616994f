/-
  QuietEmit.Proofs.Settings.Given

  What one source of settings sets, read from its layer alone: each field has a
  value of its type or none (`Setting.Gives`). Laying one layer over another gives
  each field the value of the upper source, if that sets it, and of the lower one
  otherwise (`Setting.Gives.laidOn`); a field never depends on another. Keys without
  a meaning among the redirecting settings are those of both
  (`Setting.unknownKeys_laidOn`).
-/
import QuietEmit.Proofs.Settings.Layers
import QuietEmit.Settings.Decoding

namespace QuietEmit

/-- What a source of settings sets. -/
structure Given where
  project : Option String := none
  compiler : Option String := none
  watch : Option Bool := none
  baseUrl : Option String := none
  /-- What stands for the base directory in specifiers. -/
  baseText : Option String := none
  aliases : Option (List AliasSetting) := none
deriving DecidableEq, Repr

namespace Given

/-- Two sources, of which the upper one counts for each field that it sets. -/
def or (upper lower : Given) : Given where
  project := upper.project.or lower.project
  compiler := upper.compiler.or lower.compiler
  watch := upper.watch.or lower.watch
  baseUrl := upper.baseUrl.or lower.baseUrl
  baseText := upper.baseText.or lower.baseText
  aliases := upper.aliases.or lower.aliases

/-- Sources on top of each other, the first at the bottom. -/
def stacked (sources : List Given) : Given :=
  sources.foldl (fun below source => source.or below) {}

@[simp] theorem or_nothing (g : Given) : g.or {} = g := by
  simp [Given.or]

/-- The settings that a source gives, with initial values for what it does not set. -/
def settings (g : Given) : Settings where
  project := (g.project.map Path.mk).getD Settings.initial.project
  compiler := g.compiler.getD Settings.initial.compiler
  watch := g.watch.getD Settings.initial.watch
  redirection :=
    { baseUrl := g.baseUrl.map Path.mk
      project := g.baseText
      aliases := g.aliases.getD [] }

end Given

namespace Setting

/-! ## Values of the types that are expected -/

/-- A text. -/
def text? : Setting → Option String
  | .plain _ (.text s) => some s
  | _ => none

/-- A truth value. -/
def flag? : Setting → Option Bool
  | .plain _ (.boolean b) => some b
  | _ => none

/-- An alias: a table of its pattern and its replacement. -/
def alias? : Setting → Option AliasSetting
  | .table _ entries => do
    guard (entries.all fun e => e.1 == "pattern" || e.1 == "replacement")
    return { pattern := ← (entries.lookup "pattern").bind text?
             replacement := ← (entries.lookup "replacement").bind text? }
  | _ => none

/-- A list of aliases, in its order. -/
def aliases? : Setting → Option (List AliasSetting)
  | .list _ items => items.mapM alias?
  | _ => none

/-! ## Sources -/

/-- What a layer sets, each value being of its type. -/
structure Gives (v : Setting) (g : Given) : Prop where
  project : v.leaf? text? ["project"] = some g.project
  compiler : v.leaf? text? ["compiler"] = some g.compiler
  watch : v.leaf? flag? ["watch"] = some g.watch
  baseUrl : v.leaf? text? ["rewrite", "base_url"] = some g.baseUrl
  baseText : v.leaf? text? ["rewrite", "project"] = some g.baseText
  aliases : v.leaf? aliases? ["rewrite", "alias"] = some g.aliases

instance (v : Setting) (g : Given) : Decidable (v.Gives g) :=
  decidable_of_iff
    (v.leaf? text? ["project"] = some g.project ∧
      v.leaf? text? ["compiler"] = some g.compiler ∧
      v.leaf? flag? ["watch"] = some g.watch ∧
      v.leaf? text? ["rewrite", "base_url"] = some g.baseUrl ∧
      v.leaf? text? ["rewrite", "project"] = some g.baseText ∧
      v.leaf? aliases? ["rewrite", "alias"] = some g.aliases)
    ⟨fun ⟨h₁, h₂, h₃, h₄, h₅, h₆⟩ => ⟨h₁, h₂, h₃, h₄, h₅, h₆⟩,
      fun ⟨h₁, h₂, h₃, h₄, h₅, h₆⟩ => ⟨h₁, h₂, h₃, h₄, h₅, h₆⟩⟩

/-- An empty layer sets nothing. -/
theorem gives_empty (o : Origin) : (Setting.table o []).Gives {} :=
  ⟨rfl, rfl, rfl, rfl, rfl, rfl⟩

/-- Layers on top of each other set what the upper one sets, and else what the lower one does. -/
theorem Gives.laidOn {upper below : Setting} (hkeyed : upper.Keyed) {g lower : Given}
    (hg : upper.Gives g) (hlower : below.Gives lower) :
    (upper.laidOn below).Gives (g.or lower) where
  project := leaf?_laidOn (fun _ _ => rfl) hkeyed hg.project hlower.project
  compiler := leaf?_laidOn (fun _ _ => rfl) hkeyed hg.compiler hlower.compiler
  watch := leaf?_laidOn (fun _ _ => rfl) hkeyed hg.watch hlower.watch
  baseUrl := leaf?_laidOn (fun _ _ => rfl) hkeyed hg.baseUrl hlower.baseUrl
  baseText := leaf?_laidOn (fun _ _ => rfl) hkeyed hg.baseText hlower.baseText
  aliases := leaf?_laidOn (fun _ _ => rfl) hkeyed hg.aliases hlower.aliases

/-! ## Keys without a meaning -/

/-- The keys of the redirecting settings of a layer that have no meaning. -/
def unknownKeys : Setting → List String
  | .table _ entries =>
    match entries.lookup "rewrite" with
    | some (.table _ inner) =>
      (inner.map (·.1)).filter fun key => !(RedirectionSettings.layout.fields.any (·.name == key))
    | _ => []
  | _ => []

/-- The `rewrite` table of a source that gives something, if it has one. -/
theorem Gives.exists_entries {v : Setting} {g : Given} (h : v.Gives g) :
    ∃ o entries, v = .table o entries ∧
      (entries.lookup "rewrite" = none ∨
        ∃ o inner, entries.lookup "rewrite" = some (.table o inner)) := by
  obtain ⟨o, entries, rfl⟩ : ∃ o entries, v = .table o entries := by
    have hproject := h.project
    cases v with
    | table o entries => exact ⟨o, entries, rfl⟩
    | plain o p => cases hproject
    | list o items => cases hproject
  refine ⟨o, entries, rfl, ?_⟩
  have hbase := h.baseUrl
  rw [leaf?] at hbase
  cases hrewrite : entries.lookup "rewrite" with
  | none => exact .inl rfl
  | some w =>
      rw [hrewrite] at hbase
      cases w with
      | table o inner => exact .inr ⟨o, inner, rfl⟩
      | plain o p => cases hbase
      | list o items => cases hbase

/-- Layers on top of each other have the keys of both. -/
theorem unknownKeys_laidOn {upper below : Setting} (hkeyed : upper.Keyed) {g lower : Given}
    (hg : upper.Gives g) (hlower : below.Gives lower) :
    (upper.laidOn below).unknownKeys = [] ↔ upper.unknownKeys = [] ∧ below.unknownKeys = [] := by
  obtain ⟨o, entries, rfl, hupper⟩ := hg.exists_entries
  obtain ⟨o', belows, rfl, hbelow⟩ := hlower.exists_entries
  rw [laidOn]
  simp only [unknownKeys, lookup_layEntries hkeyed.ordered]
  rcases hupper with hupper | ⟨p, inner, hupper⟩
  · simp [hupper]
  rcases hbelow with hbelow | ⟨p', inner', hbelow⟩
  · simp [hupper, hbelow]
  · -- both have a table, so that the keys are those of the two tables
    simp only [hupper, hbelow, Option.merge, laidOn, List.filter_eq_nil_iff, mem_keys_layEntries]
    exact ⟨fun h => ⟨fun k hk => h k (.inl hk), fun k hk => h k (.inr hk)⟩,
      fun h k hk => hk.elim (h.1 k) (h.2 k)⟩

end Setting

end QuietEmit
