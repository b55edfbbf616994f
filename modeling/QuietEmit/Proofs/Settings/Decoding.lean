/-
  QuietEmit.Proofs.Settings.Decoding

  Reading a record from a table. A field reads one part of the record and leaves the
  others (`Shape.Sets`), so that the part has the value under the field's key, if the
  table has the key, and its first value otherwise, wherever the key comes in the
  table (`Shape.get_of_entries`). A table can be read when its keys have values of
  their types, and for a closed record when each key is one of its fields
  (`Shape.exists_entries_iff`).

  From that the settings are read from a layer exactly when none of its keys is
  unknown, and they are what the layer gives (`Setting.Gives.decode_eq_ok_iff`).
-/
import Mathlib.Data.Option.Basic
import QuietEmit.Proofs.Settings.Given

namespace QuietEmit

open Setting (Ordered Keyed)

/-! ## Values -/

theorem bind_eq_ok_iff {ε α β : Type} {x : Except ε α} {f : α → Except ε β} {y : β} :
    (x >>= f) = .ok y ↔ ∃ a, x = .ok a ∧ f a = .ok y := by
  cases x <;> simp [bind, Except.bind]

@[simp] theorem exists_map_eq_ok_iff {ε α β : Type} {x : Except ε α} {f : α → β} :
    (∃ y, f <$> x = .ok y) ↔ ∃ a, x = .ok a := by
  cases x <;> simp [Functor.map, Except.map]

@[simp] theorem forall_map_eq_ok_iff {ε α β : Type} {x : Except ε α} {f : α → β}
    {P : β → Prop} : (∀ y, f <$> x = .ok y → P y) ↔ ∀ a, x = .ok a → P (f a) := by
  cases x <;> simp [Functor.map, Except.map]

namespace Decoder

@[simp] theorem text_eq_ok_iff {expected : String} {v : Setting} {s : String} :
    text expected v = .ok s ↔ v.text? = some s := by
  rw [text.eq_def, Setting.text?.eq_def]
  split <;> simp [refuse]

@[simp] theorem flag_eq_ok_iff {v : Setting} {b : Bool} :
    flag v = .ok b ↔ v.flag? = some b := by
  rw [flag.eq_def, Setting.flag?.eq_def]
  split <;> simp [refuse]

namespace Shape

variable {σ β : Type} {shape : Shape σ} {table : List (String × Setting)} {st st' : σ}

/-! ## Entries -/

/-- The keys that are fields. -/
def names (shape : Shape σ) : List String := shape.fields.map (·.name)

/-- The field `name` sets the part `get` to what a value `means`, and no other field changes it. -/
structure Sets (shape : Shape σ) (name : String) (get : σ → β) (means : Setting → β → Prop) :
    Prop where
  accepts : ∀ f ∈ shape.fields, f.name = name →
    ∀ v b, means v b → ∀ st, ∃ st', f.read st v = .ok st'
  reads : ∀ f ∈ shape.fields, f.name = name →
    ∀ st v st', f.read st v = .ok st' → means v (get st')
  keeps : ∀ f ∈ shape.fields, f.name ≠ name →
    ∀ st v st', f.read st v = .ok st' → get st' = get st

/-- A key is a field that is found, or none. -/
theorem field_cases (shape : Shape σ) (key : String) :
    (∃ f ∈ shape.fields, f.name = key ∧ shape.fields.find? (·.name == key) = some f) ∨
      (key ∉ shape.names ∧ shape.fields.find? (·.name == key) = none) := by
  cases hfind : shape.fields.find? (·.name == key) with
  | some f =>
      exact .inl ⟨f, List.mem_of_find?_eq_some hfind, by simpa using List.find?_some hfind, rfl⟩
  | none =>
      refine .inr ⟨fun hmem => ?_, rfl⟩
      obtain ⟨f, hf, rfl⟩ := List.mem_map.mp hmem
      simpa using List.find?_eq_none.mp hfind f hf

/-- An entry that was read was read by its field, or has been passed over. -/
theorem entry_eq_ok {key : String} {v : Setting} (h : shape.entry st key v = .ok st') :
    (∃ f ∈ shape.fields, f.name = key ∧ f.read st v = .ok st') ∨
      (key ∉ shape.names ∧ st' = st) := by
  rw [entry] at h
  rcases shape.field_cases key with ⟨f, hf, hname, hfind⟩ | ⟨hunknown, hfind⟩
  · rw [hfind] at h
    dsimp only at h
    cases hread : f.read st v with
    | error e => rw [hread] at h; cases h
    | ok s =>
        rw [hread] at h
        exact .inl ⟨f, hf, hname, hread.trans h⟩
  · rw [hfind] at h
    dsimp only at h
    split at h
    · cases h
    · exact .inr ⟨hunknown, (Except.ok.inj h).symm⟩

/-- A part of a record that was read from a table has the value under its key, if there is one. -/
theorem get_of_entries {name : String} {get : σ → β} {means : Setting → β → Prop}
    (hsets : shape.Sets name get means) (hname : name ∈ shape.names) (hordered : Ordered table)
    (h : shape.entries table st = .ok st') :
    (∀ v, table.lookup name = some v → means v (get st')) ∧
      (table.lookup name = none → get st' = get st) := by
  induction table generalizing st with
  | nil =>
      obtain rfl := Except.ok.inj h
      exact ⟨nofun, fun _ => rfl⟩
  | cons e rest ih =>
      obtain ⟨key, v⟩ := e
      obtain ⟨mid, hentry, hrest⟩ := bind_eq_ok_iff.mp h
      obtain ⟨hfound, habsent⟩ := ih (List.pairwise_cons.mp hordered).2 hrest
      by_cases hkey : name = key
      · -- the key does not come again, so that later entries keep the part
        subst hkey
        have hlast : get st' = get mid := habsent hordered.lookup_rest
        have hread : means v (get mid) := by
          rcases entry_eq_ok hentry with ⟨f, hf, hsame, hread⟩ | ⟨hunknown, -⟩
          · exact hsets.reads f hf hsame st v mid hread
          · exact absurd hname hunknown
        rw [List.lookup_cons_self]
        refine ⟨fun w hw => ?_, nofun⟩
        obtain rfl := Option.some.inj hw
        rwa [hlast]
      · have hkept : get mid = get st := by
          rcases entry_eq_ok hentry with ⟨f, hf, hother, hread⟩ | ⟨-, hsame⟩
          · exact hsets.keeps f hf (fun hsame => hkey (hsame.symm.trans hother)) st v mid hread
          · rw [hsame]
        rw [List.lookup_cons, beq_eq_false_iff_ne.mpr hkey]
        exact ⟨hfound, fun hnone => (habsent hnone).trans hkept⟩

/-- A key of a record can be read if it is a field that can, or if unknown keys are passed over. -/
theorem exists_entry_iff {key : String} {v : Setting}
    (hfields : ∀ f ∈ shape.fields, f.name = key → ∀ st, ∃ st', f.read st v = .ok st') :
    (∃ st', shape.entry st key v = .ok st') ↔ (shape.closed = true → key ∈ shape.names) := by
  rw [entry]
  rcases shape.field_cases key with ⟨f, hf, hname, hfind⟩ | ⟨hunknown, hfind⟩
  · obtain ⟨st', hread⟩ := hfields f hf hname st
    rw [hfind]
    dsimp only
    rw [hread]
    exact iff_of_true ⟨st', rfl⟩ fun _ => List.mem_map.mpr ⟨f, hf, hname⟩
  · rw [hfind]
    cases hclosed : shape.closed with
    | true => simp [hunknown]
    | false => simp

/-- A table whose fields can be read can be read as a whole, if all keys of a closed record are
fields. -/
theorem exists_entries_iff (hordered : Ordered table)
    (hfields : ∀ f ∈ shape.fields, ∀ v, table.lookup f.name = some v →
      ∀ st, ∃ st', f.read st v = .ok st') :
    (∃ st', shape.entries table st = .ok st') ↔
      (shape.closed = true → ∀ e ∈ table, e.1 ∈ shape.names) := by
  induction table generalizing st with
  | nil => exact iff_of_true ⟨st, rfl⟩ (by simp)
  | cons e rest ih =>
      obtain ⟨key, v⟩ := e
      have hfirst : ∀ f ∈ shape.fields, f.name = key → ∀ st, ∃ st', f.read st v = .ok st' :=
        fun f hf hname => hfields f hf v (by rw [hname, List.lookup_cons_self])
      have hothers : ∀ f ∈ shape.fields, ∀ w, rest.lookup f.name = some w →
          ∀ st, ∃ st', f.read st w = .ok st' := by
        intro f hf w hw
        refine hfields f hf w ?_
        have hne : f.name ≠ key := by
          rintro hsame
          rw [hsame, hordered.lookup_rest] at hw
          cases hw
        rw [List.lookup_cons, beq_eq_false_iff_ne.mpr hne]
        exact hw
      have hrest : ∀ {st}, (∃ st', shape.entries rest st = .ok st') ↔
          (shape.closed = true → ∀ e ∈ rest, e.1 ∈ shape.names) :=
        ih (List.pairwise_cons.mp hordered).2 hothers
      have hentry : (∃ st', shape.entry st key v = .ok st') ↔ _ := exists_entry_iff hfirst
      rw [List.forall_mem_cons, imp_and, ← hentry]
      constructor
      · rintro ⟨st', h⟩
        obtain ⟨mid, hentry, hread⟩ := bind_eq_ok_iff.mp h
        exact ⟨⟨mid, hentry⟩, hrest.mp ⟨st', hread⟩⟩
      · rintro ⟨⟨mid, hentry⟩, hknown⟩
        obtain ⟨st', hread⟩ : ∃ st', shape.entries rest mid = .ok st' := hrest.mpr hknown
        exact ⟨st', bind_eq_ok_iff.mpr ⟨mid, hentry, hread⟩⟩

section Leaf

variable {γ : Type} {name : String} {get : σ → β} {means : Setting → β → Prop} {o : Origin}
  {d : Setting → Option γ} {put : γ → β} {x : Option γ}

/-- What `d` reads, as `put` makes it a part of a record, is what a value `means`. -/
def Finds (d : Setting → Option γ) (put : γ → β) (means : Setting → β → Prop) : Prop :=
  ∀ v y, v.Keyed → d v = some y → ∀ b, means v b ↔ put y = b

theorem finds_self (d : Setting → Option β) : Finds d id fun v b => d v = some b := by
  intro v y _ hy b
  show d v = some b ↔ _
  rw [hy, Option.some.injEq, id]

theorem finds_map (d : Setting → Option γ) (put : γ → β) :
    Finds d put fun v b => (d v).map put = some b := by
  intro v y _ hy b
  show (d v).map put = some b ↔ _
  rw [hy, Option.map_some, Option.some.injEq]

/-- A part of a record has the value of the leaf under its key, or else its first value. -/
theorem get_of_leaf (hsets : shape.Sets name get means) (hfinds : Finds d put means)
    (hname : name ∈ shape.names) (hkeyed : (Setting.table o table).Keyed)
    (hleaf : (Setting.table o table).leaf? d [name] = some x)
    (h : shape.entries table st = .ok st') : get st' = (x.map put).getD (get st) := by
  obtain ⟨hfound, habsent⟩ := get_of_entries hsets hname hkeyed.ordered h
  rcases Setting.leaf?_key hleaf with ⟨hnone, rfl⟩ | ⟨v, y, hv, hy, rfl⟩
  · exact habsent hnone
  · exact ((hfinds v y (hkeyed.of_lookup hv) hy (get st')).mp (hfound v hv)).symm

/-- A field can be read from a table that has a leaf of its type under its key. -/
theorem exists_read_of_leaf (hsets : shape.Sets name get means) (hfinds : Finds d put means)
    (hkeyed : (Setting.table o table).Keyed)
    (hleaf : (Setting.table o table).leaf? d [name] = some x) {f : Field σ}
    (hf : f ∈ shape.fields) (hname : f.name = name) {v : Setting}
    (hv : table.lookup f.name = some v) (st : σ) : ∃ st', f.read st v = .ok st' := by
  rw [hname] at hv
  rcases Setting.leaf?_key hleaf with ⟨hnone, -⟩ | ⟨w, y, hw, hy, -⟩
  · rw [hnone] at hv
    cases hv
  · obtain rfl : w = v := Option.some.inj (hw.symm.trans hv)
    have hmeans : means w (put y) := (hfinds w y (hkeyed.of_lookup hw) hy (put y)).mpr rfl
    exact hsets.accepts f hf hname w (put y) hmeans st

end Leaf

/-- A record is read from a table as its entries are, if the fields that it asks for are there. -/
theorem read_table_eq_ok_iff {o : Origin}
    (hrequired : ∀ f ∈ shape.fields, f.required = true → ∃ v, table.lookup f.name = some v) :
    shape.read st (.table o table) = .ok st' ↔ shape.entries table st = .ok st' := by
  have hmissing : shape.missing? table = none := by
    rw [missing?, List.find?_eq_none]
    intro f hf
    cases hfield : f.required with
    | false => simp
    | true =>
        obtain ⟨v, hv⟩ := hrequired f hf hfield
        simp [hv]
  rw [read, hmissing, bind_eq_ok_iff]
  constructor
  · rintro ⟨mid, hentries, hresult⟩
    rwa [← Except.ok.inj hresult]
  · intro h
    exact ⟨st', h, rfl⟩

end Shape

end Decoder

open Decoder Decoder.Shape

/-! ## Aliases -/

namespace AliasSetting

theorem sets_pattern : layout.Sets "pattern" (·.pattern) fun v s => v.text? = some s where
  accepts := by simp +contextual [layout]
  reads := by simp [layout]
  keeps := by simp [layout]

theorem sets_replacement :
    layout.Sets "replacement" (·.replacement) fun v s => v.text? = some s where
  accepts := by simp +contextual [layout]
  reads := by simp [layout]
  keeps := by simp [layout]

/-- An alias is read as what it gives. -/
theorem read_of_alias? {v : Setting} (hkeyed : v.Keyed) {e : AliasSetting}
    (h : v.alias? = some e) : layout.read ⟨"", ""⟩ v = .ok e := by
  cases hkeyed with
  | plain o p => cases h
  | list hitems => cases h
  | @table o entries hordered hentries =>
      rw [Setting.alias?] at h
      obtain ⟨done, hguard, hread⟩ := Option.bind_eq_some_iff.mp h
      obtain ⟨pattern, hpattern, hread⟩ := Option.bind_eq_some_iff.mp hread
      obtain ⟨replacement, hreplacement, hresult⟩ := Option.bind_eq_some_iff.mp hread
      obtain rfl := Option.some.inj hresult
      obtain ⟨v, hv, htext⟩ := Option.bind_eq_some_iff.mp hpattern
      obtain ⟨w, hw, htext'⟩ := Option.bind_eq_some_iff.mp hreplacement
      have hknown : ∀ e ∈ entries, e.1 ∈ layout.names := by
        have hall := (Option.guard_eq_some' _).mp hguard
        simpa [layout, names, Decidable.or_iff_not_imp_left] using hall
      have hfields : ∀ f ∈ layout.fields, ∀ u, entries.lookup f.name = some u →
          ∀ st, ∃ st', f.read st u = .ok st' := by
        simp [layout, hv, hw, htext, htext']
      have hrequired : ∀ f ∈ layout.fields, f.required = true →
          ∃ u, entries.lookup f.name = some u := by
        simp [layout, hv, hw]
      obtain ⟨e, he⟩ : ∃ e, layout.entries entries ⟨"", ""⟩ = .ok e :=
        (exists_entries_iff hordered hfields).mpr fun _ => hknown
      have hp := (get_of_entries sets_pattern (by decide) hordered he).1 v hv
      have hr := (get_of_entries sets_replacement (by decide) hordered he).1 w hw
      obtain rfl : pattern = e.pattern := Option.some.inj (htext.symm.trans hp)
      obtain rfl : replacement = e.replacement := Option.some.inj (htext'.symm.trans hr)
      exact (read_table_eq_ok_iff hrequired).mpr he

/-- A list of aliases is read in its order. -/
theorem list_of_aliases? {v : Setting} (hkeyed : v.Keyed) {aliases : List AliasSetting}
    (h : v.aliases? = some aliases) : list (layout.read ⟨"", ""⟩) v = .ok aliases := by
  cases hkeyed with
  | plain o p => cases h
  | table hordered hentries => cases h
  | @list o vs hitems =>
      have hread : ∀ n, items (layout.read ⟨"", ""⟩) n vs = .ok aliases := by
        rw [Setting.aliases?] at h
        induction vs generalizing aliases with
        | nil =>
            obtain rfl := Option.some.inj h
            exact fun _ => rfl
        | cons v rest ih =>
            obtain ⟨hv, hrest⟩ := List.forall_mem_cons.mp hitems
            rw [List.mapM_cons] at h
            obtain ⟨e, he, h⟩ := Option.bind_eq_some_iff.mp h
            obtain ⟨more, hmore, hresult⟩ := Option.bind_eq_some_iff.mp h
            obtain rfl := Option.some.inj hresult
            intro n
            rw [items, read_of_alias? hv he, ih hrest hmore (n + 1)]
            rfl
      exact hread 0

end AliasSetting

namespace RedirectionSettings

theorem sets_baseUrl :
    layout.Sets "base_url" (·.baseUrl) fun v b => v.text?.map (some ⟨·⟩) = some b where
  accepts := by simp +contextual [layout]
  reads := by simp [layout]
  keeps := by simp [layout]

theorem sets_project : layout.Sets "project" (·.project) fun v b => v.text?.map some = some b where
  accepts := by simp +contextual [layout]
  reads := by simp [layout]
  keeps := by simp [layout]

theorem sets_aliases : layout.Sets "alias" (·.aliases) fun v b =>
    list (AliasSetting.layout.read ⟨"", ""⟩) v = .ok b where
  accepts := by simp +contextual [layout]
  reads := by simp [layout]
  keeps := by simp [layout]

theorem finds_aliases : Finds Setting.aliases? id fun v b =>
    list (AliasSetting.layout.read ⟨"", ""⟩) v = .ok b := by
  intro v found hkeyed hfound b
  show list (AliasSetting.layout.read ⟨"", ""⟩) v = .ok b ↔ _
  rw [AliasSetting.list_of_aliases? hkeyed hfound, Except.ok.injEq, id]

section Read

variable {o : Origin} {inner : List (String × Setting)} {base project : Option String}
  {aliases : Option (List AliasSetting)}

/-- Settings that were read from the entries of a table have the values under their keys. -/
theorem eq_of_entries {r : RedirectionSettings} (hkeyed : (Setting.table o inner).Keyed)
    (hbase : (Setting.table o inner).leaf? Setting.text? ["base_url"] = some base)
    (hproject : (Setting.table o inner).leaf? Setting.text? ["project"] = some project)
    (haliases : (Setting.table o inner).leaf? Setting.aliases? ["alias"] = some aliases)
    (h : layout.entries inner none = .ok r) :
    r = ⟨base.map Path.mk, project, aliases.getD []⟩ := by
  have hbaseUrl := get_of_leaf sets_baseUrl (finds_map _ _) (by decide) hkeyed hbase h
  have htext := get_of_leaf sets_project (finds_map _ _) (by decide) hkeyed hproject h
  have hlist := get_of_leaf sets_aliases finds_aliases (by decide) hkeyed haliases h
  obtain ⟨baseUrl, text, list⟩ := r
  rw [mk.injEq]
  refine ⟨?_, ?_, ?_⟩
  · cases base <;> exact hbaseUrl
  · cases project <;> exact htext
  · cases aliases <;> exact hlist

/-- The redirecting settings are read from a table exactly when each of its keys is known; each of
them has the value under its key, if there is one. -/
theorem read_eq_ok_iff {r : RedirectionSettings} (hkeyed : (Setting.table o inner).Keyed)
    (hbase : (Setting.table o inner).leaf? Setting.text? ["base_url"] = some base)
    (hproject : (Setting.table o inner).leaf? Setting.text? ["project"] = some project)
    (haliases : (Setting.table o inner).leaf? Setting.aliases? ["alias"] = some aliases) :
    layout.read none (.table o inner) = .ok r ↔
      (∀ e ∈ inner, e.1 ∈ layout.names) ∧
        r = ⟨base.map Path.mk, project, aliases.getD []⟩ := by
  have hfields : ∀ f ∈ layout.fields, ∀ v, inner.lookup f.name = some v →
      ∀ st, ∃ st', f.read st v = .ok st' := by
    intro f hf v hv
    have hname : f.name = "base_url" ∨ f.name = "project" ∨ f.name = "alias" := by
      simpa [names, layout] using List.mem_map_of_mem (f := Field.name) hf
    rcases hname with hname | hname | hname
    · exact exists_read_of_leaf sets_baseUrl (finds_map _ _) hkeyed hbase hf hname hv
    · exact exists_read_of_leaf sets_project (finds_map _ _) hkeyed hproject hf hname hv
    · exact exists_read_of_leaf sets_aliases finds_aliases hkeyed haliases hf hname hv
  rw [read_table_eq_ok_iff (by simp [layout])]
  constructor
  · intro h
    have hknown := (exists_entries_iff hkeyed.ordered hfields).mp ⟨r, h⟩ rfl
    exact ⟨hknown, eq_of_entries hkeyed hbase hproject haliases h⟩
  · rintro ⟨hknown, rfl⟩
    obtain ⟨r, h⟩ : ∃ r, layout.entries inner none = .ok r :=
      (exists_entries_iff hkeyed.ordered hfields).mpr fun _ => hknown
    rw [h, eq_of_entries hkeyed hbase hproject haliases h]

end Read

end RedirectionSettings

namespace Settings

theorem sets_project : layout.Sets "project" (·.project) fun v b =>
    v.text?.map Path.mk = some b where
  accepts := by simp +contextual [layout]
  reads := by simp +contextual [layout]
  keeps := by simp [layout]

theorem sets_compiler : layout.Sets "compiler" (·.compiler) fun v s => v.text? = some s where
  accepts := by simp +contextual [layout]
  reads := by simp [layout]
  keeps := by simp [layout]

theorem sets_watch : layout.Sets "watch" (·.watch) fun v b => v.flag? = some b where
  accepts := by simp +contextual [layout]
  reads := by simp [layout]
  keeps := by simp [layout]

theorem sets_redirection : layout.Sets "rewrite" (·.redirection) fun v r =>
    RedirectionSettings.layout.read RedirectionSettings.none v = .ok r where
  accepts := by simp +contextual [layout]
  reads := by simp [layout]
  keeps := by simp [layout]

end Settings

/-! ## Settings -/

section Decode

variable {o : Origin} {entries : List (String × Setting)} {g : Given} {s : Settings}

theorem Setting.unknownKeys_eq_nil_iff {p : Origin} {inner : List (String × Setting)}
    (h : entries.lookup "rewrite" = some (.table p inner)) :
    (Setting.table o entries).unknownKeys = [] ↔
      ∀ e ∈ inner, e.1 ∈ RedirectionSettings.layout.names := by
  have hname : ∀ key, (!RedirectionSettings.layout.fields.any (·.name == key)) = true ↔
      key ∉ RedirectionSettings.layout.names := by
    intro key
    simp [names]
  rw [unknownKeys, h]
  simp only [List.filter_eq_nil_iff, List.forall_mem_map, hname, Decidable.not_not]

/-- The redirecting settings that are read from a layer. -/
theorem Setting.Gives.redirection_iff (hg : (Setting.table o entries).Gives g)
    (hkeyed : (Setting.table o entries).Keyed) {r : RedirectionSettings} :
    (match entries.lookup "rewrite" with
      | some v => RedirectionSettings.layout.read RedirectionSettings.none v = .ok r
      | none => r = RedirectionSettings.none) ↔
      (Setting.table o entries).unknownKeys = [] ∧ r = g.settings.redirection := by
  obtain ⟨_, _, ⟨⟩, hnone | ⟨p, inner, hinner⟩⟩ := hg.exists_entries
  · have hbase := hg.baseUrl
    have htext := hg.baseText
    have haliases := hg.aliases
    rw [leaf?, hnone] at hbase htext haliases
    have hsettings : g.settings.redirection = RedirectionSettings.none := by
      rw [Given.settings, ← Option.some.inj hbase, ← Option.some.inj htext,
        ← Option.some.inj haliases]
      rfl
    have hkeys : (Setting.table o entries).unknownKeys = [] := by
      rw [unknownKeys, hnone]
    rw [hnone, hsettings]
    simp [hkeys]
  · have hbase := hg.baseUrl
    have htext := hg.baseText
    have haliases := hg.aliases
    rw [leaf?, hinner] at hbase htext haliases
    rw [hinner, unknownKeys_eq_nil_iff hinner]
    exact RedirectionSettings.read_eq_ok_iff (hkeyed.of_lookup hinner) hbase htext haliases

/-- Settings that were read from the entries of a layer are what it gives. -/
theorem Setting.Gives.eq_of_entries (hg : (Setting.table o entries).Gives g)
    (hkeyed : (Setting.table o entries).Keyed)
    (h : Settings.layout.entries entries Settings.initial = .ok s) :
    (Setting.table o entries).unknownKeys = [] ∧ s = g.settings := by
  have hproject := get_of_leaf Settings.sets_project (finds_map _ _) (by decide) hkeyed hg.project h
  have hcompiler := get_of_leaf Settings.sets_compiler (finds_self _) (by decide) hkeyed
    hg.compiler h
  have hwatch := get_of_leaf Settings.sets_watch (finds_self _) (by decide) hkeyed hg.watch h
  -- a redirecting setting can be unknown, so that this part is no leaf
  have hredirection : (Setting.table o entries).unknownKeys = [] ∧
      s.redirection = g.settings.redirection := by
    refine (hg.redirection_iff hkeyed).mp ?_
    obtain ⟨hfound, habsent⟩ :=
      get_of_entries Settings.sets_redirection (by decide) hkeyed.ordered h
    cases hlookup : entries.lookup "rewrite" with
    | none => exact habsent hlookup
    | some v => exact hfound v hlookup
  refine ⟨hredirection.1, ?_⟩
  obtain ⟨project, compiler, watch, redirection⟩ := s
  rw [Given.settings, Settings.mk.injEq]
  refine ⟨hproject, ?_, ?_, hredirection.2⟩
  · rw [Option.map_id] at hcompiler
    exact hcompiler
  · rw [Option.map_id] at hwatch
    exact hwatch

/-- The settings are read from a layer exactly when no key of it is unknown, and they are what the
layer gives. -/
theorem Setting.Gives.decode_eq_ok_iff {v : Setting} (hg : v.Gives g) (hkeyed : v.Keyed) :
    Settings.decode v = .ok s ↔ v.unknownKeys = [] ∧ s = g.settings := by
  obtain ⟨o, entries, rfl, -⟩ := hg.exists_entries
  have hfields : (Setting.table o entries).unknownKeys = [] → ∀ f ∈ Settings.layout.fields,
      ∀ v, entries.lookup f.name = some v → ∀ st, ∃ st', f.read st v = .ok st' := by
    intro hknown f hf v hv st
    have hname : f.name = "project" ∨ f.name = "compiler" ∨ f.name = "watch" ∨
        f.name = "rewrite" := by
      simpa [names, Settings.layout] using List.mem_map_of_mem (f := Field.name) hf
    rcases hname with hname | hname | hname | hname
    · exact exists_read_of_leaf Settings.sets_project (finds_map _ _) hkeyed hg.project hf hname hv st
    · exact exists_read_of_leaf Settings.sets_compiler (finds_self _) hkeyed hg.compiler hf hname
        hv st
    · exact exists_read_of_leaf Settings.sets_watch (finds_self _) hkeyed hg.watch hf hname hv st
    · rw [hname] at hv
      have hread := (hg.redirection_iff hkeyed).mpr ⟨hknown, rfl⟩
      rw [hv] at hread
      exact Settings.sets_redirection.accepts f hf hname v _ hread st
  rw [Settings.decode, read_table_eq_ok_iff (by simp [Settings.layout])]
  constructor
  · exact hg.eq_of_entries hkeyed
  · rintro ⟨hknown, rfl⟩
    obtain ⟨s, h⟩ : ∃ s, Settings.layout.entries entries Settings.initial = .ok s :=
      (exists_entries_iff hkeyed.ordered (hfields hknown)).mpr nofun
    rw [h, (hg.eq_of_entries hkeyed h).2]

end Decode

end QuietEmit
