/-
  QuietEmit.Proofs.Settings.Environment

  The layer of the environment, variable by variable. A value that is read has each
  key of its tables once (`keyed_read`, by induction on the fuel of the reader), and
  so has the layer of all variables (`keyed_layer`). One more variable is laid over
  the layer of those before it (`layer_concat`).
-/
import Mathlib.Data.List.Induction
import Mathlib.Data.Option.Basic
import QuietEmit.Proofs.Settings.Layers
import QuietEmit.Settings.Environment

namespace QuietEmit.Environment

open Setting

/-! ## Values -/

section Reading

variable {fuel : Nat} {cs rest : List Char}

theorem keyed_value?_succ {v : Setting}
    (hitems : ∀ {cs items rest}, items? fuel cs = some (items, rest) → ∀ v ∈ items, Keyed v)
    (hentries : ∀ {cs entries rest}, entries? fuel cs = some (entries, rest) →
      ∀ e ∈ entries, Keyed e.2)
    (h : value? (fuel + 1) cs = some (v, rest)) : Keyed v := by
  rw [value?] at h
  dsimp only at h
  -- only a list and a table hold other values
  split at h
  · cases h
    exact .plain ..
  · cases h
    exact .plain ..
  · obtain ⟨⟨entries, after⟩, hread, hresult⟩ := Option.bind_eq_some_iff.mp h
    cases hresult
    exact keyed_ofEntries _ (hentries hread)
  · obtain ⟨⟨items, after⟩, hread, hresult⟩ := Option.bind_eq_some_iff.mp h
    cases hresult
    exact .list (hitems hread)
  · obtain ⟨⟨s, after⟩, hread, hresult⟩ := Option.bind_eq_some_iff.mp h
    cases hresult
    exact .plain ..
  · cases h
    exact .plain ..
  · cases h
  · cases h
    exact .plain ..

theorem keyed_items?_succ {items : List Setting}
    (hvalue : ∀ {cs v rest}, value? fuel cs = some (v, rest) → Keyed v)
    (hitems : ∀ {cs items rest}, items? fuel cs = some (items, rest) → ∀ v ∈ items, Keyed v)
    (h : items? (fuel + 1) cs = some (items, rest)) : ∀ v ∈ items, Keyed v := by
  rw [items?.eq_def] at h
  dsimp only at h
  split at h
  · cases h
  · cases h
    simp
  · next heq _ =>
    obtain rfl := Nat.succ.inj heq
    obtain ⟨⟨v, after⟩, hv, hrest⟩ := Option.bind_eq_some_iff.mp h
    dsimp only at hrest
    split at hrest
    · obtain ⟨⟨more, after⟩, hmore, hresult⟩ := Option.bind_eq_some_iff.mp hrest
      cases hresult
      exact List.forall_mem_cons.mpr ⟨hvalue hv, hitems hmore⟩
    · cases hrest
      exact List.forall_mem_singleton.mpr (hvalue hv)
    · cases hrest

theorem keyed_entries?_succ {entries : List (String × Setting)}
    (hvalue : ∀ {cs v rest}, value? fuel cs = some (v, rest) → Keyed v)
    (hentries : ∀ {cs entries rest}, entries? fuel cs = some (entries, rest) →
      ∀ e ∈ entries, Keyed e.2)
    (h : entries? (fuel + 1) cs = some (entries, rest)) : ∀ e ∈ entries, Keyed e.2 := by
  rw [entries?.eq_def] at h
  dsimp only at h
  split at h
  · cases h
  · cases h
    simp
  · next heq _ =>
    obtain rfl := Nat.succ.inj heq
    obtain ⟨⟨key, after⟩, -, hread⟩ := Option.bind_eq_some_iff.mp h
    obtain ⟨⟨v, after⟩, hv, hrest⟩ := Option.bind_eq_some_iff.mp hread
    dsimp only at hrest
    split at hrest
    · obtain ⟨⟨more, after⟩, hmore, hresult⟩ := Option.bind_eq_some_iff.mp hrest
      cases hresult
      exact List.forall_mem_cons.mpr ⟨hvalue hv, hentries hmore⟩
    · cases hrest
      exact List.forall_mem_singleton.mpr (hvalue hv)
    · cases hrest

/-- What is read has each key of its tables once. -/
theorem keyed_read (fuel : Nat) :
    (∀ {cs v rest}, value? fuel cs = some (v, rest) → Keyed v) ∧
      (∀ {cs items rest}, items? fuel cs = some (items, rest) → ∀ v ∈ items, Keyed v) ∧
      ∀ {cs entries rest}, entries? fuel cs = some (entries, rest) →
        ∀ e ∈ entries, Keyed e.2 := by
  induction fuel with
  | zero =>
      refine ⟨fun h => ?_, fun h => ?_, fun h => ?_⟩
      · rw [value?] at h
        cases h
      · rw [items?] at h
        cases h
      · rw [entries?] at h
        cases h
  | succ fuel ih =>
      obtain ⟨hvalue, hitems, hentries⟩ := ih
      exact ⟨keyed_value?_succ hitems hentries, keyed_items?_succ hvalue hitems,
        keyed_entries?_succ hvalue hentries⟩

end Reading

theorem keyed_setting (text : String) : Keyed (setting text) := by
  rw [setting]
  split
  · next hread => exact (keyed_read _).1 hread
  · exact .plain ..

/-! ## Variables -/

/-- A name that is one of ours has a first key, which is not empty. -/
theorem exists_key_of_keys? {name : String} {keys : List String} (h : keys? name = some keys) :
    ∃ key path, keys = key :: path ∧ key.isEmpty = false := by
  rw [keys?] at h
  dsimp only at h
  obtain ⟨-, -, hguard⟩ := Option.bind_eq_some_iff.mp h
  obtain ⟨done, hall, hresult⟩ := Option.bind_eq_some_iff.mp hguard
  obtain rfl := Option.some.inj hresult
  obtain ⟨part, parts, hparts⟩ := List.exists_cons_of_ne_nil (List.splitOn_ne_nil '.' _)
  rw [hparts] at hall ⊢
  refine ⟨String.ofList part, parts.map String.ofList, List.map_cons, ?_⟩
  have hnonempty := (Option.guard_eq_some' _).mp hall
  rw [List.map_cons, List.all_cons, Bool.and_eq_true] at hnonempty
  simpa using hnonempty.1

/-- What one more variable does to the layer of those before it: nothing if its name is none of
ours; else one key is laid over the layer. -/
theorem layer_concat_cases (before : List (String × String)) (v : String × String) :
    (keys? v.1 = none ∧ layer (before ++ [v]) = layer before) ∨
      ∃ keys key inner, keys? v.1 = some keys ∧ Keyed inner ∧
        nest .environment keys (setting v.2) = .table .environment [(key, inner)] ∧
        layer (before ++ [v]) =
          (Setting.table .environment [(key, inner)]).laidOn (layer before) := by
  rw [layer, List.foldl_append, ← layer]
  cases hkeys : keys? v.1 with
  | none => exact .inl ⟨rfl, by simp [hkeys]⟩
  | some keys =>
      obtain ⟨key, path, rfl, hne⟩ := exists_key_of_keys? hkeys
      have hnest : nest .environment (key :: path) (setting v.2) =
          .table .environment [(key, nest .environment path (setting v.2))] := by
        rw [nest, if_neg (by simp [hne])]
      refine .inr ⟨_, key, _, rfl, keyed_nest _ (keyed_setting v.2) path, hnest, ?_⟩
      simp [hkeys, hnest]

/-- The layer of variables is a table. -/
theorem exists_layer_eq (environment : List (String × String)) :
    ∃ entries, layer environment = .table .environment entries := by
  induction environment using List.reverseRecOn with
  | nil => exact ⟨[], rfl⟩
  | append_singleton before v ih =>
      obtain ⟨below, hbelow⟩ := ih
      obtain ⟨-, hlayer⟩ | ⟨keys, key, inner, -, -, -, hlayer⟩ := layer_concat_cases before v
      · exact ⟨below, hlayer.trans hbelow⟩
      · rw [hlayer, hbelow, laidOn]
        exact ⟨_, rfl⟩

theorem keyed_layer (environment : List (String × String)) : Keyed (layer environment) := by
  induction environment using List.reverseRecOn with
  | nil => exact keyed_empty _
  | append_singleton before v ih =>
      obtain ⟨-, hlayer⟩ | ⟨keys, key, inner, -, hinner, -, hlayer⟩ := layer_concat_cases before v
      · rwa [hlayer]
      · rw [hlayer]
        refine Keyed.laidOn (.table (List.pairwise_singleton ..) fun e he => ?_) ih
        rwa [List.mem_singleton.mp he]

/-- The layer of one more variable is laid over the layer of those before it. -/
theorem layer_concat (before : List (String × String)) (v : String × String) :
    layer (before ++ [v]) = (layer [v]).laidOn (layer before) := by
  obtain ⟨below, hbelow⟩ := exists_layer_eq before
  obtain ⟨hname, hlayer⟩ | ⟨keys, key, inner, hname, -, hnest, hlayer⟩ :=
    layer_concat_cases before v
  · have hone : layer [v] = .table .environment [] := by simp [layer, hname]
    rw [hlayer, hone, hbelow, laidOn, layEntries]
  · have hone : layer [v] = .table .environment [(key, inner)] := by
      simp [layer, hname, hnest, laidOn, layEntries, put]
    rw [hlayer, hone]

end QuietEmit.Environment
