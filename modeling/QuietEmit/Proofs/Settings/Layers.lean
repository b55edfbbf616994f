/-
  QuietEmit.Proofs.Settings.Layers

  What layers of settings hold, key by key. The tables that layers are made of have
  each key once, in order (`Setting.Keyed`), and laying one layer over another keeps
  them so. A key of the result then has what the two layers have under it
  (`Setting.lookup_layEntries`).

  A leaf is read by following keys down to it (`Setting.leaf?`). Laying one layer
  over another gives each leaf the value of the upper layer, if that sets it, and of
  the lower one otherwise, whatever the layers hold elsewhere
  (`Setting.leaf?_laidOn`).
-/
import QuietEmit.Settings.Layer

namespace QuietEmit.Setting

/-! ## Entries in the order of their keys -/

/-- Each key comes once, and in order. -/
def Ordered (entries : List (String × Setting)) : Prop :=
  entries.Pairwise fun e f => e.1 < f.1

theorem lookup_put (key k : String) (v : Setting) (entries : List (String × Setting)) :
    (put key v entries).lookup k = if k == key then some v else entries.lookup k := by
  induction entries with
  | nil => cases h : k == key <;> simp [put, List.lookup_cons, h]
  | cons e rest ih =>
      obtain ⟨other, w⟩ := e
      rw [put]
      by_cases hsame : key = other
      · subst hsame
        cases h : k == key <;> simp [List.lookup_cons, h]
      rw [if_neg (by simp [hsame])]
      by_cases hless : key < other
      · rw [if_pos hless]
        cases h : k == key <;> simp [List.lookup_cons, h]
      · rw [if_neg hless]
        cases hother : k == other with
        | false => simp [List.lookup_cons, hother, ih]
        | true =>
            obtain rfl := eq_of_beq hother
            simp [Ne.symm hsame]

theorem mem_put {key : String} {v : Setting} {entries : List (String × Setting)}
    {e : String × Setting} (h : e ∈ put key v entries) : e = (key, v) ∨ e ∈ entries := by
  induction entries with
  | nil => exact .inl (List.mem_singleton.mp h)
  | cons head rest ih =>
      rw [put] at h
      split at h
      · exact (List.mem_cons.mp h).imp_right (List.mem_cons_of_mem _)
      split at h
      · exact List.mem_cons.mp h
      · rcases List.mem_cons.mp h with rfl | h
        · exact .inr (List.mem_cons_self ..)
        · exact (ih h).imp_right (List.mem_cons_of_mem _)

theorem Ordered.put {entries : List (String × Setting)} (h : Ordered entries) (key : String)
    (v : Setting) : Ordered (put key v entries) := by
  induction entries with
  | nil => exact List.pairwise_singleton ..
  | cons head rest ih =>
      obtain ⟨other, w⟩ := head
      obtain ⟨hhead, hrest⟩ := List.pairwise_cons.mp h
      rw [Setting.put]
      by_cases hsame : key = other
      · subst hsame
        rw [if_pos (beq_self_eq_true key)]
        exact List.pairwise_cons.mpr ⟨hhead, hrest⟩
      rw [if_neg (by simp [hsame])]
      by_cases hless : key < other
      · rw [if_pos hless]
        refine List.pairwise_cons.mpr ⟨fun e he => ?_, h⟩
        rcases List.mem_cons.mp he with rfl | he
        · exact hless
        · exact String.lt_trans hless (hhead e he)
      · rw [if_neg hless]
        refine List.pairwise_cons.mpr ⟨fun e he => ?_, ih hrest⟩
        rcases mem_put he with rfl | he
        · -- neither the same key nor one before it
          refine Decidable.byContradiction fun hnot => hsame ?_
          exact String.le_antisymm (String.not_lt.mp hnot) (String.not_lt.mp hless)
        · exact hhead e he

/-- The first key of a table does not come again. -/
theorem Ordered.lookup_rest {key : String} {v : Setting} {rest : List (String × Setting)}
    (h : Ordered ((key, v) :: rest)) : rest.lookup key = none := by
  refine List.lookup_eq_none_iff.mpr fun e he => ?_
  have hless : key < e.1 := (List.pairwise_cons.mp h).1 e he
  have hne : key ≠ e.1 := fun hsame => String.lt_irrefl key (by rwa [← hsame] at hless)
  simp [hne]

/-! ## Tables all the way down -/

/-- All tables of a setting have each key once. -/
inductive Keyed : Setting → Prop where
  | plain (o : Origin) (p : Plain) : Keyed (.plain o p)
  | list {o : Origin} {items : List Setting} (h : ∀ v ∈ items, Keyed v) : Keyed (.list o items)
  | table {o : Origin} {entries : List (String × Setting)} (hordered : Ordered entries)
      (h : ∀ e ∈ entries, Keyed e.2) : Keyed (.table o entries)

/-- A table without entries. -/
theorem keyed_empty (o : Origin) : Keyed (.table o []) := .table .nil (by simp)

theorem Keyed.ordered {o : Origin} {entries : List (String × Setting)}
    (h : Keyed (.table o entries)) : Ordered entries := by
  cases h with
  | table hordered hentries => exact hordered

theorem Keyed.put {key : String} {v : Setting} {entries : List (String × Setting)}
    (hv : Keyed v) (h : ∀ e ∈ entries, Keyed e.2) : ∀ e ∈ Setting.put key v entries, Keyed e.2 := by
  intro e he
  rcases mem_put he with rfl | he
  · exact hv
  · exact h e he

theorem keyed_of_lookup {key : String} {v : Setting} {entries : List (String × Setting)}
    (h : ∀ e ∈ entries, Keyed e.2) (hlookup : entries.lookup key = some v) : Keyed v := by
  obtain ⟨before, after, rfl, -⟩ := List.lookup_eq_some_iff.mp hlookup
  exact h (key, v) (by simp)

theorem Keyed.of_lookup {o : Origin} {key : String} {v : Setting}
    {entries : List (String × Setting)} (h : Keyed (.table o entries))
    (hlookup : entries.lookup key = some v) : Keyed v := by
  cases h with
  | table hordered hentries => exact keyed_of_lookup hentries hlookup

mutual

/-- A setting laid over another one has its tables, and those of the other. -/
theorem Keyed.laidOn : ∀ {v w : Setting}, Keyed v → Keyed w → Keyed (v.laidOn w)
  | .plain o p, w, hv, _ => by rwa [Setting.laidOn.eq_def]
  | .list o items, w, hv, _ => by rwa [Setting.laidOn.eq_def]
  | .table o entries, .plain _ _, hv, _ => by rwa [Setting.laidOn.eq_def]
  | .table o entries, .list _ _, hv, _ => by rwa [Setting.laidOn.eq_def]
  | .table o entries, .table _ below, .table _ hv, .table hordered hw => by
      rw [Setting.laidOn]
      obtain ⟨hordered, hentries⟩ := keyed_layEntries hv hordered hw
      exact .table hordered hentries

theorem keyed_layEntries : ∀ {entries below : List (String × Setting)},
    (∀ e ∈ entries, Keyed e.2) → Ordered below → (∀ e ∈ below, Keyed e.2) →
      Ordered (layEntries entries below) ∧ ∀ e ∈ layEntries entries below, Keyed e.2
  | [], below, _, hordered, hbelow => by
      rw [layEntries]
      exact ⟨hordered, hbelow⟩
  | (key, v) :: rest, below, hentries, hordered, hbelow => by
      obtain ⟨hv, hrest⟩ := List.forall_mem_cons.mp hentries
      rw [layEntries]
      refine keyed_layEntries hrest (hordered.put key _) (Keyed.put ?_ hbelow)
      cases hlookup : below.lookup key with
      | none => exact hv
      | some w => exact hv.laidOn (keyed_of_lookup hbelow hlookup)

end

/-- A table made of entries has each of their keys once. -/
theorem keyed_ofEntries (o : Origin) {entries : List (String × Setting)}
    (h : ∀ e ∈ entries, Keyed e.2) : Keyed (ofEntries o entries) := by
  have hfold : ∀ {done : List (String × Setting)}, Ordered done → (∀ e ∈ done, Keyed e.2) →
      Keyed (.table o (entries.foldl (fun t e => Setting.put e.1 e.2 t) done)) := by
    induction entries with
    | nil => exact fun hordered hdone => .table hordered hdone
    | cons e rest ih =>
        obtain ⟨hv, hrest⟩ := List.forall_mem_cons.mp h
        intro done hordered hdone
        exact ih hrest (hordered.put e.1 e.2) (Keyed.put hv hdone)
  exact hfold .nil (by simp)

mutual

/-- What is taken from a configuration is keyed. -/
theorem keyed_ofToml (o : Origin) : ∀ v : Toml.Value, Keyed (ofToml o v)
  | .text _ | .integer _ | .float _ | .boolean _ => by rw [ofToml]; exact .plain ..
  | .datetime _ => by
      rw [ofToml]
      exact .table (List.pairwise_singleton ..) fun e he => by
        rw [List.mem_singleton.mp he]
        exact .plain ..
  | .array items => by
      rw [ofToml]
      exact .list (keyed_ofTomlItems o items)
  | .table entries => by
      rw [ofToml]
      exact keyed_ofEntries o (keyed_ofTomlEntries o entries)

theorem keyed_ofTomlItems (o : Origin) :
    ∀ items : List Toml.Value, ∀ v ∈ ofTomlItems o items, Keyed v
  | [] => by rw [ofTomlItems]; simp
  | v :: rest => by
      rw [ofTomlItems]
      exact List.forall_mem_cons.mpr ⟨keyed_ofToml o v, keyed_ofTomlItems o rest⟩

theorem keyed_ofTomlEntries (o : Origin) :
    ∀ entries : List (String × Toml.Value), ∀ e ∈ ofTomlEntries o entries, Keyed e.2
  | [] => by rw [ofTomlEntries]; simp
  | (k, v) :: rest => by
      rw [ofTomlEntries]
      exact List.forall_mem_cons.mpr ⟨keyed_ofToml o v, keyed_ofTomlEntries o rest⟩

end

theorem keyed_nest (o : Origin) {v : Setting} (h : Keyed v) (path : List String) :
    Keyed (nest o path v) := by
  induction path with
  | nil => exact h
  | cons key path ih =>
      rw [nest]
      split
      · exact h
      · exact .table (List.pairwise_singleton ..) fun e he => by
          rw [List.mem_singleton.mp he]
          exact ih

/-! ## Laying layers -/

/-- A key of the upper table is laid over the same key of the lower one; all other keys stay. -/
theorem lookup_layEntries {entries : List (String × Setting)} (h : Ordered entries)
    (below : List (String × Setting)) (k : String) :
    (layEntries entries below).lookup k =
      Option.merge laidOn (entries.lookup k) (below.lookup k) := by
  induction entries generalizing below with
  | nil =>
      rw [layEntries]
      cases below.lookup k <;> rfl
  | cons e rest ih =>
      obtain ⟨key, v⟩ := e
      rw [layEntries, ih (List.pairwise_cons.mp h).2, lookup_put, List.lookup_cons]
      cases hsame : k == key with
      | false => rfl
      | true =>
          obtain rfl := eq_of_beq hsame
          rw [h.lookup_rest]
          cases below.lookup k <;> rfl

theorem mem_keys_put {key k : String} {v : Setting} {entries : List (String × Setting)} :
    k ∈ (put key v entries).map (·.1) ↔ k = key ∨ k ∈ entries.map (·.1) := by
  induction entries with
  | nil => simp [put]
  | cons e rest ih =>
      obtain ⟨other, w⟩ := e
      rw [put]
      split
      · next hsame => simp [eq_of_beq hsame]
      split
      · simp
      · rw [List.map_cons, List.mem_cons, ih, List.map_cons, List.mem_cons]
        exact or_left_comm

/-- Layers on top of each other have the keys of both. -/
theorem mem_keys_layEntries {entries below : List (String × Setting)} {k : String} :
    k ∈ (layEntries entries below).map (·.1) ↔
      k ∈ entries.map (·.1) ∨ k ∈ below.map (·.1) := by
  induction entries generalizing below with
  | nil => simp [layEntries]
  | cons e rest ih =>
      obtain ⟨key, v⟩ := e
      rw [layEntries, ih, mem_keys_put, List.map_cons, List.mem_cons]
      exact or_left_comm.trans or_assoc.symm

section Leaf

variable {α : Type} (d : Setting → Option α)

/-- What `d` reads at the end of some keys: nothing where there is a wrong type on the way or at
the end, `some none` where one of the keys is absent. -/
def leaf? : List String → Setting → Option (Option α)
  | [], v => (d v).map some
  | key :: path, .table _ entries =>
    match entries.lookup key with
    | some v => leaf? path v
    | none => some none
  | _ :: _, _ => none

variable {d}

/-- What is read under a key of a table. -/
theorem leaf?_key {o : Origin} {entries : List (String × Setting)} {key : String} {x : Option α}
    (h : (Setting.table o entries).leaf? d [key] = some x) :
    (entries.lookup key = none ∧ x = none) ∨
      ∃ v y, entries.lookup key = some v ∧ d v = some y ∧ x = some y := by
  rw [leaf?] at h
  cases hv : entries.lookup key with
  | none =>
      rw [hv] at h
      exact .inl ⟨rfl, (Option.some.inj h).symm⟩
  | some v =>
      rw [hv] at h
      obtain ⟨y, hy, rfl⟩ := Option.map_eq_some_iff.mp h
      exact .inr ⟨v, y, rfl, hy, rfl⟩

/-- A leaf of two layers is the one of the upper layer, or else that of the lower. -/
theorem leaf?_laidOn (hd : ∀ o entries, d (.table o entries) = none) {path : List String}
    {upper below : Setting} (hupper : Keyed upper) {x y : Option α}
    (hx : upper.leaf? d path = some x) (hy : below.leaf? d path = some y) :
    (upper.laidOn below).leaf? d path = some (x.or y) := by
  induction path generalizing upper below with
  | nil =>
      -- what is read at a leaf is no table, so that it takes the place of what is below
      have hkeep : upper.laidOn below = upper := by
        cases upper with
        | table o entries => simp [leaf?, hd] at hx
        | plain o p => rw [laidOn.eq_def]
        | list o items => rw [laidOn.eq_def]
      rw [hkeep, hx]
      rw [leaf?] at hx
      obtain ⟨value, -, rfl⟩ := Option.map_eq_some_iff.mp hx
      rfl
  | cons key path ih =>
      cases hupper with
      | plain o p => simp [leaf?] at hx
      | list h => simp [leaf?] at hx
      | @table o entries hordered hentries =>
          cases below with
          | plain o p => simp [leaf?] at hy
          | list o items => simp [leaf?] at hy
          | table o' lower =>
              -- a key that one layer alone has leads on as in that layer
              rw [leaf?] at hx hy
              rw [laidOn, leaf?, lookup_layEntries hordered]
              cases hv : entries.lookup key with
              | none =>
                  rw [hv] at hx
                  obtain rfl := Option.some.inj hx
                  cases hw : lower.lookup key with
                  | none =>
                      rw [hw] at hy
                      exact hy
                  | some w =>
                      rw [hw] at hy
                      exact hy
              | some v =>
                  rw [hv] at hx
                  cases hw : lower.lookup key with
                  | none =>
                      rw [hw] at hy
                      obtain rfl := Option.some.inj hy
                      rw [Option.or_none]
                      exact hx
                  | some w =>
                      rw [hw] at hy
                      exact ih (keyed_of_lookup hentries hv) hx hy

end Leaf

end QuietEmit.Setting
