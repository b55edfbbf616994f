/-
  QuietEmit.Proofs.FileTree.WellFormed

  Well-formed trees. In a well-formed tree whatever stands somewhere stands in a
  directory, so what the path of a location leads to is what stands there
  (`WellFormed.lookup_pathOf`), and any other path leads to a location in a directory or
  nowhere (`WellFormed.of_locate`).
-/
import Mathlib.Data.List.Induction
import Mathlib.Data.List.Nodup
import QuietEmit.Proofs.FileTree.Location
import QuietEmit.Project.Inputs

namespace QuietEmit

namespace FileTree

/-! ## Well-formed trees -/

/-- Names can be names, nothing stands twice at one location, and whatever stands somewhere stands in
a directory. -/
structure WellFormed (t : FileTree) : Prop where
  named : ∀ e ∈ t.entries, Named e.1
  nodup : (t.entries.map Prod.fst).Nodup
  inDir : ∀ e ∈ t.entries, t.at? e.1.dropLast = some .dir

variable {t t' : FileTree} {loc : Location} {e : Entry}

@[simp] theorem at?_nil : t.at? [] = some .dir := rfl

theorem isDirAt_iff : t.isDirAt loc = true ↔ t.at? loc = some .dir := by
  rw [isDirAt]
  split <;> simp_all

instance (t : FileTree) : Decidable t.WellFormed :=
  decidable_of_iff ((∀ e ∈ t.entries, Named e.1) ∧ (t.entries.map Prod.fst).Nodup ∧
      ∀ e ∈ t.entries, t.isDirAt e.1.dropLast = true)
    ⟨fun ⟨named, nodup, inDir⟩ => ⟨named, nodup, fun e he => isDirAt_iff.mp (inDir e he)⟩,
      fun h => ⟨h.named, h.nodup, fun e he => isDirAt_iff.mpr (h.inDir e he)⟩⟩

theorem mem_entries_of_at? (hne : loc ≠ []) (h : t.at? loc = some e) : (loc, e) ∈ t.entries := by
  rw [at?, if_neg (by simpa using hne), Option.map_eq_some_iff] at h
  obtain ⟨⟨loc', e'⟩, hfind, rfl⟩ := h
  obtain rfl : loc' = loc := by simpa using List.find?_some hfind
  exact List.mem_of_find?_eq_some hfind

namespace WellFormed

variable (wf : t.WellFormed)

include wf

/-- What is listed for a location stands there. -/
theorem at?_of_mem (hne : loc ≠ []) (h : (loc, e) ∈ t.entries) : t.at? loc = some e := by
  have hsome : (t.entries.find? (·.1 == loc)).isSome := by
    rw [List.find?_isSome]
    exact ⟨_, h, by simp⟩
  obtain ⟨⟨loc', e'⟩, hfind⟩ := Option.isSome_iff_exists.mp hsome
  obtain rfl : loc' = loc := by simpa using List.find?_some hfind
  -- the entry that is found has the location of this one, and no location stands twice
  have hunique := List.inj_on_of_nodup_map wf.nodup (List.mem_of_find?_eq_some hfind) h rfl
  rw [at?, if_neg (by simpa using hne), hfind, hunique]
  rfl

theorem named_of_at? (h : t.at? loc = some e) : Named loc := by
  by_cases hne : loc = []
  · subst hne
    exact List.forall_mem_nil _
  · exact wf.named _ (mem_entries_of_at? hne h)

/-- Above whatever stands somewhere are directories. -/
theorem dir_of_at? {above rest : Location} (h : t.at? (above ++ rest) = some e) (hne : rest ≠ []) :
    t.at? above = some .dir := by
  induction rest using List.reverseRecOn generalizing e with
  | nil => exact absurd rfl hne
  | append_singleton rest s ih =>
      -- what stands last stands in the directory before it, and so on upwards
      have hdir := wf.inDir _ (mem_entries_of_at? (by simp) h)
      rw [← List.append_assoc, List.dropLast_concat] at hdir
      by_cases hrest : rest = []
      · rwa [hrest, List.append_nil] at hdir
      · exact ih hdir hrest

theorem dir_dropLast (h : t.at? loc = some e) : t.at? loc.dropLast = some .dir := by
  rcases List.eq_nil_or_concat loc with rfl | ⟨above, s, rfl⟩
  · rfl
  · rw [List.concat_eq_append] at h ⊢
    rw [List.dropLast_concat]
    exact wf.dir_of_at? h (by simp)

end WellFormed

/-! ## Following the path of a location -/

/-- Following names ends at the location that they make, in a directory. -/
theorem eq_of_follow {base rest r : Location} (h : Named rest)
    (hfollow : t.follow base (rest.map String.toList) = .ok r) :
    r = base ++ rest ∧ (rest ≠ [] → t.at? (base ++ rest.dropLast) = some .dir) := by
  induction rest generalizing base with
  | nil => exact ⟨by simpa [follow, eq_comm] using hfollow, fun hne => absurd rfl hne⟩
  | cons s rest ih =>
      obtain ⟨hs, hrest⟩ := List.forall_mem_cons.mp h
      have hup : (s.toList == ['.', '.']) = false := by simpa using hs.toList_ne_up
      rw [List.map_cons, follow] at hfollow
      split at hfollow
      · simp at hfollow
      · simp at hfollow
      · next hbase =>
          simp only [hs.not_idle, hup, Bool.false_eq_true, if_false, String.ofList_toList] at hfollow
          obtain ⟨hr, hdir⟩ := ih hrest hfollow
          refine ⟨by simpa using hr, fun _ => ?_⟩
          cases rest with
          | nil => simpa using hbase
          | cons u rest => simpa using hdir (by simp)

/-- Names that end in a directory are followed. -/
theorem WellFormed.follow_eq (wf : t.WellFormed) {base rest : Location} (h : Named rest)
    (hdir : rest ≠ [] → t.at? (base ++ rest.dropLast) = some .dir) :
    t.follow base (rest.map String.toList) = .ok (base ++ rest) := by
  induction rest generalizing base with
  | nil => simp [follow]
  | cons s rest ih =>
      obtain ⟨hs, hrest⟩ := List.forall_mem_cons.mp h
      have hup : (s.toList == ['.', '.']) = false := by simpa using hs.toList_ne_up
      have hlast := hdir (by simp)
      -- a directory at the end has directories on the way to it
      have hbase : t.at? base = some .dir := by
        cases rest with
        | nil => simpa using hlast
        | cons u rest => exact wf.dir_of_at? hlast (by simp)
      have hnext : t.follow (base ++ [s]) (rest.map String.toList) = .ok (base ++ [s] ++ rest) :=
        ih hrest fun hne => by
          cases rest with
          | nil => exact absurd rfl hne
          | cons u rest => simpa using hlast
      rw [List.map_cons, follow, hbase]
      simp only [hs.not_idle, hup, Bool.false_eq_true, if_false, String.ofList_toList, hnext,
        List.append_assoc, List.singleton_append]

theorem locate_pathOf_eq (h : Named loc) :
    t.locate (pathOf loc) = t.follow [] (loc.map String.toList) := by
  have htext : (pathOf loc).text.isEmpty = false := by simp [pathOf]
  rw [locate, htext, isAbsolute_pathOf, parts_pathOf h, if_neg Bool.false_ne_true, if_pos rfl]
  by_cases hnil : loc = []
  · subst hnil
    rfl
  · rw [if_neg hnil]

/-- The path of a location leads nowhere else, and there is a directory above it. -/
theorem eq_of_locate (h : Named loc) {r : Location} (hlocate : t.locate (pathOf loc) = .ok r) :
    r = loc ∧ t.at? loc.dropLast = some .dir := by
  rw [locate_pathOf_eq h] at hlocate
  obtain ⟨hr, hdir⟩ := eq_of_follow h hlocate
  refine ⟨hr, ?_⟩
  by_cases hnil : loc = []
  · subst hnil
    rfl
  · exact hdir hnil

theorem WellFormed.locate_pathOf (wf : t.WellFormed) (h : Named loc)
    (hdir : t.at? loc.dropLast = some .dir) : t.locate (pathOf loc) = .ok loc := by
  rw [locate_pathOf_eq h, wf.follow_eq h fun _ => hdir, List.nil_append]

/-- The path of a location leads to what stands there. -/
theorem WellFormed.lookup_pathOf (wf : t.WellFormed) (h : Named loc) :
    t.lookup (pathOf loc) = .ok e ↔ t.at? loc = some e := by
  constructor
  · intro hlookup
    cases hlocate : t.locate (pathOf loc) with
    | error cause => simp [lookup, hlocate, bind, Except.bind] at hlookup
    | ok r =>
        obtain ⟨rfl, -⟩ := eq_of_locate h hlocate
        cases hat : t.at? r with
        | none => simp [lookup, hlocate, hat, bind, Except.bind] at hlookup
        | some e' => simpa [lookup, hlocate, hat, bind, Except.bind, pure, Except.pure] using hlookup
  · intro hat
    have hdir := wf.dir_dropLast hat
    simp [lookup, wf.locate_pathOf h hdir, hat, bind, Except.bind, pure, Except.pure]

theorem WellFormed.isDir_pathOf (wf : t.WellFormed) (h : Named loc) :
    t.isDir (pathOf loc) = true ↔ t.at? loc = some .dir := by
  rw [← wf.lookup_pathOf h, isDir]
  split <;> simp_all

/-! ## Following any path -/

/-- Following parts ends at a location in a directory. -/
theorem WellFormed.of_follow (wf : t.WellFormed) {base r : Location} {parts : List (List Char)}
    (hslash : ∀ part ∈ parts, '/' ∉ part) (hbase : Named base)
    (hdir : t.at? base.dropLast = some .dir) (h : t.follow base parts = .ok r) :
    Named r ∧ t.at? r.dropLast = some .dir := by
  induction parts generalizing base with
  | nil =>
      obtain rfl : base = r := by simpa [follow] using h
      exact ⟨hbase, hdir⟩
  | cons part parts ih =>
      obtain ⟨hpart, hparts⟩ := List.forall_mem_cons.mp hslash
      rw [follow] at h
      split at h
      · simp at h
      · simp at h
      · next hat =>
          split at h
          · exact ih hparts hbase hdir h
          · next hidle =>
              split at h
              · -- up, to the directory that the last one stands in
                have hup : Named base.dropLast := fun s hs => hbase s (List.dropLast_subset _ hs)
                exact ih hparts hup (wf.dir_dropLast hdir) h
              · next hup =>
                  have hname : IsName (String.ofList part) :=
                    isName_ofList (by simpa using hidle) (by simpa using hup) hpart
                  have hnext : Named (base ++ [String.ofList part]) := by
                    simpa [Named, or_imp, forall_and] using ⟨hbase, hname⟩
                  exact ih hparts hnext (by rwa [List.dropLast_concat]) h

/-- A path leads to a location in a directory, or nowhere. -/
theorem WellFormed.of_locate (wf : t.WellFormed) {p : Path} {r : Location}
    (h : t.locate p = .ok r) : Named r ∧ t.at? r.dropLast = some .dir := by
  rw [locate] at h
  split at h
  · simp at h
  · obtain ⟨part, parts, hparts⟩ := List.exists_cons_of_ne_nil (Path.spells p).ne_nil
    generalize (if p.isAbsolute = true then [] else t.workingDir) = base at h
    -- a path has a part, for which the place where it starts has to be a directory
    have hbase : t.at? base = some .dir := by
      rw [hparts, follow] at h
      split at h <;> simp_all
    exact wf.of_follow (Path.spells p).slash_notMem (wf.named_of_at? hbase)
      (wf.dir_dropLast hbase) h

/-! ## Putting entries -/

theorem at?_put {l : Location} (hne : loc ≠ []) :
    (t.put loc e).at? l = if l = loc then some e else t.at? l := by
  by_cases hl : l = loc
  · subst hl
    have hother : (t.entries.filter (·.1 != l)).find? (·.1 == l) = none := by
      simp [List.find?_eq_none]
    rw [at?, if_neg (by simpa using hne), if_pos rfl, put, List.find?_append, hother]
    simp
  · rw [if_neg hl, at?, at?]
    split
    · rfl
    · have hlast : [(loc, e)].find? (·.1 == l) = none := by simp [Ne.symm hl]
      have hkept : (fun x : Location × Entry => decide ((x.1 != loc) = true ∧ (x.1 == l) = true)) =
          (·.1 == l) := by
        funext x
        by_cases hx : x.1 = l <;> simp [hx, hl]
      rw [put, List.find?_append, hlast, Option.or_none, List.find?_filter, hkept]

/-- A tree stays well-formed with an entry that is put in a directory and does not take the place of
one. -/
theorem WellFormed.put (wf : t.WellFormed) (h : Named loc) (hne : loc ≠ [])
    (hdir : t.at? loc.dropLast = some .dir) (hkeep : t.at? loc ≠ some .dir) :
    (t.put loc e).WellFormed := by
  -- no directory is replaced, so what stood in one still does
  have hkept : ∀ l, t.at? l = some .dir → (t.put loc e).at? l = some .dir := by
    intro l hl
    have hother : l ≠ loc := by
      rintro rfl
      exact hkeep hl
    rw [at?_put hne, if_neg hother, hl]
  have hmem : ∀ x ∈ (t.put loc e).entries, x ∈ t.entries ∨ x = (loc, e) := by
    intro x hx
    rw [FileTree.put, List.mem_append, List.mem_filter, List.mem_singleton] at hx
    exact hx.imp_left And.left
  constructor
  · intro x hx
    obtain hx | rfl := hmem x hx
    · exact wf.named x hx
    · exact h
  · rw [FileTree.put, List.map_append, List.nodup_append]
    refine ⟨(wf.nodup.sublist (List.filter_sublist.map _)), by simp, ?_⟩
    simp only [List.mem_map, List.mem_filter]
    rintro l ⟨x, ⟨-, hx⟩, rfl⟩ l' hl'
    obtain rfl : loc = l' := by simpa using hl'
    simpa using hx
  · intro x hx
    obtain hx | rfl := hmem x hx
    · exact hkept _ (wf.inDir x hx)
    · exact hkept _ hdir

/-! ## Reading -/

/-- A text is read wherever the file has stayed. -/
theorem WellFormed.readText_of_at? (wf : t.WellFormed) (wf' : t'.WellFormed) (h : Named loc)
    (hsame : t'.at? loc = t.at? loc) {text : String} (hread : t.readText (pathOf loc) = .ok text) :
    t'.readText (pathOf loc) = .ok text := by
  cases hlookup : t.lookup (pathOf loc) with
  | error cause => simp [readText, hlookup, bind, Except.bind] at hread
  | ok e =>
      have hlookup' : t'.lookup (pathOf loc) = .ok e := by
        rw [wf'.lookup_pathOf h, hsame]
        exact (wf.lookup_pathOf h).mp hlookup
      simpa [readText, hlookup, hlookup', bind, Except.bind] using hread

/-- What is read is a file. -/
theorem WellFormed.at?_of_readText (wf : t.WellFormed) (h : Named loc) {text : String}
    (hread : t.readText (pathOf loc) = .ok text) : ∃ bytes, t.at? loc = some (.file bytes) := by
  cases hlookup : t.lookup (pathOf loc) with
  | error cause => simp [readText, hlookup, bind, Except.bind] at hread
  | ok e =>
      cases e with
      | file bytes => exact ⟨bytes, (wf.lookup_pathOf h).mp hlookup⟩
      | dir => simp [readText, hlookup, bind, Except.bind, throw, throwThe,
          MonadExceptOf.throw] at hread

/-- The files below a directory. -/
theorem WellFormed.mem_filesBelow (wf : t.WellFormed) {below : Location} :
    below ∈ t.filesBelow dir ↔
      below ≠ [] ∧ ∃ bytes, t.at? (dir ++ below) = some (.file bytes) := by
  rw [filesBelow, List.mem_filterMap]
  constructor
  · rintro ⟨⟨loc, e⟩, hmem, he⟩
    cases e with
    | dir => simp at he
    | file bytes =>
        obtain ⟨⟨hbegins, hlength⟩, rfl⟩ :
            (dir <+: loc ∧ dir.length < loc.length) ∧ loc.drop dir.length = below := by
          simpa [List.isPrefixOf_iff_prefix] using he
        obtain ⟨rest, rfl⟩ := hbegins
        have hne : rest ≠ [] := by
          rintro rfl
          simp at hlength
        rw [List.drop_left]
        exact ⟨hne, bytes, wf.at?_of_mem (by simp [hne]) hmem⟩
  · rintro ⟨hne, bytes, hat⟩
    refine ⟨_, mem_entries_of_at? (by simp [hne]) hat, ?_⟩
    have hlength : 0 < below.length := List.length_pos_iff.mpr hne
    simp [List.isPrefixOf_iff_prefix, hlength]

end FileTree

end QuietEmit
