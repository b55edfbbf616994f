/-
  QuietEmit.Proofs.FileTree.Location

  The paths that lead to locations. A path in normal form is the path of a location
  (`exists_clean_eq_pathOf`), so what joining, taking apart, containment and new
  extensions do to such paths is told by the names of their locations alone.
-/
import QuietEmit.FileTree
import QuietEmit.Proofs.Path.Extension
import QuietEmit.Proofs.Path.Join

namespace QuietEmit

/-! ## Names -/

/-- What a file or a directory can be called. -/
structure IsName (s : String) : Prop where
  ne_empty : s ≠ ""
  ne_here : s ≠ "."
  ne_up : s ≠ ".."
  slash_notMem : '/' ∉ s.toList

instance (s : String) : Decidable (IsName s) :=
  decidable_of_iff (s ≠ "" ∧ s ≠ "." ∧ s ≠ ".." ∧ '/' ∉ s.toList)
    ⟨fun h => ⟨h.1, h.2.1, h.2.2.1, h.2.2.2⟩, fun h => ⟨h.1, h.2, h.3, h.4⟩⟩

namespace IsName

variable {s : String} (h : IsName s)

include h

theorem not_idle : Path.isIdle s.toList = false := by
  have hempty : s.toList ≠ [] := by simpa using h.ne_empty
  have hhere : s.toList ≠ ['.'] := fun hs => h.ne_here (String.toList_inj.mp hs)
  simp [Path.isIdle, hempty, hhere]

theorem toList_ne_up : s.toList ≠ ['.', '.'] := fun hs => h.ne_up (String.toList_inj.mp hs)

theorem componentOf_toList : Path.componentOf s.toList = .name s :=
  (Path.componentOf_eq_name_iff h.not_idle).mpr ⟨rfl, h.toList_ne_up⟩

end IsName

/-- A part that is neither idle nor `..` is a name. -/
theorem isName_ofList {part : List Char} (hidle : Path.isIdle part = false)
    (hup : part ≠ ['.', '.']) (hslash : '/' ∉ part) : IsName (String.ofList part) := by
  simp only [Path.isIdle, Bool.or_eq_false_iff, beq_eq_false_iff_ne] at hidle
  refine ⟨?_, ?_, ?_, by simpa using hslash⟩ <;> intro h <;>
    have hlist := congrArg String.toList h <;> simp at hlist
  · exact hidle.1 hlist
  · exact hidle.2 hlist
  · exact hup hlist

namespace FileTree

/-- All names of a location can be names. -/
abbrev Named (loc : Location) : Prop := ∀ s ∈ loc, IsName s

theorem Named.left {a b : Location} (h : Named (a ++ b)) : Named a :=
  (List.forall_mem_append.mp h).1

theorem Named.right {a b : Location} (h : Named (a ++ b)) : Named b :=
  (List.forall_mem_append.mp h).2

/-! ## Paths of locations -/

theorem toList_pathOf (loc : Location) :
    (pathOf loc).text.toList = '/' :: ['/'].intercalate (loc.map String.toList) := by
  simp [pathOf, String.toList_intercalate]

theorem isAbsolute_pathOf (loc : Location) : (pathOf loc).isAbsolute = true := by
  simp [Path.isAbsolute, toList_pathOf]

/-- The root has one part, which is empty. -/
theorem parts_pathOf {loc : Location} (h : Named loc) :
    (pathOf loc).parts = if loc = [] then [[]] else loc.map String.toList := by
  have hslash : ∀ part ∈ loc.map String.toList, '/' ∉ part := by
    simpa using fun s hs => (h s hs).slash_notMem
  rw [Path.parts, toList_pathOf]
  by_cases hnil : loc = []
  · subst hnil
    simp
  · rw [if_neg hnil]
    exact List.splitOn_intercalate '/' hslash (by simpa using hnil)

theorem steps_map_toList {loc : Location} (h : Named loc) :
    Path.steps (loc.map String.toList) = loc.map .name := by
  induction loc with
  | nil => rfl
  | cons s loc ih =>
      obtain ⟨hs, hloc⟩ := List.forall_mem_cons.mp h
      rw [List.map_cons, Path.steps_cons_of_not_idle hs.not_idle, hs.componentOf_toList, ih hloc,
        List.map_cons]

theorem components_pathOf {loc : Location} (h : Named loc) :
    (pathOf loc).components = .root :: loc.map .name := by
  rw [Path.components_eq, isAbsolute_pathOf, parts_pathOf h]
  change Component.root :: Path.steps _ = _
  by_cases hnil : loc = []
  · subst hnil
    rfl
  · rw [if_neg hnil, steps_map_toList h]

/-- Components spell the path of a location. -/
theorem ofComponents_names (loc : Location) :
    Path.ofComponents (.root :: loc.map .name) = pathOf loc := by
  have htext : Component.text ∘ Component.name = id := rfl
  rw [Path.ofComponents, List.map_map, htext, List.map_id, pathOf]

theorem pathOf_injective {a b : Location} (ha : Named a) (hb : Named b)
    (h : (pathOf a).components = (pathOf b).components) : a = b := by
  rw [components_pathOf ha, components_pathOf hb, List.cons.injEq] at h
  exact (List.map_inj_right fun s t hst => Component.name.inj hst).mp h.2

/-! ## Normal form -/

/-- A step on top of a location leads to a location. -/
theorem exists_pushStep {loc : Location} (h : Named loc) {c : Component} (hroot : c ≠ .root)
    (hname : ∀ s, c = .name s → IsName s) :
    ∃ next, Named next ∧ Path.pushStep ((.root :: loc.map .name).reverse) c =
      (.root :: next.map .name).reverse := by
  cases c with
  | root => exact absurd rfl hroot
  | here => exact ⟨loc, h, rfl⟩
  | name s =>
      refine ⟨loc ++ [s], ?_, by simp [Path.pushStep]⟩
      simpa [Named, or_imp, forall_and] using ⟨h, hname s rfl⟩
  | up =>
      -- the last name is taken off; from the root there is no way up
      rcases List.eq_nil_or_concat loc with rfl | ⟨above, s, rfl⟩
      · exact ⟨[], h, rfl⟩
      · rw [List.concat_eq_append] at h ⊢
        exact ⟨above, h.left, by simp [Path.pushStep]⟩

/-- Steps from a location lead to a location. -/
theorem exists_foldl_pushStep {cs : List Component} {loc : Location} (h : Named loc)
    (hroot : .root ∉ cs) (hname : ∀ s, .name s ∈ cs → IsName s) :
    ∃ next, Named next ∧ cs.foldl Path.pushStep ((.root :: loc.map .name).reverse) =
      (.root :: next.map .name).reverse := by
  induction cs generalizing loc with
  | nil => exact ⟨loc, h, rfl⟩
  | cons c cs ih =>
      obtain ⟨hc, hcs⟩ : .root ≠ c ∧ .root ∉ cs := by simpa using hroot
      obtain ⟨next, hnext, hpush⟩ := exists_pushStep h (Ne.symm hc)
        fun s hs => hname s (hs ▸ List.mem_cons_self)
      rw [List.foldl_cons, hpush]
      exact ih hnext hcs fun s hs => hname s (List.mem_cons_of_mem _ hs)

/-- Steps that are names can be names. -/
theorem isName_of_mem_steps {parts : List (List Char)} (hslash : ∀ part ∈ parts, '/' ∉ part)
    {s : String} (h : .name s ∈ Path.steps parts) : IsName s := by
  obtain ⟨part, hpart, hs⟩ := List.mem_map.mp h
  obtain ⟨hmem, hidle⟩ := List.mem_filter.mp hpart
  have hidle' : Path.isIdle part = false := by simpa using hidle
  obtain ⟨rfl, hup⟩ := (Path.componentOf_eq_name_iff hidle').mp hs
  simpa using isName_ofList hidle' hup (hslash _ hmem)

/-- The names among the components of a path can be names. -/
theorem isName_of_mem_components {p : Path} {s : String} (h : .name s ∈ p.components) :
    IsName s := by
  rw [Path.components_eq] at h
  have hsteps : .name s ∈ Path.steps p.parts := by
    unfold Path.stepsFrom at h
    split at h
    · simpa using h
    · split at h
      · next rest hparts =>
          rw [hparts, Path.steps_cons_of_idle rfl]
          simpa using h
      · exact h
  exact isName_of_mem_steps (Path.spells p).slash_notMem hsteps

/-- The steps of an absolute path in normal form are those to a location. -/
theorem exists_normalize_eq {p : Path} (h : p.isAbsolute = true) :
    ∃ loc, Named loc ∧ Path.normalize p.components = .root :: loc.map .name := by
  have hcomponents : p.components = .root :: Path.steps p.parts := by
    rw [Path.components_eq, h]
    rfl
  obtain ⟨loc, hloc, hfold⟩ := exists_foldl_pushStep (List.forall_mem_nil _)
    (Path.root_notMem_steps p.parts) (fun s => isName_of_mem_steps (Path.spells p).slash_notMem)
  refine ⟨loc, hloc, ?_⟩
  rw [Path.normalize, hcomponents, List.foldl_cons]
  change (List.foldl Path.pushStep [.root] _).reverse = _
  rw [← List.reverse_reverse (.root :: loc.map Component.name)]
  exact congrArg List.reverse hfold

/-- The normal form of an absolute path is the path of a location. -/
theorem exists_clean_eq_pathOf {p : Path} (h : p.isAbsolute = true) :
    ∃ loc, Named loc ∧ p.clean = pathOf loc := by
  obtain ⟨loc, hloc, hnormal⟩ := exists_normalize_eq h
  refine ⟨loc, hloc, ?_⟩
  rw [Path.clean, hnormal]
  exact ofComponents_names loc

/-- An absolute path is made of the same steps in normal form as the path that spells this form. -/
theorem components_clean {p : Path} (h : p.isAbsolute = true) :
    p.clean.components = Path.normalize p.components := by
  obtain ⟨loc, hloc, hnormal⟩ := exists_normalize_eq h
  have hclean : p.clean = pathOf loc := by
    rw [Path.clean, hnormal]
    exact ofComponents_names loc
  rw [hclean, components_pathOf hloc, hnormal]

theorem foldl_pushStep_names (loc : Location) (done : List Component) :
    (loc.map Component.name).foldl Path.pushStep done =
      (loc.map Component.name).reverse ++ done := by
  induction loc generalizing done with
  | nil => rfl
  | cons s loc ih =>
      rw [List.map_cons, List.foldl_cons, ih, List.reverse_cons, List.append_assoc]
      rfl

/-- The path of a location is in normal form. -/
theorem clean_pathOf {loc : Location} (h : Named loc) : (pathOf loc).clean = pathOf loc := by
  have hnormal : Path.normalize (pathOf loc).components = .root :: loc.map .name := by
    rw [Path.normalize, components_pathOf h, List.foldl_cons]
    change (List.foldl Path.pushStep [.root] _).reverse = _
    rw [foldl_pushStep_names, List.reverse_append, List.reverse_reverse]
    rfl
  rw [Path.clean, hnormal]
  exact ofComponents_names loc

/-- The normal form of an absolute path is absolute. -/
theorem isAbsolute_clean {p : Path} (h : p.isAbsolute = true) : p.clean.isAbsolute = true := by
  obtain ⟨loc, -, hclean⟩ := exists_clean_eq_pathOf h
  rw [hclean]
  exact isAbsolute_pathOf loc

/-! ## Taking apart -/

theorem ofParts_map_toList (loc : Location) :
    Path.ofParts true (loc.map String.toList) = pathOf loc := by
  have htext : (Path.ofParts true (loc.map String.toList)).text = (pathOf loc).text := by
    rw [← String.toList_inj, toList_pathOf]
    simp [Path.ofParts]
  exact congrArg Path.mk htext

theorem trimmedParts_pathOf {loc : Location} (h : Named loc) :
    (pathOf loc).trimmedParts = (loc.map String.toList).reverse := by
  rw [Path.trimmedParts, parts_pathOf h]
  rcases List.eq_nil_or_concat loc with rfl | ⟨above, s, rfl⟩
  · simp [Path.trimmedParts.trim]
  · rw [List.concat_eq_append] at h ⊢
    -- the last part is a name, so nothing is trimmed
    have hidle : Path.isIdle s.toList = false := (h s (by simp)).not_idle
    have hempty : s.toList ≠ [] := by
      rintro hs
      simp [hs, Path.isIdle] at hidle
    rw [if_neg (by simp), List.map_append, List.reverse_append]
    change Path.trimmedParts.trim _ (s.toList :: (above.map String.toList).reverse) = _
    cases habove : (above.map String.toList).reverse with
    | nil => simp [Path.trimmedParts.trim, hidle, hempty]
    | cons part parts => simp [Path.trimmedParts.trim, hidle]

/-- Above the last name of a location is the location without it. -/
theorem parent_pathOf {loc : Location} {s : String} (h : Named (loc ++ [s])) :
    (pathOf (loc ++ [s])).parent = some (pathOf loc) := by
  have hloc : Named loc := h.left
  rw [Path.parent, trimmedParts_pathOf h, isAbsolute_pathOf, List.map_append, List.reverse_append]
  change some (Path.ofParts true
    (Path.ofParts true (loc.map String.toList).reverse.reverse).trimmedParts.reverse) = _
  rw [List.reverse_reverse, ofParts_map_toList, trimmedParts_pathOf hloc, List.reverse_reverse,
    ofParts_map_toList]

theorem parentOrEmpty_pathOf {loc : Location} {s : String} (h : Named (loc ++ [s])) :
    (pathOf (loc ++ [s])).parentOrEmpty = pathOf loc := by
  rw [Path.parentOrEmpty, parent_pathOf h]
  rfl

theorem dropSteps_names {a : Location} (h : Named a) (rest : List (List Char)) :
    Path.dropSteps (a.map .name) (a.map String.toList ++ rest) = some rest := by
  induction a with
  | nil => simp [Path.dropSteps]
  | cons s a ih =>
      obtain ⟨hs, ha⟩ := List.forall_mem_cons.mp h
      simp [Path.dropSteps, hs.not_idle, hs.componentOf_toList, ih ha]

theorem dropWhile_isIdle_map_toList {loc : Location} (h : Named loc) :
    (loc.map String.toList).dropWhile Path.isIdle = loc.map String.toList := by
  cases loc with
  | nil => rfl
  | cons s loc => simp [(h s (by simp)).not_idle]

/-- No part of a location is idle. -/
theorem inner_map_toList {loc : Location} (h : Named loc) :
    Path.inner (loc.map String.toList) = loc.map String.toList := by
  have hreverse : Named loc.reverse := fun s hs => h s (List.mem_reverse.mp hs)
  rw [Path.inner, dropWhile_isIdle_map_toList h, ← List.map_reverse,
    dropWhile_isIdle_map_toList hreverse, List.map_reverse, List.reverse_reverse]

/-- Below a location are the names that come after it. -/
theorem below?_pathOf {a b : Location} (h : Named (a ++ b)) :
    (pathOf (a ++ b)).below? (pathOf a) = some ⟨"/".intercalate b⟩ := by
  have ha : Named a := h.left
  have hb : Named b := h.right
  have hbase := components_pathOf ha
  have hfinish : Path.ofParts false (Path.inner (b.map String.toList)) =
      ⟨"/".intercalate b⟩ := by
    rw [inner_map_toList hb, Path.mk.injEq, ← String.toList_inj, String.toList_intercalate]
    simp [Path.ofParts]
  rw [Path.below?, if_neg (by simp [hbase])]
  simp only [hbase, isAbsolute_pathOf, parts_pathOf h]
  change (Path.dropSteps (a.map .name) _).map (fun parts => Path.ofParts false (Path.inner parts)) = _
  by_cases hnil : a ++ b = []
  · obtain ⟨rfl, rfl⟩ := List.append_eq_nil_iff.mp hnil
    rfl
  · rw [if_neg hnil, List.map_append, dropSteps_names ha, Option.map_some, hfinish]

theorem startsWith_pathOf {a b : Location} (ha : Named a) (hb : Named b) :
    (pathOf a).startsWith (pathOf b) = true ↔ b <+: a := by
  rw [Path.startsWith, components_pathOf ha, components_pathOf hb, List.isPrefixOf_iff_prefix,
    List.cons_prefix_cons, and_iff_right rfl]
  constructor
  · intro hbegins
    rw [List.prefix_iff_eq_take, List.length_map, ← List.map_take,
      List.map_inj_right fun s t hst => Component.name.inj hst] at hbegins
    exact hbegins ▸ List.take_prefix _ _
  · exact fun hbegins => hbegins.map _

theorem fileName_pathOf {loc : Location} {s : String} (h : Named (loc ++ [s])) :
    (pathOf (loc ++ [s])).fileName = some s :=
  Path.fileName_eq_some_iff.mpr ⟨.root :: loc.map .name, by simp [components_pathOf h]⟩

/-! ## Joining and new extensions -/

/-- Names after one another make a relative path. -/
theorem isAbsolute_intercalate {loc : Location} (h : Named loc) :
    (Path.mk ("/".intercalate loc)).isAbsolute = false := by
  cases loc with
  | nil => rfl
  | cons s loc =>
      obtain ⟨hs, -⟩ := List.forall_mem_cons.mp h
      have hhead : s.toList.head? ≠ some '/' := fun hslash =>
        hs.slash_notMem (List.mem_of_mem_head? hslash)
      have hempty : s.toList ≠ [] := by simpa using hs.ne_empty
      obtain ⟨c, cs, hcs⟩ := List.exists_cons_of_ne_nil hempty
      have hc : c ≠ '/' := by simpa [hcs] using hhead
      cases loc with
      | nil => simp [Path.isAbsolute, hcs, hc]
      | cons t loc => simp [Path.isAbsolute, String.intercalate_cons_cons, hcs, hc]

/-- Names after one another are the components of their path. -/
theorem components_intercalate {loc : Location} (h : Named loc) :
    (Path.mk ("/".intercalate loc)).components = loc.map .name := by
  have hnil : Named ([] : Location) := List.forall_mem_nil _
  have hbelow := Path.components_eq_append_of_below? (below?_pathOf (a := []) h)
  rw [List.nil_append, components_pathOf h, components_pathOf hnil] at hbelow
  exact (List.cons.inj hbelow).2.symm

/-- Names after one another end with the last one. -/
theorem exists_intercalate_concat (above : Location) (s : String) :
    ∃ front, "/".intercalate (above ++ [s]) = front ++ s := by
  cases above with
  | nil => exact ⟨"", by simp⟩
  | cons t above =>
      rw [String.intercalate_append_of_ne_nil (by simp) (by simp), String.intercalate_singleton]
      exact ⟨_, rfl⟩

theorem getLast?_intercalate {above : Location} {s : String} (h : IsName s) :
    ("/".intercalate (above ++ [s])).toList.getLast? = s.toList.getLast? := by
  have hempty : s.toList ≠ [] := by simpa using h.ne_empty
  obtain ⟨front, hfront⟩ := exists_intercalate_concat above s
  rw [hfront, String.toList_append, List.getLast?_append, List.getLast?_eq_some_getLast hempty]
  rfl

/-- Only the path of the root ends in a slash. -/
theorem getLast?_pathOf {loc : Location} (h : Named loc) (hne : loc ≠ []) :
    (pathOf loc).text.toList.getLast? ≠ some '/' := by
  rcases List.eq_nil_or_concat loc with rfl | ⟨above, s, rfl⟩
  · exact absurd rfl hne
  · rw [List.concat_eq_append] at h ⊢
    have hs : IsName s := h s (by simp)
    have hlast : ("/".intercalate (above ++ [s])).toList.getLast? = s.toList.getLast? :=
      getLast?_intercalate hs
    intro hslash
    rw [pathOf, String.toList_append, List.getLast?_append, hlast] at hslash
    cases hname : s.toList.getLast? with
    | none => simp [hs.ne_empty] at hname
    | some c =>
        obtain rfl : c = '/' := by simpa [hname] using hslash
        exact hs.slash_notMem (List.mem_of_getLast? hname)

/-- Names join to a location. -/
theorem join_pathOf {a b : Location} (h : Named (a ++ b)) (hne : b ≠ []) :
    (pathOf a).join ⟨"/".intercalate b⟩ = pathOf (a ++ b) := by
  have ha : Named a := h.left
  have hb : Named b := h.right
  rw [Path.join, isAbsolute_intercalate hb, if_neg Bool.false_ne_true]
  by_cases hnil : a = []
  · subst hnil
    rfl
  · have hempty : (pathOf a).text.isEmpty = false := by simp [pathOf]
    rw [if_neg (by simp [hempty, getLast?_pathOf ha hnil])]
    simp [pathOf, String.intercalate_append_of_ne_nil hnil hne, String.append_assoc]

/-- A new extension makes another name of the last one. -/
theorem withExtension_pathOf {loc : Location} {s ext : String} (h : Named (loc ++ [s]))
    (hext : ext ≠ "") (hslash : '/' ∉ ext.toList) :
    IsName (Path.stemOf s ++ "." ++ ext) ∧ (pathOf (loc ++ [s])).withExtension ext =
      pathOf (loc ++ [Path.stemOf s ++ "." ++ ext]) := by
  have hs : IsName s := h s (by simp)
  obtain ⟨hidle, hup⟩ := Path.stemOf_append_ordinary hs.ne_empty hext
  have hname := isName_ofList hidle hup (Path.slash_notMem_stemOf_append hs.slash_notMem hslash)
  rw [String.ofList_toList] at hname
  refine ⟨hname, ?_⟩
  have htrimmed : (pathOf (loc ++ [s])).trimmedParts =
      s.toList :: (loc.map String.toList).reverse := by
    simp [trimmedParts_pathOf h]
  have hempty : ext.isEmpty = false := by simpa using hext
  rw [Path.withExtension, Path.fileStem_eq, fileName_pathOf h, htrimmed, isAbsolute_pathOf]
  change Path.ofParts true (_ :: (loc.map String.toList).reverse).reverse = _
  rw [hempty, ← ofParts_map_toList]
  simp

end FileTree

end QuietEmit
