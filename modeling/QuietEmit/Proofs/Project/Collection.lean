/-
  QuietEmit.Proofs.Project.Collection

  Which files the patterns of a project collect. The patterns that leave out come last,
  and the last one is made of the name of the output directory, so nothing at or below a
  directory that reads as itself is collected (`not_startsWith_of_mem_found`).
-/
import QuietEmit.Proofs.FileTree.Writing
import QuietEmit.Proofs.Project.Inputs
import QuietEmit.Proofs.Project.Override

namespace QuietEmit

open FileTree (Named pathOf)
open Glob (bytes isOrdinary isPlain)

/-! ## The text of names -/

/-- Names with slashes between them. -/
def textOf (loc : Location) : List Char := ("/".intercalate loc).toList

theorem relativeBytes_eq (loc : Location) : relativeBytes loc = bytes (textOf loc) :=
  Glob.toList_toUTF8 _

theorem splitOn_textOf {loc : Location} (h : Named loc) (hne : loc ≠ []) :
    (textOf loc).splitOn '/' = loc.map String.toList := by
  rw [textOf, String.toList_intercalate]
  refine List.splitOn_intercalate '/' ?_ (by simpa using hne)
  simpa using fun s hs => (h s hs).slash_notMem

theorem textOf_ne_nil {loc : Location} (h : Named loc) (hne : loc ≠ []) : textOf loc ≠ [] := by
  intro hnil
  have hsplit := splitOn_textOf h hne
  rw [hnil, List.splitOn_nil] at hsplit
  obtain ⟨s, loc, rfl⟩ := List.exists_cons_of_ne_nil hne
  obtain ⟨hs, -⟩ := List.cons.inj hsplit
  exact (h s (by simp)).ne_empty (by simpa using hs.symm)

/-- What text begins the text of names, up to a slash or as a whole, is the text of the first of
them. -/
theorem exists_take_of_prefix {loc : Location} (h : Named loc) {text : List Char}
    (hbegins : text = textOf loc ∨ text ++ ['/'] <+: textOf loc) (hne : loc ≠ []) :
    ∃ n, 0 < n ∧ n ≤ loc.length ∧ text = textOf (loc.take n) := by
  have hpos := List.length_pos_iff.mpr hne
  obtain rfl | ⟨more, hmore⟩ := hbegins
  · exact ⟨loc.length, hpos, Nat.le_refl _, by rw [List.take_length]⟩
  · -- both texts are split at their slashes; the parts of the first begin those of the second
    have hsplit := splitOn_textOf h hne
    rw [← hmore, List.append_assoc, List.singleton_append, List.splitOn_append_cons_self] at hsplit
    refine ⟨(text.splitOn '/').length, ?_, ?_, ?_⟩
    · exact List.length_pos_iff.mpr (List.splitOn_ne_nil _ _)
    · have hlength := congrArg List.length hsplit
      rw [List.length_append, List.length_map] at hlength
      omega
    · have htake := congrArg (List.take (text.splitOn '/').length) hsplit
      rw [List.take_left, ← List.map_take] at htake
      rw [textOf, String.toList_intercalate, ← htake]
      exact (List.intercalate_splitOn '/').symm

theorem getLast?_textOf {above : Location} {s : String} (h : IsName s) :
    (textOf (above ++ [s])).getLast? = s.toList.getLast? := FileTree.getLast?_intercalate h

theorem getLast?_textOf_ne {loc : Location} (h : Named loc) :
    (textOf loc).getLast? ≠ some '/' := by
  rcases List.eq_nil_or_concat loc with rfl | ⟨above, s, rfl⟩
  · simp [textOf]
  · rw [List.concat_eq_append] at h ⊢
    have hs : IsName s := h s (by simp)
    rw [getLast?_textOf hs]
    exact fun hslash => hs.slash_notMem (List.mem_of_getLast? hslash)

/-- The text of names does not begin with a dot for a step, also with slashes after it. -/
theorem strip_textOf {loc : Location} (h : Named loc) (hne : loc ≠ []) (m : Nat) :
    trimPattern.strip (textOf loc ++ List.replicate m '/') =
      textOf loc ++ List.replicate m '/' := by
  unfold trimPattern.strip
  split
  · next rest htext =>
      -- the first name would be a dot
      obtain ⟨s, loc, rfl⟩ := List.exists_cons_of_ne_nil hne
      have hhead : ((textOf (s :: loc) ++ List.replicate m '/').splitOn '/').head? =
          some s.toList := by
        cases m with
        | zero => simp [splitOn_textOf h hne]
        | succ m =>
            rw [List.replicate_succ, List.splitOn_append_cons_self, splitOn_textOf h hne]
            rfl
      have hdot : '.' :: '/' :: rest = ['.'] ++ '/' :: rest := rfl
      rw [htext, hdot, List.splitOn_append_cons_self] at hhead
      have hs : ['.'] = s.toList := Option.some.inj hhead
      exact absurd (String.toList_inj.mp hs.symm) (h s (by simp)).ne_here
  · rfl

/-- The text of names is trimmed. -/
theorem trimPattern_textOf {loc : Location} (h : Named loc) (hne : loc ≠ []) :
    trimPattern (textOf loc) = textOf loc := by
  have hstrip : trimPattern.strip (textOf loc) = textOf loc := by
    simpa using strip_textOf h hne 0
  rw [trimPattern, hstrip]
  refine dropRightWhile_of_getLast? fun c hc => ?_
  have hslash : c ≠ '/' := by
    rintro rfl
    exact getLast?_textOf_ne h hc
  simpa using hslash

/-! ## What is collected -/

variable {tree : FileTree}

/-- What patterns collect below a location. -/
theorem mem_filesTaken (wf : tree.WellFormed) {root : Location} (hroot : Named root)
    (hdir : tree.at? root = some .dir) {patterns : List OverridePattern} {allowJs : Bool}
    {path : Path} :
    path ∈ filesTaken tree (pathOf root) patterns allowJs ↔
      ∃ below, below ≠ [] ∧ (∃ bytes, tree.at? (root ++ below) = some (.file bytes)) ∧
        isTaken patterns below = true ∧ path = pathOf (root ++ below) ∧
        isSource path allowJs = true := by
  have hjoin : ∀ below, below ≠ [] → (∃ bytes, tree.at? (root ++ below) = some (.file bytes)) →
      (pathOf root).join ⟨"/".intercalate below⟩ = pathOf (root ++ below) := by
    rintro below hne ⟨bytes, hat⟩
    exact FileTree.join_pathOf (wf.named_of_at? hat) hne
  rw [filesTaken, wf.locate_pathOf hroot (wf.dir_dropLast hdir)]
  simp only [List.mem_filter, List.mem_map, wf.mem_filesBelow]
  constructor
  · rintro ⟨⟨below, ⟨⟨hne, hfile⟩, htaken⟩, rfl⟩, hsource⟩
    exact ⟨below, hne, hfile, htaken, hjoin below hne hfile, hsource⟩
  · rintro ⟨below, hne, hfile, htaken, rfl, hsource⟩
    exact ⟨⟨below, ⟨⟨hne, hfile⟩, htaken⟩, hjoin below hne hfile⟩, hsource⟩

/-- The lengths of the ways to a file, from the first step on. -/
theorem mem_drop_range {m n : Nat} : m ∈ (List.range n).drop 1 ↔ 0 < m ∧ m < n := by
  rw [List.range_eq_range', List.drop_range', List.mem_range'_1]
  omega

/-- Patterns that leave out a directory at the end collect nothing at or below it. -/
theorem not_isTaken_below {patterns : List OverridePattern} {last : OverridePattern}
    {dir more : Location} (hne : dir ≠ []) (hleaves : last.leavesOut = true)
    (happlies : ∀ isDir, last.applies (relativeBytes dir) isDir = true) :
    isTaken (patterns ++ [last]) (dir ++ more) = false := by
  have hno : ∀ isDir, wanted (patterns ++ [last]) (relativeBytes dir) isDir = .no := by
    intro isDir
    rw [wanted_concat (happlies isDir), hleaves]
    rfl
  by_cases hmore : more = []
  · subst hmore
    rw [List.append_nil, isTaken, hno false]
    simp
  · -- the directory is not entered
    have hentered : isEntered (patterns ++ [last]) ((dir ++ more).take dir.length) = false := by
      rw [List.take_left, isEntered, hno true]
    have hmem : dir.length ∈ (List.range (dir ++ more).length).drop 1 := by
      have hdir := List.length_pos_iff.mpr hne
      have hlength := List.length_pos_iff.mpr hmore
      rw [mem_drop_range, List.length_append]
      omega
    rw [isTaken, Bool.and_eq_false_iff, List.all_eq_false]
    exact .inl ⟨_, hmem, by rw [hentered]; exact Bool.false_ne_true⟩

/-! ## The patterns of a project -/

section MapM

variable {ε α β : Type} {f g : α → Except ε β} {xs : List α}

theorem mapM_eq_ok_iff {ys : List β} :
    xs.mapM f = .ok ys ↔ List.Forall₂ (fun x y => f x = .ok y) xs ys := by
  induction xs generalizing ys with
  | nil => simp [pure, Except.pure, eq_comm]
  | cons x xs ih =>
      rw [List.mapM_cons, List.forall₂_cons_left_iff]
      cases hx : f x with
      | error e => simp [bind, Except.bind]
      | ok y =>
          cases hxs : xs.mapM f with
          | error e =>
              have hnone : ∀ zs, ¬ List.Forall₂ (fun x y => f x = .ok y) xs zs := fun zs h => by
                simp [ih.mpr h] at hxs
              simp [bind, Except.bind, hnone]
          | ok zs =>
              have hzs := ih.mp hxs
              constructor
              · intro h
                obtain rfl : y :: zs = ys := by simpa [bind, Except.bind, pure, Except.pure] using h
                exact ⟨y, zs, rfl, hzs, rfl⟩
              · rintro ⟨_, us, ⟨⟩, hus, rfl⟩
                obtain rfl : zs = us := by
                  have hboth := ih.mpr hus
                  rw [hxs] at hboth
                  exact Except.ok.inj hboth
                simp [bind, Except.bind, pure, Except.pure]

/-- All of a list can be read exactly when each line of it can. -/
theorem exists_mapM_eq_ok_iff :
    (∃ ys, xs.mapM f = .ok ys) ↔ ∀ x ∈ xs, ∃ y, f x = .ok y := by
  simp only [mapM_eq_ok_iff]
  induction xs with
  | nil => simp
  | cons x xs ih =>
      rw [List.forall_mem_cons, ← ih]
      constructor
      · rintro ⟨_, _ | ⟨hx, hxs⟩⟩
        exact ⟨⟨_, hx⟩, _, hxs⟩
      · rintro ⟨⟨y, hx⟩, ys, hxs⟩
        exact ⟨y :: ys, .cons hx hxs⟩

/-- Reading a list stops at the first line that cannot be read. -/
theorem mapM_eq_error_iff {e : ε} :
    xs.mapM f = .error e ↔ ∃ before x after, xs = before ++ x :: after ∧
      (∀ y ∈ before, ∃ z, f y = .ok z) ∧ f x = .error e := by
  induction xs with
  | nil => simp [pure, Except.pure]
  | cons x xs ih =>
      rw [List.mapM_cons]
      cases hx : f x with
      | error e' =>
          constructor
          · intro h
            obtain rfl : e' = e := by simpa [bind, Except.bind] using h
            exact ⟨[], x, xs, rfl, List.forall_mem_nil _, hx⟩
          · rintro ⟨before, y, after, hsplit, hbefore, hy⟩
            cases before with
            | nil =>
                obtain ⟨rfl, rfl⟩ := List.cons.inj hsplit
                rw [← hx, hy]
                rfl
            | cons z before =>
                -- the first line can be read, by what comes before the faulty one
                obtain ⟨rfl, -⟩ := List.cons.inj hsplit
                obtain ⟨w, hw⟩ := hbefore x List.mem_cons_self
                rw [hx] at hw
                cases hw
      | ok y =>
          have htail : (do let ys ← xs.mapM f; pure (y :: ys) : Except ε (List β)) = .error e ↔
              xs.mapM f = .error e := by
            cases xs.mapM f <;> simp [bind, Except.bind, pure, Except.pure]
          change (do let ys ← xs.mapM f; pure (y :: ys) : Except ε (List β)) = .error e ↔ _
          rw [htail, ih]
          constructor
          · rintro ⟨before, z, after, rfl, hbefore, hz⟩
            exact ⟨x :: before, z, after, rfl, List.forall_mem_cons.mpr ⟨⟨y, hx⟩, hbefore⟩, hz⟩
          · rintro ⟨before, z, after, hsplit, hbefore, hz⟩
            cases before with
            | nil =>
                obtain ⟨rfl, rfl⟩ := List.cons.inj hsplit
                rw [hx] at hz
                cases hz
            | cons w before =>
                obtain ⟨rfl, rfl⟩ := List.cons.inj hsplit
                exact ⟨before, z, after, rfl, (List.forall_mem_cons.mp hbefore).2, hz⟩

/-- Readings that agree on each line, up to a relation between what they read, agree on all. -/
theorem mapM_alike {R : β → β → Prop} (hrefl : ∀ y, R y y)
    (h : ∀ x ∈ xs, f x = g x ∨ ∃ y z, f x = .ok y ∧ g x = .ok z ∧ R y z) :
    (∃ ys zs, xs.mapM f = .ok ys ∧ xs.mapM g = .ok zs ∧ List.Forall₂ R ys zs) ∨
      ∃ e, xs.mapM f = .error e ∧ xs.mapM g = .error e := by
  induction xs with
  | nil => exact .inl ⟨[], [], rfl, rfl, .nil⟩
  | cons x xs ih =>
      obtain ⟨hx, hxs⟩ := List.forall_mem_cons.mp h
      rw [List.mapM_cons, List.mapM_cons]
      have hfirst : (∃ y z, f x = .ok y ∧ g x = .ok z ∧ R y z) ∨
          ∃ e, f x = .error e ∧ g x = .error e := by
        obtain hsame | hfound := hx
        · cases hf : f x with
          | error e => exact .inr ⟨e, rfl, by rw [← hsame, hf]⟩
          | ok y => exact .inl ⟨y, y, rfl, by rw [← hsame, hf], hrefl y⟩
        · exact .inl hfound
      obtain ⟨y, z, hy, hz, hyz⟩ | ⟨e, hf, hg⟩ := hfirst
      · obtain ⟨ys, zs, hys, hzs, hrest⟩ | ⟨e, hf, hg⟩ := ih hxs
        · refine .inl ⟨y :: ys, z :: zs, ?_, ?_, .cons hyz hrest⟩
          · simp [hy, hys, bind, Except.bind, pure, Except.pure]
          · simp [hz, hzs, bind, Except.bind, pure, Except.pure]
        · exact .inr ⟨e, by simp [hy, hf, bind, Except.bind], by simp [hz, hg, bind, Except.bind]⟩
      · exact .inr ⟨e, by simp [hf, bind, Except.bind], by simp [hg, bind, Except.bind]⟩

theorem mapError_eq_ok_iff {δ : Type} {x : Except ε β} {k : ε → δ} {y : β} :
    x.mapError k = .ok y ↔ x = .ok y := by
  cases x <;> simp [Except.mapError]

end MapM

namespace ProjectFile

variable (file : ProjectFile) (tree : FileTree) (root : Path) (outDir : Option Path)

/-- The patterns that take in. -/
def taking : Except PatternFault (List OverridePattern) :=
  file.includes.mapM fun s =>
    (OverridePattern.read (includeLine tree root s)).mapError (.inInclude s)

/-- The patterns that leave out. -/
def leaving : Except PatternFault (List OverridePattern) :=
  (file.excludes root outDir).mapM fun s =>
    (OverridePattern.read (excludeLine s)).mapError (.inExclude s)

theorem patterns_eq : file.patterns tree root outDir =
    (file.taking tree root).bind fun taken => (file.leaving root outDir).map (taken ++ ·) := by
  rw [patterns]
  change (file.taking tree root).bind (fun taken => (file.leaving root outDir).bind fun left =>
    Except.ok (taken ++ left)) = _
  cases file.taking tree root with
  | error e => rfl
  | ok taken => cases file.leaving root outDir <;> rfl

end ProjectFile

/-! ## The output directory is left out -/

/-- A path of which the pattern made of its text matches the text: it has no classes, alternatives
and escapes, and does not end in a blank. -/
structure ReadsAsItself (p : Path) : Prop where
  ordinary : ∀ c ∈ p.text.toList, isOrdinary c = true
  firm : ∀ c, p.text.toList.getLast? = some c → Unicode.isBlank c = false

instance (p : Path) : Decidable (ReadsAsItself p) :=
  decidable_of_iff (p.text.toList.all isOrdinary = true ∧
      p.text.toList.getLast?.any Unicode.isBlank = false)
    ⟨fun h => ⟨List.all_eq_true.mp h.1, fun c hc => by simpa [hc] using h.2⟩,
      fun h => ⟨List.all_eq_true.mpr h.ordinary, by
        cases hlast : p.text.toList.getLast? with
        | none => rfl
        | some c => exact h.firm c hlast⟩⟩

/-- Of the patterns of a project with an output directory below its root, the last one leaves this
directory out. -/
theorem exists_last_pattern {file : ProjectFile} {tree : FileTree} {root dir : Location}
    (hnamed : Named (root ++ dir)) (hne : dir ≠ []) (hreads : ReadsAsItself ⟨"/".intercalate dir⟩)
    {patterns : List OverridePattern}
    (h : file.patterns tree (pathOf root) (some (pathOf (root ++ dir))) = .ok patterns) :
    ∃ earlier last, patterns = earlier ++ [last] ∧ last.leavesOut = true ∧
      ∀ isDir, last.applies (relativeBytes dir) isDir = true := by
  have hdir : Named dir := hnamed.right
  rw [ProjectFile.patterns_eq] at h
  cases htaking : file.taking tree (pathOf root) with
  | error e => simp [htaking, Except.bind] at h
  | ok taken =>
      cases hleaving : file.leaving (pathOf root) (some (pathOf (root ++ dir))) with
      | error e => simp [htaking, hleaving, Except.bind, Except.map] at h
      | ok left =>
          obtain rfl : taken ++ left = patterns := by
            simpa [htaking, hleaving, Except.bind, Except.map] using h
          -- the entry for the output directory comes after all others
          have hexcludes : file.excludes (pathOf root) (some (pathOf (root ++ dir))) =
              file.exclude.getD usualExcludes ++ ["/".intercalate dir] := by
            rw [ProjectFile.excludes, Option.bind_some, FileTree.below?_pathOf hnamed]
            rfl
          rw [ProjectFile.leaving, mapM_eq_ok_iff, hexcludes, ← List.forall₂_reverse_iff,
            List.reverse_append, List.reverse_singleton, List.singleton_append,
            List.forall₂_cons_left_iff] at hleaving
          obtain ⟨last, earlier, hlast, -, hreverse⟩ := hleaving
          have hleft : left = earlier.reverse ++ [last] := by
            rw [← List.reverse_reverse left, hreverse, List.reverse_cons]
          have hread : OverridePattern.read (lineFor true (textOf dir)) = .ok last := by
            have hline := mapError_eq_ok_iff.mp hlast
            rw [excludeLine] at hline
            change OverridePattern.read ('!' :: '/' :: trimPattern (textOf dir)) = _ at hline
            rwa [trimPattern_textOf hdir hne] at hline
          have hmatches := applies_of_leaveOut ⟨getLast?_textOf_ne hdir, hreads.firm⟩
            (textOf_ne_nil hdir hne) hreads.ordinary hread
          refine ⟨taken ++ earlier.reverse, last, by rw [hleft, List.append_assoc],
            (hmatches false).1, fun isDir => ?_⟩
          rw [relativeBytes_eq]
          exact (hmatches isDir).2

/-- Nothing at or below the output directory is taken in. -/
theorem not_isTaken_inside {tree : FileTree} {root dir file : Location}
    (hnamed : Named (root ++ dir)) (hne : dir ≠ [])
    (hreads : ReadsAsItself ⟨"/".intercalate dir⟩) {project : ProjectFile}
    {patterns : List OverridePattern}
    (hpatterns : project.patterns tree (pathOf root) (some (pathOf (root ++ dir))) = .ok patterns)
    (h : dir <+: file) : isTaken patterns file = false := by
  obtain ⟨earlier, last, rfl, hleaves, happlies⟩ :=
    exists_last_pattern hnamed hne hreads hpatterns
  obtain ⟨more, rfl⟩ := h
  exact not_isTaken_below hne hleaves happlies

/-- Nothing at or below such an output directory is collected. -/
theorem not_startsWith_of_mem_found {tree : FileTree} (wf : tree.WellFormed)
    {file : ProjectFile} {root dir : Location} (hnamed : Named (root ++ dir)) (hne : dir ≠ [])
    (hdir : tree.at? root = some .dir) (hreads : ReadsAsItself ⟨"/".intercalate dir⟩)
    {options : CompilerOptions} (hout : options.outDir = some (pathOf (root ++ dir)))
    {found : List Path} (hfound : file.found tree (pathOf root) options = .ok found)
    {path : Path} (hpath : path ∈ found) : path.startsWith (pathOf (root ++ dir)) = false := by
  obtain rfl | ⟨patterns, hpatterns, rfl⟩ := ProjectFile.found_eq_ok hfound
  · simp at hpath
  · obtain ⟨below, hbelow, ⟨bytes, hat⟩, htaken, rfl, -⟩ :=
      (mem_filesTaken wf hnamed.left hdir).mp hpath
    rw [hout] at hpatterns
    by_contra hstarts
    rw [Bool.not_eq_false, FileTree.startsWith_pathOf (wf.named_of_at? hat) hnamed,
      List.prefix_append_right_inj] at hstarts
    rw [not_isTaken_inside hnamed hne hreads hpatterns hstarts] at htaken
    exact absurd htaken Bool.false_ne_true

end QuietEmit
