/-
  QuietEmit.Proofs.Project.Selection

  Which files the patterns of a project collect, told by its entries and without their
  order. All patterns that leave out come after those that take in, so one match of the
  former decides against a path (`wanted_append`). A file is taken in when some pattern
  takes it in, none bars the way to it, and each hidden directory on the way is taken in
  itself (`isTaken_append_iff`); the entries of a project say the same of the files in a
  tree (`mem_found_iff`).
-/
import QuietEmit.Proofs.Project.Collection
import QuietEmit.Proofs.Project.Stability

namespace QuietEmit

open FileTree (Named pathOf)

/-! ## Patterns in two blocks -/

section Blocks

variable {taken left : List OverridePattern} {path : List UInt8} {isDir : Bool}

/-- One pattern that leaves a path out decides against it, and without one the patterns that take in
decide. -/
theorem wanted_append (htaken : ∀ p ∈ taken, p.leavesOut = false)
    (hleft : ∀ p ∈ left, p.leavesOut = true) :
    wanted (taken ++ left) path isDir =
      if left.any (·.applies path isDir) then .no
      else if taken.any (·.applies path isDir) then .yes
      else if isDir then .undecided else .no := by
  have hfound : ∀ {ps : List OverridePattern} {p : OverridePattern},
      ps.reverse.find? (·.applies path isDir) = some p → p ∈ ps ∧ ps.any (·.applies path isDir) := by
    intro ps p hp
    have hmem : p ∈ ps := List.mem_reverse.mp (List.mem_of_find?_eq_some hp)
    have happlies : p.applies path isDir = true := by simpa using List.find?_some hp
    exact ⟨hmem, List.any_eq_true.mpr ⟨p, hmem, happlies⟩⟩
  have hnone : ∀ {ps : List OverridePattern},
      ps.reverse.find? (·.applies path isDir) = none → ps.any (·.applies path isDir) = false := by
    intro ps hps
    rw [List.any_eq_false]
    exact fun p hp => List.find?_eq_none.mp hps p (List.mem_reverse.mpr hp)
  -- the last match is searched for among those that leave out first
  rw [wanted_eq, List.reverse_append, List.find?_append]
  cases hl : left.reverse.find? (·.applies path isDir) with
  | some q =>
      obtain ⟨hq, hany⟩ := hfound hl
      simp [hany, hleft q hq]
  | none =>
      rw [hnone hl]
      cases ht : taken.reverse.find? (·.applies path isDir) with
      | some p =>
          obtain ⟨hp, hany⟩ := hfound ht
          simp [hany, htaken p hp]
      | none =>
          rw [hnone ht]
          simp

/-- A pattern bars the way to a file: it matches the file, or a directory above it. -/
def OverridePattern.Bars (p : OverridePattern) (file : Location) : Prop :=
  ∃ n, 0 < n ∧ n ≤ file.length ∧
    p.applies (relativeBytes (file.take n)) (decide (n < file.length)) = true

/-- Whether a location is hidden by its last name. -/
def isHiddenAt (loc : Location) : Bool := loc.getLast?.any isHiddenName

/-- What patterns take in, whatever their order. -/
theorem isTaken_append_iff (htaken : ∀ p ∈ taken, p.leavesOut = false)
    (hleft : ∀ p ∈ left, p.leavesOut = true) {file : Location} (hne : file ≠ []) :
    isTaken (taken ++ left) file = true ↔
      (∃ p ∈ taken, p.applies (relativeBytes file) false = true) ∧
      (∀ p ∈ left, ¬ p.Bars file) ∧
      ∀ n, 0 < n → n < file.length → isHiddenAt (file.take n) = true →
        ∃ p ∈ taken, p.applies (relativeBytes (file.take n)) true = true := by
  have hpos := List.length_pos_iff.mpr hne
  -- a directory is entered unless it is left out, or hidden and not taken in
  have hentered : ∀ n, isEntered (taken ++ left) (file.take n) = true ↔
      (∀ p ∈ left, ¬ p.applies (relativeBytes (file.take n)) true = true) ∧
      (isHiddenAt (file.take n) = true →
        ∃ p ∈ taken, p.applies (relativeBytes (file.take n)) true = true) := by
    intro n
    rw [isEntered, wanted_append htaken hleft, ← List.any_eq_true]
    cases hl : left.any (·.applies (relativeBytes (file.take n)) true) with
    | true =>
        obtain ⟨p, hp, happlies⟩ := List.any_eq_true.mp hl
        simpa using fun hnone => absurd happlies (by simp [hnone p hp])
    | false =>
        have hnone : ∀ p ∈ left, ¬ p.applies (relativeBytes (file.take n)) true = true :=
          List.any_eq_false.mp hl
        rw [and_iff_right hnone]
        cases ht : taken.any (·.applies (relativeBytes (file.take n)) true) <;> simp [isHiddenAt]
  -- the file itself is wanted
  have hwanted : (wanted (taken ++ left) (relativeBytes file) false == .yes) = true ↔
      (∀ p ∈ left, ¬ p.applies (relativeBytes file) false = true) ∧
      ∃ p ∈ taken, p.applies (relativeBytes file) false = true := by
    rw [wanted_append htaken hleft, ← List.any_eq_true, ← List.any_eq_false]
    cases left.any (·.applies (relativeBytes file) false) <;>
      cases taken.any (·.applies (relativeBytes file) false) <;> simp
  rw [isTaken, Bool.and_eq_true, List.all_eq_true, hwanted]
  constructor
  · rintro ⟨hway, hfile, htakes⟩
    refine ⟨htakes, ?_, fun n hn hlt => ((hentered n).mp (hway n (mem_drop_range.mpr ⟨hn, hlt⟩))).2⟩
    rintro p hp ⟨n, hn, hle, happlies⟩
    obtain hlt | rfl := Nat.lt_or_eq_of_le hle
    · refine ((hentered n).mp (hway n (mem_drop_range.mpr ⟨hn, hlt⟩))).1 p hp ?_
      simpa [hlt] using happlies
    · exact hfile p hp (by simpa using happlies)
  · rintro ⟨htakes, hbars, hhidden⟩
    refine ⟨fun n hmem => ?_, fun p hp happlies => ?_, htakes⟩
    · obtain ⟨hn, hlt⟩ := mem_drop_range.mp hmem
      refine (hentered n).mpr ⟨fun p hp happlies => ?_, hhidden n hn hlt⟩
      exact hbars p hp ⟨n, hn, hlt.le, by simpa [hlt] using happlies⟩
    · exact hbars p hp ⟨file.length, hpos, Nat.le_refl _, by simpa using happlies⟩

end Blocks

/-! ## What lines are read as -/

/-- A line keeps its first character. -/
theorem exists_withoutTrailingBlanks {c : Char} (hc : Unicode.isBlank c = false)
    (line : List Char) : ∃ rest, OverridePattern.withoutTrailingBlanks (c :: line) = c :: rest := by
  rw [OverridePattern.withoutTrailingBlanks]
  split
  · exact ⟨line, rfl⟩
  · obtain ⟨front, hfront⟩ : ∃ front, (c :: line).reverse = front ++ [c] := ⟨line.reverse, by simp⟩
    refine ⟨(front.dropWhile Unicode.isBlank).reverse, ?_⟩
    rw [Text.dropRightWhile, hfront, List.dropWhile_append]
    split
    · next hempty =>
        rw [List.isEmpty_iff] at hempty
        simp [hempty, hc]
    · simp

/-- A line that is read leaves out if it was written to. -/
theorem leavesOut_of_read {leavesOut : Bool} {text : List Char} {p : OverridePattern}
    (h : OverridePattern.read (lineFor leavesOut text) = .ok p) : p.leavesOut = leavesOut := by
  cases leavesOut with
  | true =>
      obtain ⟨rest, hrest⟩ := exists_withoutTrailingBlanks (c := '!') (by decide) ('/' :: text)
      rw [lineFor, if_pos rfl, OverridePattern.read, hrest] at h
      dsimp only at h
      split at h
      · obtain rfl := Except.ok.inj h
        rfl
      · cases h
  | false =>
      obtain ⟨rest, hrest⟩ := exists_withoutTrailingBlanks (c := '/') (by decide) text
      rw [lineFor, if_neg Bool.false_ne_true, OverridePattern.read, hrest] at h
      dsimp only at h
      split at h
      · obtain rfl := Except.ok.inj h
        rfl
      · cases h

/-- What a list is read as comes from its lines. -/
theorem mem_of_mapM {ε α β : Type} {f : α → Except ε β} {xs : List α} {ys : List β}
    (h : xs.mapM f = .ok ys) {y : β} : y ∈ ys ↔ ∃ x ∈ xs, f x = .ok y := by
  rw [mapM_eq_ok_iff] at h
  induction h with
  | nil => simp
  | @cons x y' xs ys hx _ ih =>
      rw [List.mem_cons, ih]
      constructor
      · rintro (rfl | ⟨x', hx', hy⟩)
        · exact ⟨x, List.mem_cons_self, hx⟩
        · exact ⟨x', List.mem_cons_of_mem x hx', hy⟩
      · rintro ⟨x', hx', hy⟩
        obtain rfl | hx' := List.mem_cons.mp hx'
        · exact .inl (Except.ok.inj (hy.symm.trans hx))
        · exact .inr ⟨x', hx', hy⟩

/-! ## The entries of a project -/

namespace ProjectFile

variable (file : ProjectFile) (tree : FileTree) (root : Path) (outDir : Option Path)

/-- An entry takes in a location below the root. -/
def TakesIn (loc : Location) (isDir : Bool) : Prop :=
  ∃ entry ∈ file.includes, ∃ p, OverridePattern.read (includeLine tree root entry) = .ok p ∧
    p.applies (relativeBytes loc) isDir = true

/-- An entry leaves out a file below the root, or the output directory does. -/
def LeavesOut (loc : Location) : Prop :=
  ∃ entry ∈ file.excludes root outDir, ∃ p, OverridePattern.read (excludeLine entry) = .ok p ∧
    p.Bars loc

/-- The entries collect a file below the root: it is taken in and not left out, and each hidden
directory on the way to it is taken in as well. -/
structure Collects (loc : Location) : Prop where
  taken : file.TakesIn tree root loc false
  kept : ¬ file.LeavesOut root outDir loc
  way : ∀ n, 0 < n → n < loc.length → isHiddenAt (loc.take n) = true →
    file.TakesIn tree root (loc.take n) true

variable {file tree root outDir}

theorem mem_taking {taken : List OverridePattern} (h : file.taking tree root = .ok taken)
    {p : OverridePattern} : p ∈ taken ↔
      ∃ entry ∈ file.includes, OverridePattern.read (includeLine tree root entry) = .ok p := by
  rw [taking] at h
  simp only [mem_of_mapM h, mapError_eq_ok_iff]

theorem mem_leaving {left : List OverridePattern} (h : file.leaving root outDir = .ok left)
    {p : OverridePattern} : p ∈ left ↔
      ∃ entry ∈ file.excludes root outDir, OverridePattern.read (excludeLine entry) = .ok p := by
  rw [leaving] at h
  simp only [mem_of_mapM h, mapError_eq_ok_iff]

/-- The patterns that take in come first. -/
theorem patterns_eq_ok {patterns : List OverridePattern}
    (h : file.patterns tree root outDir = .ok patterns) :
    ∃ taken left, patterns = taken ++ left ∧ file.taking tree root = .ok taken ∧
      file.leaving root outDir = .ok left := by
  rw [patterns_eq] at h
  cases htaking : file.taking tree root with
  | error e => simp [htaking, Except.bind] at h
  | ok taken =>
      cases hleaving : file.leaving root outDir with
      | error e => simp [htaking, hleaving, Except.bind, Except.map] at h
      | ok left =>
          refine ⟨taken, left, ?_, rfl, rfl⟩
          simpa [htaking, hleaving, Except.bind, Except.map, eq_comm] using h

/-- The inputs of a project can be listed where its entries can be read. -/
theorem exists_inputs_iff {options : CompilerOptions} :
    (∃ files, file.inputs tree root options = .ok files) ↔
      (file.includes ≠ [] →
        (∀ entry ∈ file.includes, ∃ p, OverridePattern.read (includeLine tree root entry) = .ok p) ∧
        ∀ entry ∈ file.excludes root options.outDir,
          ∃ p, OverridePattern.read (excludeLine entry) = .ok p) := by
  have htaking : (∃ taken, file.taking tree root = .ok taken) ↔ ∀ entry ∈ file.includes,
      ∃ p, OverridePattern.read (includeLine tree root entry) = .ok p := by
    rw [taking, exists_mapM_eq_ok_iff]
    simp only [mapError_eq_ok_iff]
  have hleaving : (∃ left, file.leaving root options.outDir = .ok left) ↔
      ∀ entry ∈ file.excludes root options.outDir,
        ∃ p, OverridePattern.read (excludeLine entry) = .ok p := by
    rw [leaving, exists_mapM_eq_ok_iff]
    simp only [mapError_eq_ok_iff]
  rw [← htaking, ← hleaving, inputs_eq, found]
  by_cases hempty : file.includes = []
  · simp [hempty, Except.map]
  · rw [if_neg (by simpa using hempty), patterns_eq]
    cases file.taking tree root with
    | error e => simp [hempty, Except.bind, Except.map]
    | ok taken => cases file.leaving root options.outDir <;> simp [hempty, Except.bind, Except.map]

/-- The patterns of a project take in what its entries collect. -/
theorem isTaken_iff_collects {patterns : List OverridePattern}
    (h : file.patterns tree root outDir = .ok patterns) {loc : Location} (hne : loc ≠ []) :
    isTaken patterns loc = true ↔ file.Collects tree root outDir loc := by
  obtain ⟨taken, left, rfl, htaking, hleaving⟩ := patterns_eq_ok h
  have htaken : ∀ p ∈ taken, p.leavesOut = false := by
    intro p hp
    obtain ⟨entry, -, hread⟩ := (mem_taking htaking).mp hp
    rw [includeLine_eq] at hread
    exact leavesOut_of_read hread
  have hleft : ∀ p ∈ left, p.leavesOut = true := by
    intro p hp
    obtain ⟨entry, -, hread⟩ := (mem_leaving hleaving).mp hp
    exact leavesOut_of_read hread
  have htakes : ∀ {loc : Location} {isDir : Bool},
      (∃ p ∈ taken, p.applies (relativeBytes loc) isDir = true) ↔
        file.TakesIn tree root loc isDir := by
    intro loc isDir
    constructor
    · rintro ⟨p, hp, happlies⟩
      obtain ⟨entry, hentry, hread⟩ := (mem_taking htaking).mp hp
      exact ⟨entry, hentry, p, hread, happlies⟩
    · rintro ⟨entry, hentry, p, hread, happlies⟩
      exact ⟨p, (mem_taking htaking).mpr ⟨entry, hentry, hread⟩, happlies⟩
  have hbars : (∀ p ∈ left, ¬ p.Bars loc) ↔ ¬ file.LeavesOut root outDir loc := by
    constructor
    · rintro hnone ⟨entry, hentry, p, hread, hbar⟩
      exact hnone p ((mem_leaving hleaving).mpr ⟨entry, hentry, hread⟩) hbar
    · intro hkept p hp hbar
      obtain ⟨entry, hentry, hread⟩ := (mem_leaving hleaving).mp hp
      exact hkept ⟨entry, hentry, p, hread, hbar⟩
  rw [isTaken_append_iff htaken hleft hne, hbars]
  simp only [htakes]
  exact ⟨fun ⟨taken, kept, way⟩ => ⟨taken, kept, way⟩, fun h => ⟨h.taken, h.kept, h.way⟩⟩

end ProjectFile

/-- What is found in a tree are the sources below the root that the entries of the project
collect. -/
theorem mem_found_iff {tree : FileTree} (wf : tree.WellFormed) {root : Location}
    (hroot : Named root) (hdir : tree.at? root = some .dir) {file : ProjectFile}
    {options : CompilerOptions} {found : List Path}
    (hfound : file.found tree (pathOf root) options = .ok found) {path : Path} :
    path ∈ found ↔ ∃ loc, loc ≠ [] ∧ (∃ bytes, tree.at? (root ++ loc) = some (.file bytes)) ∧
      file.Collects tree (pathOf root) options.outDir loc ∧ path = pathOf (root ++ loc) ∧
      isSource path options.allowJs = true := by
  rw [ProjectFile.found] at hfound
  split at hfound
  · next hempty =>
      -- without entries to take in, nothing is collected
      obtain rfl := Except.ok.inj hfound
      have hnone : ∀ loc, ¬ file.Collects tree (pathOf root) options.outDir loc := by
        rintro loc ⟨⟨entry, hentry, -⟩, -, -⟩
        rw [List.isEmpty_iff.mp hempty] at hentry
        cases hentry
      simp [hnone]
  · cases hpatterns : file.patterns tree (pathOf root) options.outDir with
    | error e => simp [hpatterns, Except.map] at hfound
    | ok patterns =>
        rw [hpatterns] at hfound
        obtain rfl := Except.ok.inj hfound
        rw [mem_filesTaken wf hroot hdir]
        refine exists_congr fun loc => and_congr_right fun hne => and_congr_right fun _ => ?_
        rw [ProjectFile.isTaken_iff_collects hpatterns hne]

/-- The inputs of a project are what its file names and what its entries collect. -/
theorem mem_inputs_iff {tree : FileTree} (wf : tree.WellFormed) {root : Location}
    (hroot : Named root) (hdir : tree.at? root = some .dir) {file : ProjectFile}
    {options : CompilerOptions} {files : List Path}
    (h : file.inputs tree (pathOf root) options = .ok files) {path : Path} :
    path ∈ files ↔ path ∈ file.named (pathOf root) ∨
      ∃ loc, loc ≠ [] ∧ (∃ bytes, tree.at? (root ++ loc) = some (.file bytes)) ∧
        file.Collects tree (pathOf root) options.outDir loc ∧ path = pathOf (root ++ loc) ∧
        isSource path options.allowJs = true := by
  rw [ProjectFile.inputs_eq] at h
  cases hfound : file.found tree (pathOf root) options with
  | error e => simp [hfound, Except.map] at h
  | ok found =>
      rw [hfound] at h
      obtain rfl := Except.ok.inj h
      have hspelt : ∀ p ∈ (file.named (pathOf root) ++ found).mergeSort Path.le,
          ∀ q ∈ (file.named (pathOf root) ++ found).mergeSort Path.le, p.same q = true → p = q := by
        simp only [List.mem_mergeSort]
        exact fun p hp q hq => eq_of_same_input wf hroot hdir hfound hp hq
      rw [mem_dropRepeated hspelt, List.mem_mergeSort, List.mem_append,
        mem_found_iff wf hroot hdir hfound]

/-- What an entry leaves out is an input only if it is named. -/
theorem mem_named_of_leavesOut {tree : FileTree} (wf : tree.WellFormed) {root : Location}
    (hroot : Named root) (hdir : tree.at? root = some .dir) {file : ProjectFile}
    {options : CompilerOptions} {files : List Path}
    (h : file.inputs tree (pathOf root) options = .ok files) {loc : Location} (hloc : Named loc)
    (hleft : file.LeavesOut (pathOf root) options.outDir loc)
    (hmem : pathOf (root ++ loc) ∈ files) : pathOf (root ++ loc) ∈ file.named (pathOf root) := by
  obtain hnamed | ⟨loc', -, ⟨bytes, hat⟩, hcollects, hpath, -⟩ :=
    (mem_inputs_iff wf hroot hdir h).mp hmem
  · exact hnamed
  · -- a location has one path, so the file would be collected and left out
    have hboth : Named (root ++ loc) := List.forall_mem_append.mpr ⟨hroot, hloc⟩
    have hplace := FileTree.pathOf_injective hboth (wf.named_of_at? hat)
      (congrArg Path.components hpath)
    obtain rfl := List.append_cancel_left hplace
    exact absurd hleft hcollects.kept

end QuietEmit
