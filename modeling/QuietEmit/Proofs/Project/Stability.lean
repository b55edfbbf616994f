/-
  QuietEmit.Proofs.Project.Stability

  What files below the output directory can change of a collection. The patterns of a
  project are made anew from the tree each time, since an entry that names a directory
  stands for all below it. For files outside of the output directory the patterns of
  both trees say the same (`patterns_alike`), unless an entry with a special character
  has become the name of a directory, so the inputs are the same (`inputs_stable`).
-/
import QuietEmit.Proofs.Project.Collection

namespace QuietEmit

open FileTree (Named pathOf ChangedBelow)
open Glob (bytes isPlain)

/-! ## Entries that name directories -/

/-- What an entry to take in names, where it is no pattern. -/
def entryPath (root : Path) (entry : String) : Path :=
  root.join ⟨String.ofList (trimPattern entry.toList)⟩

theorem includeLine_eq (tree : FileTree) (root : Path) (entry : String) :
    includeLine tree root entry =
      lineFor false (if tree.isDir (entryPath root entry) then
        trimPattern entry.toList ++ ['/', '*', '*'] else trimPattern entry.toList) := by
  rw [includeLine, entryPath]
  split <;> rfl

/-- Entries that are no patterns. -/
structure PlainEntry (entry : String) : Prop where
  ne_nil : trimPattern entry.toList ≠ []
  plain : ∀ c ∈ trimPattern entry.toList, isPlain c = true
  not_blank : ∀ c, (trimPattern entry.toList).getLast? = some c → Unicode.isBlank c = false

theorem not_of_getLast?_dropRightWhile {f : Char → Bool} {cs : List Char} {c : Char}
    (h : (Text.dropRightWhile f cs).getLast? = some c) : f c = false := by
  rw [Text.dropRightWhile, List.getLast?_reverse] at h
  have hhead := List.head?_dropWhile_not f cs.reverse
  rw [h] at hhead
  simpa using hhead

theorem PlainEntry.endsFirm {entry : String} (h : PlainEntry entry) :
    EndsFirm (trimPattern entry.toList) := by
  refine ⟨fun hslash => ?_, h.not_blank⟩
  have hfalse := not_of_getLast?_dropRightWhile hslash
  simp at hfalse

/-! ## Files outside of a directory -/

section Outside

variable {tree after : FileTree} {root dir file : Location}

/-- The file is one of the tree, and it is not at or below the directory. -/
def Outside (tree : FileTree) (root dir file : Location) : Prop :=
  (∃ bytes, tree.at? (root ++ file) = some (.file bytes)) ∧ ¬ dir <+: file

/-- Files outside of the directory stay what they are. -/
theorem Outside.at?_eq (h : ¬ dir <+: file)
    (hchanged : ChangedBelow (root ++ dir) tree after) :
    after.at? (root ++ file) = tree.at? (root ++ file) ∨
      tree.at? (root ++ file) = none ∧ after.at? (root ++ file) = some .dir := by
  have helsewhere := hchanged.elsewhere (root ++ file) fun hbelow =>
    h ((List.prefix_append_right_inj root).mp hbelow.1)
  exact helsewhere.imp_right fun hnew => hnew.2

theorem outside_iff (hchanged : ChangedBelow (root ++ dir) tree after) :
    Outside tree root dir file ↔ Outside after root dir file := by
  constructor <;> rintro ⟨⟨bytes, hat⟩, hout⟩ <;> refine ⟨⟨bytes, ?_⟩, hout⟩ <;>
    obtain hsame | ⟨hnone, hdir⟩ := Outside.at?_eq hout hchanged <;> simp_all

/-- A directory on the way to such a file was there before. -/
theorem Outside.dir_of_after (h : Outside tree root dir file) (wf : tree.WellFormed)
    (hchanged : ChangedBelow (root ++ dir) tree after) {n : Nat} (hn : n ≤ file.length)
    (hdir : after.at? (root ++ file.take n) = some .dir) :
    tree.at? (root ++ file.take n) = some .dir := by
  obtain ⟨⟨bytes, hat⟩, hout⟩ := h
  obtain hlt | rfl := Nat.lt_or_eq_of_le hn
  · -- above the file
    have hmore : file.drop n ≠ [] := by simpa using hlt
    rw [← List.take_append_drop n file, ← List.append_assoc] at hat
    exact wf.dir_of_at? hat hmore
  · -- the file itself, which is no directory in either tree
    rw [List.take_length] at hdir
    obtain hsame | ⟨hnone, -⟩ := Outside.at?_eq hout hchanged
    · rw [hsame, hat] at hdir
      simp at hdir
    · simp [hat] at hnone

theorem take_ne_nil {n : Nat} (hpos : 0 < n) (hn : n ≤ file.length) : file.take n ≠ [] := by
  rw [← List.length_pos_iff, List.length_take]
  omega

/-- Two patterns say the same about the files outside of the directory and about the way to
them. -/
def AlikeOutside (tree : FileTree) (root dir : Location) (p q : OverridePattern) : Prop :=
  ∀ file, Outside tree root dir file → ∀ n, 0 < n → n ≤ file.length → ∀ isDir,
    SayAlike (relativeBytes (file.take n)) isDir p q

theorem AlikeOutside.refl (p : OverridePattern) : AlikeOutside tree root dir p p :=
  fun _ _ _ _ _ _ => ⟨rfl, rfl⟩

/-- The text of an entry that has become a directory is not that of a way to such a file. -/
theorem Outside.text_ne (h : Outside tree root dir file) (wf : tree.WellFormed)
    (hchanged : ChangedBelow (root ++ dir) tree after) {entry : String}
    (hbefore : tree.isDir (entryPath (pathOf root) entry) = false)
    (hafter : after.isDir (entryPath (pathOf root) entry) = true) {n : Nat} (hpos : 0 < n)
    (hn : n ≤ file.length) : trimPattern entry.toList ≠ textOf (file.take n) := by
  intro htext
  obtain ⟨bytes, hat⟩ := h.1
  have hnamed : Named (root ++ file.take n) := fun s hs =>
    wf.named_of_at? hat s (((List.take_sublist n file).append_left root).subset hs)
  have hne := take_ne_nil hpos hn
  -- the entry would name a directory on the way, and this one was there before
  have hpath : entryPath (pathOf root) entry = pathOf (root ++ file.take n) := by
    rw [entryPath, htext, textOf, String.ofList_toList]
    exact FileTree.join_pathOf hnamed hne
  rw [hpath, hchanged.wellFormed.isDir_pathOf hnamed] at hafter
  rw [hpath, ← Bool.not_eq_true, wf.isDir_pathOf hnamed] at hbefore
  exact hbefore (h.dir_of_after wf hchanged hn hafter)

/-- Nor does it begin the text of such a way. -/
theorem Outside.not_begins (h : Outside tree root dir file) (wf : tree.WellFormed)
    (hchanged : ChangedBelow (root ++ dir) tree after) {entry : String}
    (hbefore : tree.isDir (entryPath (pathOf root) entry) = false)
    (hafter : after.isDir (entryPath (pathOf root) entry) = true) {n : Nat} (hpos : 0 < n)
    (hn : n ≤ file.length) :
    ¬ bytes (trimPattern entry.toList) ++ [Glob.slash] <+: relativeBytes (file.take n) := by
  intro hbytes
  obtain ⟨found, hat⟩ := h.1
  have hnamed : Named (file.take n) := fun s hs =>
    wf.named_of_at? hat s (List.mem_append_right root (List.take_subset n file hs))
  have hne := take_ne_nil hpos hn
  have hslash : bytes ['/'] = [Glob.slash] := Glob.bytes_of_ascii.2.2.1
  rw [relativeBytes_eq, ← hslash, ← Glob.bytes_append] at hbytes
  have hbegins := Glob.prefix_of_bytes hbytes
  -- then it is the text of a shorter way
  obtain ⟨m, hmpos, hm, htext⟩ := exists_take_of_prefix hnamed (.inr hbegins) hne
  rw [List.length_take] at hm
  rw [List.take_take, Nat.min_eq_left (by omega)] at htext
  exact h.text_ne wf hchanged hbefore hafter hmpos (by omega) htext

/-! ## Patterns of both trees -/

/-- The line of an entry is read alike in both trees, unless the entry has a special character and
has become the name of a directory. -/
theorem read_includeLine_alike (wf : tree.WellFormed)
    (hchanged : ChangedBelow (root ++ dir) tree after) {entry : String}
    (h : after.isDir (entryPath (pathOf root) entry) = true →
      tree.isDir (entryPath (pathOf root) entry) = true ∨ PlainEntry entry) :
    OverridePattern.read (includeLine tree (pathOf root) entry) =
        OverridePattern.read (includeLine after (pathOf root) entry) ∨
      ∃ p q, OverridePattern.read (includeLine tree (pathOf root) entry) = .ok p ∧
        OverridePattern.read (includeLine after (pathOf root) entry) = .ok q ∧
        AlikeOutside tree root dir p q := by
  rw [includeLine_eq, includeLine_eq]
  cases hbefore : tree.isDir (entryPath (pathOf root) entry) with
  | true => exact .inl (by rw [hchanged.isDir hbefore])
  | false =>
      cases hafter : after.isDir (entryPath (pathOf root) entry) with
      | false => exact .inl rfl
      | true =>
          have hplain := (h hafter).resolve_left (by simp [hbefore])
          obtain ⟨p, hp, hptakes, hpmatch⟩ :=
            exists_read_plain hplain.endsFirm hplain.ne_nil hplain.plain
          obtain ⟨q, hq, hqtakes, hqmatch⟩ := exists_read_plain_below hplain.plain
          refine .inr ⟨p, q, hp, hq, ?_⟩
          intro file hfile n hpos hn isDir
          refine ⟨by rw [hptakes, hqtakes], ?_⟩
          -- neither pattern has a say about the file
          have hpno : p.applies (relativeBytes (file.take n)) isDir = false := by
            rw [← Bool.not_eq_true, hpmatch, relativeBytes_eq]
            intro hbytes
            exact hfile.text_ne wf hchanged hbefore hafter hpos hn
              (Glob.bytes_injective hbytes).symm
          have hqno : q.applies (relativeBytes (file.take n)) isDir = false := by
            rw [← Bool.not_eq_true]
            intro happlies
            exact hfile.not_begins wf hchanged hbefore hafter hpos hn (hqmatch _ _ happlies)
          rw [hpno, hqno]

/-- No entry with a special character has become the name of a directory. -/
def NoEntryArises (file : ProjectFile) (root : Path) (tree after : FileTree) : Prop :=
  ∀ entry ∈ file.includes, after.isDir (entryPath root entry) = true →
    tree.isDir (entryPath root entry) = true ∨ PlainEntry entry

/-- The patterns of a project are read alike in both trees. -/
theorem patterns_alike (wf : tree.WellFormed)
    (hchanged : ChangedBelow (root ++ dir) tree after) {file : ProjectFile}
    (h : NoEntryArises file (pathOf root) tree after) (outDir : Option Path) :
    (∃ ps qs, file.patterns tree (pathOf root) outDir = .ok ps ∧
      file.patterns after (pathOf root) outDir = .ok qs ∧
      List.Forall₂ (AlikeOutside tree root dir) ps qs) ∨
    ∃ e, file.patterns tree (pathOf root) outDir = .error e ∧
      file.patterns after (pathOf root) outDir = .error e := by
  have htaking : (∃ ps qs, file.taking tree (pathOf root) = .ok ps ∧
      file.taking after (pathOf root) = .ok qs ∧
      List.Forall₂ (AlikeOutside tree root dir) ps qs) ∨
      ∃ e, file.taking tree (pathOf root) = .error e ∧
        file.taking after (pathOf root) = .error e := by
    refine mapM_alike AlikeOutside.refl fun entry hentry => ?_
    obtain hsame | ⟨p, q, hp, hq, hpq⟩ := read_includeLine_alike wf hchanged (h entry hentry)
    · exact .inl (by rw [hsame])
    · exact .inr ⟨p, q, by rw [hp]; rfl, by rw [hq]; rfl, hpq⟩
  rw [ProjectFile.patterns_eq, ProjectFile.patterns_eq]
  obtain ⟨ps, qs, hps, hqs, halike⟩ | ⟨e, hbefore, hafter⟩ := htaking
  · rw [hps, hqs]
    -- the patterns that leave out do not depend on the tree
    cases hleaving : file.leaving (pathOf root) outDir with
    | error e => exact .inr ⟨e, rfl, rfl⟩
    | ok left =>
        have hleft : List.Forall₂ (AlikeOutside tree root dir) left left :=
          List.forall₂_same.mpr fun p _ => AlikeOutside.refl p
        exact .inl ⟨ps ++ left, qs ++ left, rfl, rfl, List.rel_append halike hleft⟩
  · rw [hbefore, hafter]
    exact .inr ⟨e, rfl, rfl⟩

/-! ## The same inputs -/

theorem isTaken_congr {ps qs : List OverridePattern}
    (h : ∀ n, 0 < n → n ≤ file.length → ∀ isDir,
      wanted ps (relativeBytes (file.take n)) isDir =
        wanted qs (relativeBytes (file.take n)) isDir) (hne : file ≠ []) :
    isTaken ps file = isTaken qs file := by
  have hfile := h file.length (List.length_pos_iff.mpr hne) (Nat.le_refl _) false
  rw [List.take_length] at hfile
  have hway : ((List.range file.length).drop 1).all (fun n => isEntered ps (file.take n)) =
      ((List.range file.length).drop 1).all (fun n => isEntered qs (file.take n)) := by
    rw [Bool.eq_iff_iff, List.all_eq_true, List.all_eq_true]
    refine forall₂_congr fun n hn => ?_
    obtain ⟨hpos, hlt⟩ := mem_drop_range.mp hn
    rw [isEntered, isEntered, h n hpos (Nat.le_of_lt hlt)]
  rw [isTaken, isTaken, hfile, hway]

/-- A file outside of the directory is taken in by both patterns or by none. -/
theorem Outside.isTaken_eq (h : Outside tree root dir file) (hne : file ≠ [])
    {ps qs : List OverridePattern} (halike : List.Forall₂ (AlikeOutside tree root dir) ps qs) :
    isTaken ps file = isTaken qs file := by
  refine isTaken_congr (fun n hpos hn isDir => ?_) hne
  exact wanted_congr (halike.imp fun p q hpq => hpq file h n hpos hn isDir)

/-- What is found in a tree is found after files have been written below the output directory, and
nothing else. -/
theorem found_stable (wf : tree.WellFormed) (hroot : tree.at? root = some .dir)
    (hnamed : Named (root ++ dir)) (hne : dir ≠ [])
    (hreads : ReadsAsItself ⟨"/".intercalate dir⟩)
    (hchanged : ChangedBelow (root ++ dir) tree after) {project : ProjectFile}
    (h : NoEntryArises project (pathOf root) tree after) {options : CompilerOptions}
    (hout : options.outDir = some (pathOf (root ++ dir))) :
    (∃ before now, project.found tree (pathOf root) options = .ok before ∧
      project.found after (pathOf root) options = .ok now ∧ ∀ path, path ∈ before ↔ path ∈ now) ∨
    ∃ e, project.found tree (pathOf root) options = .error e ∧
      project.found after (pathOf root) options = .error e := by
  rw [ProjectFile.found, ProjectFile.found, hout]
  split
  · exact .inl ⟨[], [], rfl, rfl, fun _ => Iff.rfl⟩
  · obtain ⟨ps, qs, hps, hqs, halike⟩ | ⟨e, hbefore, hafter⟩ :=
      patterns_alike wf hchanged h (some (pathOf (root ++ dir)))
    · refine .inl ⟨filesTaken tree (pathOf root) ps options.allowJs,
        filesTaken after (pathOf root) qs options.allowJs, by rw [hps]; rfl, by rw [hqs]; rfl, ?_⟩
      intro path
      rw [mem_filesTaken wf hnamed.left hroot,
        mem_filesTaken hchanged.wellFormed hnamed.left (hchanged.dirs root hroot)]
      refine exists_congr fun file => and_congr_right fun hfile => ?_
      by_cases hbelow : dir <+: file
      · have hpno := not_isTaken_inside hnamed hne hreads hps hbelow
        have hqno := not_isTaken_inside hnamed hne hreads hqs hbelow
        simp [hpno, hqno]
      · -- outside of the directory the file and the patterns are alike
        constructor
        · rintro ⟨hat, htaken, hpath, hsource⟩
          have houtside : Outside tree root dir file := ⟨hat, hbelow⟩
          rw [houtside.isTaken_eq hfile halike] at htaken
          exact ⟨((outside_iff hchanged).mp houtside).1, htaken, hpath, hsource⟩
        · rintro ⟨hat, htaken, hpath, hsource⟩
          have houtside : Outside tree root dir file :=
            (outside_iff hchanged).mpr ⟨hat, hbelow⟩
          rw [← houtside.isTaken_eq hfile halike] at htaken
          exact ⟨houtside.1, htaken, hpath, hsource⟩
    · exact .inr ⟨e, by rw [hbefore]; rfl, by rw [hafter]; rfl⟩

/-- What a project file names and finds are paths of locations. -/
theorem exists_pathOf_of_named {project : ProjectFile} {path : Path}
    (h : path ∈ project.named (pathOf root)) : ∃ loc, Named loc ∧ path = pathOf loc := by
  obtain ⟨f, -, rfl⟩ := List.mem_map.mp h
  exact FileTree.exists_clean_eq_pathOf (Path.isAbsolute_join (FileTree.isAbsolute_pathOf root) _)

theorem exists_pathOf_of_found (wf : tree.WellFormed) (hnamed : Named root)
    (hroot : tree.at? root = some .dir) {project : ProjectFile} {options : CompilerOptions}
    {found : List Path} (hfound : project.found tree (pathOf root) options = .ok found)
    {path : Path} (h : path ∈ found) : ∃ loc, Named loc ∧ path = pathOf loc := by
  obtain rfl | ⟨patterns, -, rfl⟩ := ProjectFile.found_eq_ok hfound
  · simp at h
  · obtain ⟨below, -, ⟨bytes, hat⟩, -, rfl, -⟩ := (mem_filesTaken wf hnamed hroot).mp h
    exact ⟨root ++ below, wf.named_of_at? hat, rfl⟩

/-- What a project file names or finds at one place is one path. -/
theorem eq_of_same_input (wf : tree.WellFormed) (hnamed : Named root)
    (hroot : tree.at? root = some .dir) {project : ProjectFile} {options : CompilerOptions}
    {found : List Path} (hfound : project.found tree (pathOf root) options = .ok found) {p q : Path}
    (hp : p ∈ project.named (pathOf root) ++ found)
    (hq : q ∈ project.named (pathOf root) ++ found) (hsame : p.same q = true) : p = q := by
  have hspelt : ∀ path ∈ project.named (pathOf root) ++ found,
      ∃ loc, Named loc ∧ path = pathOf loc := by
    intro path hpath
    obtain hpath | hpath := List.mem_append.mp hpath
    · exact exists_pathOf_of_named hpath
    · exact exists_pathOf_of_found wf hnamed hroot hfound hpath
  -- a location has one path
  obtain ⟨a, ha, rfl⟩ := hspelt p hp
  obtain ⟨b, hb, rfl⟩ := hspelt q hq
  rw [FileTree.pathOf_injective ha hb (Path.same_iff.mp hsame)]

/-- The inputs of a project file are the same after files have been written below the output
directory. -/
theorem inputs_stable (wf : tree.WellFormed) (hroot : tree.at? root = some .dir)
    (hnamed : Named (root ++ dir)) (hne : dir ≠ [])
    (hreads : ReadsAsItself ⟨"/".intercalate dir⟩)
    (hchanged : ChangedBelow (root ++ dir) tree after) {project : ProjectFile}
    (h : NoEntryArises project (pathOf root) tree after) {options : CompilerOptions}
    (hout : options.outDir = some (pathOf (root ++ dir))) :
    project.inputs after (pathOf root) options = project.inputs tree (pathOf root) options := by
  rw [ProjectFile.inputs_eq, ProjectFile.inputs_eq]
  obtain ⟨before, now, hbefore, hnow, hsame⟩ | ⟨e, hbefore, hnow⟩ :=
    found_stable wf hroot hnamed hne hreads hchanged h hout
  · rw [hbefore, hnow]
    refine congrArg Except.ok (dropRepeated_mergeSort_congr ?_ ?_).symm
    · intro path
      rw [List.mem_append, List.mem_append, hsame]
    · exact fun p hp q hq => eq_of_same_input wf hnamed.left hroot hbefore hp hq
  · rw [hbefore, hnow]

end Outside

end QuietEmit
