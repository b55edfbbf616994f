/-
  QuietEmit.Proofs.Project.Directory

  Entries that name a directory. One that is made of the names of the directory is read as
  a pattern for all below it (`SpellsOut.applies`), so what is there is collected. The
  pattern is made of the text of the entry and not of the directory that it leads to: a
  plain entry that leads to a directory on another way, such as `.`, is read as a pattern
  for locations that there are none of (`LeadsAstray.not_applies`), and collects nothing.
-/
import QuietEmit.Proofs.Project.Loading
import QuietEmit.Proofs.Project.Selection

namespace QuietEmit

open FileTree (Named pathOf)
open Glob (bytes isOrdinary isPlain)

/-! ## Spellings of a directory -/

/-- An entry is made of the names of a directory below the root, after any number of `./` and
before any number of slashes. -/
structure SpellsOut (entry : String) (dir : Location) : Prop where
  ne_nil : dir ≠ []
  toList_eq : ∃ k m, entry.toList =
    (List.replicate k ['.', '/']).flatten ++ textOf dir ++ List.replicate m '/'

theorem strip_replicate (k : Nat) (cs : List Char) :
    trimPattern.strip ((List.replicate k ['.', '/']).flatten ++ cs) = trimPattern.strip cs := by
  induction k with
  | zero => rfl
  | succ k ih =>
      rw [List.replicate_succ, List.flatten_cons, List.append_assoc]
      exact ih

theorem exists_eq_strip (cs : List Char) :
    ∃ k, cs = (List.replicate k ['.', '/']).flatten ++ trimPattern.strip cs := by
  fun_induction trimPattern.strip cs with
  | case1 rest ih =>
      obtain ⟨k, hk⟩ := ih
      refine ⟨k + 1, ?_⟩
      rw [List.replicate_succ, List.flatten_cons, List.append_assoc, ← hk]
      rfl
  | case2 cs _ => exact ⟨0, rfl⟩

/-- What is dropped from the end is slashes. -/
theorem exists_eq_dropSlashes (cs : List Char) :
    ∃ m, cs = Text.dropRightWhile (· == '/') cs ++ List.replicate m '/' := by
  have hslashes : cs.reverse.takeWhile (· == '/') =
      List.replicate (cs.reverse.takeWhile (· == '/')).length '/' :=
    List.eq_replicate_of_mem fun c hc => by simpa using List.mem_takeWhile_imp hc
  refine ⟨(cs.reverse.takeWhile (· == '/')).length, ?_⟩
  calc cs = cs.reverse.reverse := cs.reverse_reverse.symm
    _ = (cs.reverse.takeWhile (· == '/') ++ cs.reverse.dropWhile (· == '/')).reverse := by
        rw [List.takeWhile_append_dropWhile]
    _ = Text.dropRightWhile (· == '/') cs ++ (cs.reverse.takeWhile (· == '/')).reverse := by
        rw [List.reverse_append, Text.dropRightWhile]
    _ = _ := by rw [hslashes, List.reverse_replicate, List.length_replicate]

/-- An entry spells out a directory when it is trimmed to its text. -/
theorem spellsOut_iff {entry : String} {dir : Location} (h : Named dir) (hne : dir ≠ []) :
    SpellsOut entry dir ↔ trimPattern entry.toList = textOf dir := by
  constructor
  · rintro ⟨-, k, m, htext⟩
    have htrimmed := trimPattern_textOf h hne
    have hstrip : trimPattern.strip (textOf dir) = textOf dir := by
      simpa using strip_textOf h hne 0
    have hslashes : ∀ c ∈ List.replicate m '/', (c == '/') = true := by simp
    rw [trimPattern, Text.dropRightWhile] at htrimmed ⊢
    rw [htext, List.append_assoc, strip_replicate, strip_textOf h hne, List.reverse_append,
      List.reverse_replicate, List.dropWhile_append_of_pos hslashes]
    rwa [hstrip] at htrimmed
  · intro htrimmed
    obtain ⟨k, hk⟩ := exists_eq_strip entry.toList
    obtain ⟨m, hm⟩ := exists_eq_dropSlashes (trimPattern.strip entry.toList)
    rw [trimPattern] at htrimmed
    rw [htrimmed] at hm
    exact ⟨hne, k, m, by rw [List.append_assoc, ← hm, ← hk]⟩

theorem textOf_append {dir rest : Location} (hdir : dir ≠ []) (hrest : rest ≠ []) :
    textOf (dir ++ rest) = textOf dir ++ ['/'] ++ textOf rest := by
  simp [textOf, String.intercalate_append_of_ne_nil hdir hrest]

/-! ## What such entries take in -/

variable {tree : FileTree} {root : Location} {entry : String} {p : OverridePattern}

/-- An entry that spells out a directory takes in all below it. -/
theorem SpellsOut.applies {dir : Location} (h : SpellsOut entry dir) (wf : tree.WellFormed)
    (hdir : tree.at? (root ++ dir) = some .dir) (hnamed : Named (root ++ dir))
    (hordinary : ∀ c ∈ textOf dir, isOrdinary c = true)
    (hread : OverridePattern.read (includeLine tree (pathOf root) entry) = .ok p)
    {rest : Location} (hrest : rest ≠ []) (isDir : Bool) :
    p.applies (relativeBytes (dir ++ rest)) isDir = true := by
  have htext := (spellsOut_iff hnamed.right h.ne_nil).mp h
  have hpath : entryPath (pathOf root) entry = pathOf (root ++ dir) := by
    rw [entryPath, htext, textOf, String.ofList_toList]
    exact FileTree.join_pathOf hnamed h.ne_nil
  rw [includeLine_eq, hpath, if_pos ((wf.isDir_pathOf hnamed).mpr hdir), htext] at hread
  rw [relativeBytes_eq, textOf_append h.ne_nil hrest, Glob.bytes_append]
  exact applies_of_takeBelow hordinary hread _ isDir

/-- A plain entry leads to a directory on another way than by its names below the root. -/
structure LeadsAstray (tree : FileTree) (root : Path) (entry : String) : Prop where
  leads : tree.isDir (entryPath root entry) = true
  plain : ∀ c ∈ trimPattern entry.toList, isPlain c = true
  misspelt : ∀ dir, Named dir → ¬ SpellsOut entry dir

/-- Such an entry takes in nothing. -/
theorem LeadsAstray.not_applies {root : Path} (h : LeadsAstray tree root entry)
    (hread : OverridePattern.read (includeLine tree root entry) = .ok p) {loc : Location}
    (hnamed : Named loc) (hne : loc ≠ []) (isDir : Bool) :
    p.applies (relativeBytes loc) isDir = false := by
  rw [includeLine_eq, if_pos h.leads] at hread
  obtain ⟨q, hq, -, hmatch⟩ := exists_read_plain_below h.plain
  obtain rfl : p = q := Except.ok.inj (hread.symm.trans hq)
  rw [← Bool.not_eq_true]
  intro happlies
  have hbytes := hmatch _ _ happlies
  have hslash : bytes ['/'] = [Glob.slash] := Glob.bytes_of_ascii.2.2.1
  rw [relativeBytes_eq, ← hslash, ← Glob.bytes_append] at hbytes
  -- what the text of names begins with, up to a slash, is the text of the first of them
  obtain ⟨n, hpos, hn, htext⟩ :=
    exists_take_of_prefix hnamed (.inr (Glob.prefix_of_bytes hbytes)) hne
  have htake : Named (loc.take n) := fun s hs => hnamed s (List.take_subset n loc hs)
  exact h.misspelt _ htake ((spellsOut_iff htake (take_ne_nil hpos hn)).mpr htext)

/-! ## Collecting directories -/

theorem not_isHiddenAt_take {dir : Location} (h : ∀ name ∈ dir, isHiddenName name = false)
    (n : Nat) : isHiddenAt (dir.take n) = false := by
  rw [isHiddenAt, Option.any_eq_false]
  intro name hname
  simp [h name (List.take_subset n dir (List.mem_of_getLast? hname))]

/-- What is below a directory that an entry spells out is collected unless it is left out. -/
theorem SpellsOut.collects {file : ProjectFile} {outDir : Option Path} {dir rest : Location}
    (h : SpellsOut entry dir) (wf : tree.WellFormed) (hentry : entry ∈ file.includes)
    (hread : OverridePattern.read (includeLine tree (pathOf root) entry) = .ok p)
    (hordinary : ∀ c ∈ textOf dir, isOrdinary c = true)
    (hshown : ∀ name ∈ dir, isHiddenName name = false) (hrest : rest ≠ []) {e : Entry}
    (hat : tree.at? (root ++ (dir ++ rest)) = some e)
    (hkept : ¬ file.LeavesOut (pathOf root) outDir (dir ++ rest)) :
    file.Collects tree (pathOf root) outDir (dir ++ rest) := by
  rw [← List.append_assoc] at hat
  have hdir := wf.dir_of_at? hat hrest
  have hnamed : Named (root ++ dir) := (wf.named_of_at? hat).left
  have htakes : ∀ {more}, more ≠ [] → ∀ isDir,
      file.TakesIn tree (pathOf root) (dir ++ more) isDir := fun hmore isDir =>
    ⟨entry, hentry, p, hread, h.applies wf hdir hnamed hordinary hread hmore isDir⟩
  refine ⟨htakes hrest false, hkept, fun n _ hn hhidden => ?_⟩
  -- only below the directory the way can be hidden, and there the entry takes it in
  have hlt : dir.length < n := by
    by_contra hle
    rw [List.take_append_of_le_length (by omega), not_isHiddenAt_take hshown] at hhidden
    exact absurd hhidden Bool.false_ne_true
  have hmore : rest.take (n - dir.length) ≠ [] := by
    rw [List.length_append] at hn
    exact take_ne_nil (by omega) (by omega)
  rw [List.take_append, List.take_of_length_le hlt.le]
  exact htakes hmore true

/-- Where the text and the patterns of a project are without fault, an entry that is made of the
names of a directory, none of them hidden and without classes, alternatives and escapes, collects
all sources below the directory that are not left out. An entry that leads to a directory on
another way collects nothing. -/
theorem directories_collected (wf : tree.WellFormed) {config : Path} {project : Project}
    (h : Project.load tree config = .ok project)
    (hvalid : ∀ d ∈ project.errors, d.code ≠ Code.configuration) :
    ∃ root file, Project.ReadFrom tree project root file ∧
      (∀ entry ∈ file.includes, ∀ dir rest, SpellsOut entry dir →
        (∀ c ∈ textOf dir, isOrdinary c = true) → (∀ name ∈ dir, isHiddenName name = false) →
        rest ≠ [] → (∃ bytes, tree.at? (root ++ (dir ++ rest)) = some (.file bytes)) →
        isSource (pathOf (root ++ (dir ++ rest))) project.options.allowJs = true →
        ¬ file.LeavesOut project.root project.options.outDir (dir ++ rest) →
        pathOf (root ++ (dir ++ rest)) ∈ project.fileNames) ∧
      ∀ path ∈ project.fileNames, path ∈ file.named project.root ∨
        ∃ entry ∈ file.includes, ¬ LeadsAstray tree project.root entry ∧
          ∃ p loc, OverridePattern.read (includeLine tree project.root entry) = .ok p ∧
            p.applies (relativeBytes loc) false = true ∧ path = pathOf (root ++ loc) := by
  obtain ⟨root, file, hfile, hinputs⟩ := Project.exists_inputs_of_load wf h hvalid
  refine ⟨root, file, hfile, ?_, ?_⟩
  · intro entry hentry dir rest hspells hordinary hshown hrest ⟨bytes, hat⟩ hsource hkept
    have hne : file.includes ≠ [] := List.ne_nil_of_mem hentry
    obtain ⟨p, hread⟩ :=
      (ProjectFile.exists_inputs_iff.mp ⟨_, hinputs⟩ hne).1 entry hentry
    rw [hfile.root_eq] at hkept
    have hcollects := hspells.collects wf hentry hread hordinary hshown hrest hat hkept
    exact (mem_inputs_iff wf hfile.named hfile.dir hinputs).mpr
      (.inr ⟨dir ++ rest, by simp [hrest], ⟨bytes, hat⟩, hcollects, rfl, hsource⟩)
  · intro path hpath
    rw [hfile.root_eq]
    refine ((mem_inputs_iff wf hfile.named hfile.dir hinputs).mp hpath).imp_right ?_
    rintro ⟨loc, hne, ⟨bytes, hat⟩, hcollects, rfl, -⟩
    obtain ⟨entry, hentry, p, hread, happlies⟩ := hcollects.taken
    refine ⟨entry, hentry, fun hastray => ?_, p, loc, hread, happlies, rfl⟩
    rw [hastray.not_applies hread (wf.named_of_at? hat).right hne] at happlies
    exact absurd happlies Bool.false_ne_true

/-- The text of a project file with one entry to take in, and none to leave out. -/
def entryText (entry : String) : String :=
  "\x7b\"include\": [\"" ++ entry ++ "\"], \"exclude\": []\x7d"

/-- A tree with that project file, and a source in a directory. -/
def entryTree (dir entry : String) : FileTree where
  entries := [(["p"], .dir), (["p", "tsconfig.json"], .file (entryText entry).toUTF8),
    (["p", dir], .dir), (["p", dir, "a.ts"], .file "".toUTF8)]
  workingDir := ["p"]

/-- What that text says. -/
def entryFile (entry : String) : ProjectFile where
  «include» := some [entry]
  exclude := some []

/-- The project of that tree, with the inputs that are found. -/
def entryProject (files : List Path) : Project where
  configPath := ⟨"/p/tsconfig.json"⟩
  root := ⟨"/p"⟩
  options := {}
  fileNames := files
  errors := if files.isEmpty then [Project.withoutInputs ⟨"/p/tsconfig.json"⟩] else []

theorem load_entry {dir entry : String} {files : List Path}
    (hread : (entryTree dir entry).readText ⟨"/p/tsconfig.json"⟩ = .ok (entryText entry))
    (hparsed : ProjectFile.ofText (entryText entry) = .ok (entryFile entry))
    (hfound : (entryFile entry).found (entryTree dir entry) ⟨"/p"⟩ {} = .ok files)
    (hsorted : files.Pairwise fun p q => p.cmp q = .lt) :
    Project.load (entryTree dir entry) ⟨"tsconfig.json"⟩ = .ok (entryProject files) :=
  load_inP_of_found rfl hread hparsed hfound (.refl _) hsorted

/-- Of the source below the directory `./src/`. -/
theorem directories_collected_src :
    Project.load (entryTree "src" "./src/") ⟨"tsconfig.json"⟩ =
      .ok (entryProject [⟨"/p/src/a.ts"⟩]) ∧
    SpellsOut "./src/" ["src"] ∧
    ⟨"/p/src/a.ts"⟩ ∈ (entryProject [⟨"/p/src/a.ts"⟩]).fileNames := by
  have hread : (entryTree "src" "./src/").readText ⟨"/p/tsconfig.json"⟩ =
      .ok (entryText "./src/") := eq_ok_of_toOption (by decide +kernel)
  have hparsed : ProjectFile.ofText (entryText "./src/") = .ok (entryFile "./src/") :=
    eq_ok_of_toOption (by decide +kernel)
  have hload : Project.load (entryTree "src" "./src/") ⟨"tsconfig.json"⟩ =
      .ok (entryProject [⟨"/p/src/a.ts"⟩]) :=
    load_entry hread hparsed (eq_ok_of_toOption (by decide +kernel)) (by decide +kernel)
  have wf : (entryTree "src" "./src/").WellFormed := by decide +kernel
  have hspells : SpellsOut "./src/" ["src"] :=
    (spellsOut_iff (by decide +kernel) (by simp)).mpr (by decide +kernel)
  obtain ⟨root, file, hfile, hcollected, -⟩ := directories_collected wf hload (by decide)
  have hfrom : Project.ReadFrom (entryTree "src" "./src/") (entryProject [⟨"/p/src/a.ts"⟩]) ["p"]
      (entryFile "./src/") := ⟨by decide +kernel, rfl, by decide +kernel, rfl, _, hread, hparsed⟩
  obtain ⟨rfl, rfl⟩ := hfile.unique hfrom
  have hkept : ¬ (entryFile "./src/").LeavesOut ⟨"/p"⟩ none (["src"] ++ ["a.ts"]) := by
    rintro ⟨entry, hentry, -⟩
    exact absurd hentry (by simp [ProjectFile.excludes, entryFile])
  have hordinary : ∀ c ∈ textOf ["src"], isOrdinary c = true :=
    List.all_eq_true.mp (by decide +kernel)
  have hmem := hcollected "./src/" (by simp [ProjectFile.includes, entryFile]) ["src"] ["a.ts"]
    hspells hordinary (by simp [isHiddenName]) (by simp) ⟨_, rfl⟩ (by decide +kernel) hkept
  exact ⟨hload, hspells, by simpa [pathOf] using hmem⟩

/-- The entry `.` leads to the root, and `a[1]` to the directory of that name, but the source below
is not collected, though no entry leaves it out. -/
theorem directories_missed :
    (∀ dir entry, (dir, entry) ∈ [("src", "."), ("a[1]", "a[1]")] →
      (entryTree dir entry).isDir (entryPath ⟨"/p"⟩ entry) = true ∧
      Project.load (entryTree dir entry) ⟨"tsconfig.json"⟩ = .ok (entryProject []) ∧
      ProjectFile.ofText (entryText entry) = .ok (entryFile entry) ∧
      ∀ loc, ¬ (entryFile entry).LeavesOut ⟨"/p"⟩ none loc) ∧
    (entryTree "src" ".").isFile ⟨"/p/src/a.ts"⟩ = true ∧
    (entryTree "a[1]" "a[1]").isFile ⟨"/p/a[1]/a.ts"⟩ = true ∧
    isSource ⟨"/p/src/a.ts"⟩ false = true ∧ isSource ⟨"/p/a[1]/a.ts"⟩ false = true := by
  refine ⟨?_, by decide +kernel, by decide +kernel, by decide +kernel, by decide +kernel⟩
  intro dir entry hmem
  have hkept : ∀ loc, ¬ (entryFile entry).LeavesOut ⟨"/p"⟩ none loc := by
    rintro loc ⟨exclude, hexclude, -⟩
    exact absurd hexclude (by simp [ProjectFile.excludes, entryFile])
  obtain ⟨rfl, rfl⟩ | ⟨rfl, rfl⟩ : dir = "src" ∧ entry = "." ∨ dir = "a[1]" ∧ entry = "a[1]" := by
    simpa using hmem
  all_goals
    refine ⟨by decide +kernel, ?_, eq_ok_of_toOption (by decide +kernel), hkept⟩
    exact load_entry (eq_ok_of_toOption (by decide +kernel)) (eq_ok_of_toOption (by decide +kernel))
      (eq_ok_of_toOption (by decide +kernel)) .nil

end QuietEmit
