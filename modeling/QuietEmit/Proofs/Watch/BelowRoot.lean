/-
  QuietEmit.Proofs.Watch.BelowRoot

  The filter and the place of its root. What becomes of a path below the root follows
  from its steps after the root and from those of the ignored directories alone
  (`Filter.ignores_join_eq_false_iff`), so a root can stand anywhere, also behind a
  hidden step or among dependencies (`filter_depends_below_root`).

  The names of the root itself do matter in one case: a directory in normal form can
  have climbed out of one root and come back to it by its name, and lies outside
  another. And a directory whose name is no text hides nothing, even if it starts with
  a dot (`filter_depends_on_root`).
-/
import QuietEmit.Proofs.FileTree.Location
import QuietEmit.Proofs.Watch.Filter

namespace QuietEmit

namespace Path

/-- A path that is made of names only is relative. -/
theorem isAbsolute_of_names {p : Path} (h : ∀ c ∈ p.components, c.isName = true) :
    p.isAbsolute = false := by
  cases habs : p.isAbsolute with
  | false => rfl
  | true =>
      have hroot : Component.root ∈ p.components := by simp [components_eq, stepsFrom, habs]
      exact absurd (h _ hroot) (by decide)

/-- Joining puts names after whatever comes before them. -/
theorem components_join_names (base : Path) {p : Path} (h : ∀ c ∈ p.components, c.isName = true) :
    (base.join p).components = base.components ++ p.components :=
  components_join base (isAbsolute_of_names h) fun hhere => absurd (h _ hhere) (by decide)

theorem text_ne_empty_of_isAbsolute {p : Path} (h : p.isAbsolute = true) : p.text ≠ "" := by
  intro hempty
  simp [isAbsolute, hempty] at h

/-! ## Normal forms that stay inside -/

/-- A step from inside a directory that does not climb out of it leaves the way there alone. -/
theorem pushStep_append {taken : List Component} {step : Component} (hroot : .root ∉ taken)
    (hinside : .up ∉ pushStep taken step) (above : List Component) :
    .up ∉ taken ∧ pushStep (taken ++ above) step = pushStep taken step ++ above := by
  cases step with
  | root | name | here => simp_all [pushStep]
  | up =>
      cases taken with
      | nil => exact absurd List.mem_cons_self hinside
      | cons last before => cases last <;> simp_all [pushStep]

/-- Nor do several steps that end inside. -/
theorem foldl_pushStep_append {steps : List Component} (hroot : .root ∉ steps)
    (hinside : .up ∉ steps.foldl pushStep []) (above : List Component) :
    steps.foldl pushStep above = steps.foldl pushStep [] ++ above := by
  induction steps using List.reverseRecOn with
  | nil => rfl
  | append_singleton steps step ih =>
      rw [List.foldl_append, List.foldl_cons, List.foldl_nil] at hinside ⊢
      have hroot' : .root ∉ steps := fun h => hroot (List.mem_append_left _ h)
      have htaken : .root ∉ steps.foldl pushStep [] := fun h =>
        hroot' (mem_normalize (List.mem_reverse.mpr h))
      obtain ⟨hbefore, hstep⟩ := pushStep_append htaken hinside above
      rw [ih hroot' hbefore, hstep, List.foldl_append, List.foldl_cons, List.foldl_nil]

/-- A leading `.` does not matter to a normal form. -/
theorem normalize_components_of_relative {p : Path} (hrel : p.isAbsolute = false) :
    normalize p.components = normalize (steps p.parts) := by
  rw [components_eq, hrel]
  by_cases hhere : ∃ rest, p.parts = ['.'] :: rest
  · obtain ⟨rest, hparts⟩ := hhere
    rw [hparts, steps_cons_of_idle rfl]
    rfl
  · rw [stepsFrom_false_of_ne fun rest hparts => hhere ⟨rest, hparts⟩]

/-- In normal form a relative path that stays inside goes below where an absolute one goes. -/
theorem components_clean_join {base p : Path} (hbase : base.isAbsolute = true)
    (hclean : base.isClean = true) (hrel : p.isAbsolute = false)
    (hinside : .up ∉ normalize p.components) :
    (base.join p).clean.components = base.components ++ normalize p.components := by
  have hjoin : (base.join p).components = base.components ++ steps p.parts :=
    components_join_of_ne_empty (text_ne_empty_of_isAbsolute hbase) hrel
  have habs : (base.join p).isAbsolute = true := isAbsolute_join hbase p
  have hbaseNormal : base.components.foldl pushStep [] = base.components.reverse := by
    have hsame := FileTree.components_clean hbase
    rw [eq_of_beq hclean, normalize] at hsame
    exact (List.reverse_eq_iff.mp hsame.symm)
  rw [normalize_components_of_relative hrel] at hinside ⊢
  rw [normalize, List.mem_reverse] at hinside
  rw [FileTree.components_clean habs, hjoin, normalize, List.foldl_append, hbaseNormal,
    foldl_pushStep_append (root_notMem_steps _) hinside, List.reverse_append, List.reverse_reverse]
  rfl

end Path

namespace OsPath

theorem components_join_names (base : OsPath) {p : OsPath}
    (h : ∀ c ∈ p.components, c.isName = true) :
    (base.join p).components = base.components ++ p.components := by
  rw [components, spelled_join]
  exact base.spelled.components_join_names h

/-- The file name is that of the path that is joined, if this has components. -/
theorem fileName_of_components_append {p q : OsPath} {above : List Component}
    (h : p.components = above ++ q.components) (hne : q.components ≠ []) :
    p.spelled.fileName = q.spelled.fileName := by
  have hp : p.spelled.components = above ++ q.spelled.components := h
  have hq : q.spelled.components ≠ [] := hne
  rw [Path.fileName, Path.fileName, hp, List.getLast?_append_of_ne_nil _ hq]

end OsPath

namespace Watch

namespace Filter

/-- The filter of a root that ignores directories. -/
def ofDirs (root : OsPath) (dirs : List OsPath) : Filter := dirs.foldl ignoring (ofRoot root)

theorem ofDirs_eq (root : OsPath) (dirs : List OsPath) : ofDirs root dirs = ⟨root, dirs⟩ := by
  have hfrom : ∀ f : Filter, dirs.foldl ignoring f = ⟨f.root, f.ignored ++ dirs⟩ := by
    induction dirs with
    | nil => intro f; simp
    | cons dir dirs ih =>
        intro f
        rw [List.foldl_cons, ih, ignoring, List.append_assoc]
        rfl
  exact hfrom _

theorem watchesName_congr {p q : OsPath} (h : p.extension = q.extension) (name : String) :
    watchesName p name = watchesName q name := by
  rw [watchesName, watchesName, h]

/-- Of a path joined to the root, only what is joined decides: it is let through unless the steps
of an ignored directory after those of the root begin it, one of its steps hides what is below, or
its name is not watched. -/
theorem ignores_join_eq_false_iff {root p : OsPath} {dirs : List OsPath} {place : OsPath → OsPath}
    {stepsOf : OsPath → List Component}
    (hplace : ∀ dir ∈ dirs, (place dir).components = root.components ++ stepsOf dir)
    (hnames : ∀ c ∈ p.components, c.isName = true) (hne : p.components ≠ []) :
    (ofDirs root (dirs.map place)).ignores (root.join p) = false ↔
      (∀ dir ∈ dirs, ¬ stepsOf dir <+: p.components) ∧
      (∀ step ∈ p.components, hides step = false) ∧
      ∃ name, p.fileName = some name ∧ watchesName p name = true := by
  have hjoin := root.components_join_names hnames
  have hspelled := OsPath.fileName_of_components_append hjoin hne
  have hfile : (root.join p).fileName = p.fileName := by
    rw [OsPath.fileName, OsPath.fileName, hspelled]
  have hextension : (root.join p).extension = p.extension := by
    rw [OsPath.extension, OsPath.extension, Path.extension, Path.extension, hspelled]
  have hbegins : (∀ dir ∈ dirs.map place, (root.join p).startsWith dir = false) ↔
      ∀ dir ∈ dirs, ¬ stepsOf dir <+: p.components := by
    rw [List.forall_mem_map]
    refine forall₂_congr fun dir hdir => ?_
    rw [← Bool.not_eq_true, OsPath.startsWith, Path.startsWith, List.isPrefixOf_iff_prefix]
    show ¬ (place dir).components <+: (root.join p).components ↔ _
    rw [hjoin, hplace dir hdir, List.prefix_append_right_inj]
  have hwatched : (∃ name, (root.join p).fileName = some name ∧
      watchesName (root.join p) name = true) ↔
      ∃ name, p.fileName = some name ∧ watchesName p name = true := by
    refine exists_congr fun name => ?_
    rw [hfile, watchesName_congr hextension]
  have hiff := ignores_eq_false_iff (f := ⟨root, dirs.map place⟩) hjoin
  rw [ofDirs_eq, hiff, hbegins, hwatched]

/-- So filters whose directories lie at the same steps below their roots agree below them. -/
theorem ignores_join_congr {root root' p : OsPath} {dirs : List OsPath}
    {place place' : OsPath → OsPath} {stepsOf : OsPath → List Component}
    (hplace : ∀ dir ∈ dirs, (place dir).components = root.components ++ stepsOf dir)
    (hplace' : ∀ dir ∈ dirs, (place' dir).components = root'.components ++ stepsOf dir)
    (hnames : ∀ c ∈ p.components, c.isName = true) (hne : p.components ≠ []) :
    (ofDirs root (dirs.map place)).ignores (root.join p) =
      (ofDirs root' (dirs.map place')).ignores (root'.join p) := by
  rw [Bool.eq_iff_iff, ← not_iff_not, Bool.not_eq_true, Bool.not_eq_true,
    ignores_join_eq_false_iff hplace hnames hne, ignores_join_eq_false_iff hplace' hnames hne]

variable {f : Filter} {path : OsPath}

/-- With one more ignored directory what was ignored stays ignored. -/
theorem ignores_ignoring (dir : OsPath) (h : f.ignores path = true) :
    (f.ignoring dir).ignores path = true := by
  have hroot : (f.ignoring dir).root = f.root := rfl
  have hignored : (f.ignoring dir).ignored = f.ignored ++ [dir] := rfl
  rw [ignores] at h ⊢
  rw [hroot, hignored]
  cases hbelow : path.below? f.root with
  | none => rfl
  | some rest =>
      simp only [hbelow, Bool.or_eq_true, List.any_append] at h ⊢
      rcases h with (hdir | hstep) | hname
      · exact .inl (.inl (.inl hdir))
      · exact .inl (.inr hstep)
      · exact .inr hname

/-- Nothing gets through below a step that hides it. -/
theorem ignores_of_hides {steps : List Component} (h : path.components = f.root.components ++ steps)
    {step : Component} (hstep : step ∈ steps) (hhides : hides step = true) :
    f.ignores path = true := by
  obtain ⟨rest, hrest, rfl⟩ := OsPath.exists_below? h
  have hany : rest.components.any hides = true := List.any_eq_true.mpr ⟨step, hstep, hhides⟩
  rw [ignores, hrest]
  simp only [hany, Bool.or_true, Bool.true_or]

/-- The last step of a path hides if its name is a text that hides. -/
theorem exists_hides_of_fileName {dir : OsPath} {s : String} (h : dir.fileName = some s)
    (hs : s.toList.head? = some '.' ∨ s ∈ dependencyFolders) :
    ∃ step ∈ dir.components, hides step = true := by
  rw [OsPath.fileName, Option.bind_eq_some_iff] at h
  obtain ⟨spelt, hspelt, htext⟩ := h
  obtain ⟨above, habove⟩ := Path.fileName_eq_some_iff.mp hspelt
  refine ⟨.name spelt, ?_, ?_⟩
  · rw [OsPath.components, habove]
    exact List.mem_append_right _ (List.mem_singleton_self _)
  · rw [hides, Component.read?, htext]
    simpa [isHiding] using hs

end Filter

open Watch.Filter in
/-- Two filters with absolute roots, which ignore the same directories relative to their roots,
ignore the same paths relative to them, also when the directories are brought to normal form, if
that does not climb out of the roots. A filter that ignores one more directory still ignores
whatever it ignored. When the last step of a directory below the root has a name that is a text,
and is hidden or holds dependencies, every path that begins with this directory is ignored, whatever
its name. -/
theorem filter_depends_below_root {root root' : OsPath} (hroot : root.isAbsolute = true)
    (hroot' : root'.isAbsolute = true) {dirs : List OsPath}
    (hdirs : ∀ dir ∈ dirs, dir.isAbsolute = false) {p : OsPath}
    (hnames : ∀ c ∈ p.components, c.isName = true) (hne : p.components ≠ []) :
    (ofDirs root (dirs.map root.join)).ignores (root.join p) =
      (ofDirs root' (dirs.map root'.join)).ignores (root'.join p) ∧
    (root.isClean = true → root'.isClean = true →
      (∀ dir ∈ dirs, .up ∉ Path.normalize dir.components) →
      (ofDirs root (dirs.map fun dir => (root.join dir).clean)).ignores (root.join p) =
        (ofDirs root' (dirs.map fun dir => (root'.join dir).clean)).ignores (root'.join p)) ∧
    (∀ (f : Filter) (dir path : OsPath), f.ignores path = true →
      (f.ignoring dir).ignores path = true) ∧
    ∀ (f : Filter) (dir path : OsPath) (s : String), (∀ c ∈ dir.components, c.isName = true) →
      dir.fileName = some s → (s.toList.head? = some '.' ∨ s ∈ dependencyFolders) →
      path.startsWith (f.root.join dir) = true → f.ignores path = true := by
  -- where a directory is, as it is joined and in normal form
  have hjoin : ∀ r : OsPath, r.isAbsolute = true → ∀ dir ∈ dirs,
      (r.join dir).components = r.components ++ Path.steps dir.spelled.parts := by
    intro r hr dir hdir
    rw [OsPath.components, OsPath.spelled_join]
    exact Path.components_join_of_ne_empty (Path.text_ne_empty_of_isAbsolute hr) (hdirs dir hdir)
  have hclean : ∀ r : OsPath, r.isAbsolute = true → r.isClean = true →
      (∀ dir ∈ dirs, .up ∉ Path.normalize dir.components) → ∀ dir ∈ dirs,
        (r.join dir).clean.components = r.components ++ Path.normalize dir.components := by
    intro r hr hrclean hinside dir hdir
    have hspelled : r.spelled.isClean = true := by
      rw [Path.isClean, ← OsPath.spelled_clean, eq_of_beq hrclean, beq_self_eq_true]
    rw [OsPath.components, OsPath.spelled_clean, OsPath.spelled_join]
    exact Path.components_clean_join hr hspelled (hdirs dir hdir) (hinside dir hdir)
  refine ⟨ignores_join_congr (hjoin root hroot) (hjoin root' hroot') hnames hne, ?_,
    fun f dir path => ignores_ignoring dir, ?_⟩
  · intro hrclean hrclean' hinside
    exact ignores_join_congr (hclean root hroot hrclean hinside)
      (hclean root' hroot' hrclean' hinside) hnames hne
  · intro f dir path s hdirNames hdir hhides hbegins
    obtain ⟨step, hstep, hstepHides⟩ := exists_hides_of_fileName hdir hhides
    rw [OsPath.startsWith, Path.startsWith, List.isPrefixOf_iff_prefix] at hbegins
    obtain ⟨rest, hrest⟩ := hbegins
    have hpath : path.components = f.root.components ++ (dir.components ++ rest) := by
      rw [← List.append_assoc, ← f.root.components_join_names hdirNames]
      exact hrest.symm
    exact ignores_of_hides hpath (List.mem_append_left _ hstep) hstepHides

open Watch.Filter in
/-- A root behind a hidden step and among dependencies, and the root of all paths. Both let the
same source through, and the settings file below a hidden directory is ignored. -/
theorem filter_depends_below_root_hiddenRoot :
    let root : OsPath := .ofText "/h/.cache/node_modules/p"
    let dirs : List OsPath := [.ofText "./dist/js"]
    let p : OsPath := .ofText "src//dist/a.ts"
    root.isAbsolute = true ∧ (OsPath.ofText "/").isAbsolute = true ∧
      (∀ dir ∈ dirs, dir.isAbsolute = false) ∧ (∀ c ∈ p.components, c.isName = true) ∧
      p.components ≠ [] ∧
      (ofDirs root (dirs.map root.join)).ignores (root.join p) = false ∧
      (ofDirs (.ofText "/") (dirs.map (OsPath.ofText "/").join)).ignores
        (.ofText "/src//dist/a.ts") = false ∧
      (ofDirs root (dirs.map root.join)).ignores
        (.ofText "/h/.cache/node_modules/p/lib/.git/x/hush.toml") = true := by
  intro root dirs p
  have hroot : root.isAbsolute = true := by decide +kernel
  have hslash : (OsPath.ofText "/").isAbsolute = true := by decide +kernel
  have hdirs : ∀ dir ∈ dirs, dir.isAbsolute = false := by decide +kernel
  have hnames : ∀ c ∈ p.components, c.isName = true := by decide +kernel
  have hne : p.components ≠ [] := by decide +kernel
  obtain ⟨hsame, -, -, hhidden⟩ := filter_depends_below_root hroot hslash hdirs hnames hne
  have hheard : (ofDirs root (dirs.map root.join)).ignores (root.join p) = false := by
    decide +kernel
  have hjoin : (OsPath.ofText "/").join p = .ofText "/src//dist/a.ts" := by decide +kernel
  rw [hjoin] at hsame
  refine ⟨hroot, hslash, hdirs, hnames, hne, hheard, hsame.symm.trans hheard, ?_⟩
  exact hhidden _ (.ofText "lib/.git") _ ".git" (by decide +kernel) (by decide +kernel)
    (.inl (by decide)) (by decide +kernel)

open Watch.Filter in
/-- A filter whose directory has climbed out of its root can depend on the root: in normal form
`../p/dist` lies in `/p` and not in `/q`. And below a directory whose name starts with a dot, but is
no text, the settings file is let through. -/
theorem filter_depends_on_root :
    (¬ ∀ (root root' : OsPath) (dirs : List OsPath) (p : OsPath),
      root.isAbsolute = true → root.isClean = true → root'.isAbsolute = true →
      root'.isClean = true → (∀ dir ∈ dirs, dir.isAbsolute = false) →
      (∀ c ∈ p.components, c.isName = true) → p.components ≠ [] →
      (ofDirs root (dirs.map fun dir => (root.join dir).clean)).ignores (root.join p) =
        (ofDirs root' (dirs.map fun dir => (root'.join dir).clean)).ignores (root'.join p)) ∧
    ¬ ∀ (f : Filter) (dir path : OsPath) (s : String), (∀ c ∈ dir.components, c.isName = true) →
      dir.spelled.fileName = some s → s.toList.head? = some '.' →
      path.startsWith (f.root.join dir) = true → f.ignores path = true := by
  constructor
  · intro hall
    have hsame := hall (.ofText "/p") (.ofText "/q") [.ofText "../p/dist"] (.ofText "dist/a.ts")
      (by decide +kernel) (by decide +kernel) (by decide +kernel) (by decide +kernel)
      (by decide +kernel) (by decide +kernel) (by decide +kernel)
    exact absurd hsame (by decide +kernel)
  · intro hall
    have hignored := hall (ofRoot (.ofText "/p")) ⟨[0x2E, 0xFF]⟩
      ⟨"/p/.".toUTF8.toList ++ 0xFF :: "/hush.toml".toUTF8.toList⟩ ".\xFF"
      (by decide +kernel) (by decide +kernel) (by decide +kernel) (by decide +kernel)
    exact absurd hignored (by decide +kernel)

end Watch

end QuietEmit
