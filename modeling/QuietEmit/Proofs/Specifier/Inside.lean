/-
  QuietEmit.Proofs.Specifier.Inside

  Relative specifiers whose target is the base directory or lies inside it. Base and
  target are in normal form, hence paths of locations
  (`Path.exists_clean_eq_pathOf_of_isAbsolute`), and the names of the base begin those
  of the target. So the base begins the target, with a slash or the end after it
  (`Path.exists_text_eq_of_startsWith`). The lossy texts are cut at the same slash, which
  makes the first occurrence of the base's text the right one however often the names
  come again further in (`rebase_of_inside`).

  What comes after the project text is then the path from the base to the target, as it
  is shown. Where that path is a text it gives back the target, so of two such specifiers
  the results agree just if the targets do (`inside_names_same_place`). Names that are no
  text can be shown alike, and are then confused (`places_confused`).
-/
import QuietEmit.Proofs.FileTree.Location
import QuietEmit.Proofs.Specifier.Outside
import QuietEmit.Proofs.Specifier.Precedence

namespace QuietEmit

open FileTree (Named)

/-! ## Normal forms that are absolute -/

namespace Path

/-- No component of a relative path is written with a slash in front. -/
theorem head?_text_ne {p : Path} (hrel : p.isAbsolute = false) {c : Component}
    (h : c ∈ p.components) : ∃ first rest, c.text.toList = first :: rest ∧ first ≠ '/' := by
  cases c with
  | here => exact ⟨_, _, rfl, by decide⟩
  | up => exact ⟨_, _, rfl, by decide⟩
  | root =>
      rw [components_eq, hrel] at h
      unfold stepsFrom at h
      rw [if_neg Bool.false_ne_true] at h
      split at h
      · next rest hparts => exact absurd (by simpa using h) (root_notMem_steps rest)
      · exact absurd h (root_notMem_steps p.parts)
  | name s =>
      have hname : IsName s := FileTree.isName_of_mem_components h
      have hne : s.toList ≠ [] := by simpa using hname.ne_empty
      obtain ⟨first, rest, hs⟩ := List.exists_cons_of_ne_nil hne
      refine ⟨first, rest, hs, ?_⟩
      rintro rfl
      exact hname.slash_notMem (hs ▸ List.mem_cons_self)

/-- The normal form of a relative path is relative. -/
theorem isAbsolute_clean_of_relative {p : Path} (hrel : p.isAbsolute = false) :
    p.clean.isAbsolute = false := by
  rw [clean]
  cases hnormal : normalize p.components with
  | nil => rfl
  | cons c cs =>
      have hmem : c ∈ p.components := mem_normalize (hnormal ▸ List.mem_cons_self)
      obtain ⟨first, rest, htext, hfirst⟩ := head?_text_ne hrel hmem
      have hroot : c ≠ .root := by
        rintro rfl
        exact hfirst (List.cons.inj htext).1.symm
      have hspelt : ofComponents (c :: cs) = ⟨"/".intercalate ((c :: cs).map Component.text)⟩ := by
        cases c with
        | root => exact absurd rfl hroot
        | _ => rfl
      dsimp only
      rw [hspelt, isAbsolute]
      cases cs with
      | nil => simp [htext, hfirst]
      | cons d ds => simp [String.intercalate_cons_cons, htext, hfirst]

/-- A normal form that is absolute is the path of a location. -/
theorem exists_clean_eq_pathOf_of_isAbsolute {p : Path} (h : p.clean.isAbsolute = true) :
    ∃ loc, Named loc ∧ p.clean = FileTree.pathOf loc := by
  refine FileTree.exists_clean_eq_pathOf ?_
  cases habs : p.isAbsolute with
  | true => rfl
  | false => simp [isAbsolute_clean_of_relative habs] at h

/-- Only absolute paths are below an absolute one. -/
theorem isAbsolute_of_startsWith {p base : Path} (habs : base.isAbsolute = true)
    (h : p.startsWith base = true) : p.isAbsolute = true := by
  cases hrel : p.isAbsolute with
  | true => rfl
  | false =>
      have hmem : .root ∈ p.components := by
        rw [startsWith, List.isPrefixOf_iff_prefix] at h
        refine h.subset ?_
        simp [components_eq base, habs, stepsFrom]
      obtain ⟨first, rest, htext, hfirst⟩ := head?_text_ne hrel hmem
      exact absurd (List.cons.inj htext).1.symm hfirst

/-- A path below a directory as it is written after that: nothing, or a slash and the path. -/
def afterSlash (below : Path) : String :=
  if below.text = "" then "" else "/" ++ below.text

theorem afterSlash_injective {p q : Path} (h : p.afterSlash = q.afterSlash) : p = q := by
  rw [afterSlash, afterSlash] at h
  rw [Path.mk.injEq]
  split_ifs at h with hp hq hq
  · rw [hp, hq]
  · simp [← String.toList_inj] at h
  · simp [← String.toList_inj] at h
  · simpa [← String.toList_inj] using h

end Path

namespace FileTree

/-- The text of a location is that of a directory on the way, and the path from there on. -/
theorem text_pathOf_append {a b : Location} (h : Named (a ++ b)) (ha : a ≠ []) :
    (pathOf (a ++ b)).text = (pathOf a).text ++ Path.afterSlash ⟨"/".intercalate b⟩ := by
  rw [Path.afterSlash]
  rcases List.eq_nil_or_concat b with rfl | ⟨front, s, rfl⟩
  · simp
  · rw [List.concat_eq_append] at h ⊢
    have hs : IsName s := h s (by simp)
    have hne : "/".intercalate (front ++ [s]) ≠ "" := by
      obtain ⟨start, hstart⟩ := exists_intercalate_concat front s
      rw [hstart]
      simp [String.append_eq_empty_iff, hs.ne_empty]
    rw [if_neg hne]
    simp [pathOf, String.intercalate_append_of_ne_nil ha, String.append_assoc]

end FileTree

/-! ## Inside the base -/

/-- A normal form that begins with a directory has the directory's text first, and then the path from
there. -/
theorem Path.exists_text_eq_of_startsWith {p base : Path} (habs : base.isAbsolute = true)
    (hclean : base.clean = base) (hroot : base ≠ ⟨"/"⟩) (hinside : p.clean.startsWith base = true) :
    ∃ below, p.clean.below? base = some below ∧ p.clean.text = base.text ++ below.afterSlash := by
  obtain ⟨start, hstart, hbase⟩ := FileTree.exists_clean_eq_pathOf habs
  rw [hclean] at hbase
  have htargetAbs := Path.isAbsolute_of_startsWith habs hinside
  obtain ⟨loc, hloc, htarget⟩ := Path.exists_clean_eq_pathOf_of_isAbsolute htargetAbs
  rw [htarget, hbase, FileTree.startsWith_pathOf hloc hstart] at hinside
  obtain ⟨rest, rfl⟩ := hinside
  have hne : start ≠ [] := by
    rintro rfl
    exact hroot hbase
  have htext := FileTree.text_pathOf_append hloc hne
  rw [← hbase, ← htarget] at htext
  refine ⟨⟨"/".intercalate rest⟩, ?_, htext⟩
  rw [htarget, hbase]
  exact FileTree.below?_pathOf hloc

namespace OsPath

/-- A path below a directory as its bytes come after those of the directory: none, or a slash and the
path. -/
def afterSlash (below : OsPath) : List UInt8 :=
  if below.bytes = [] then [] else 0x2F :: below.bytes

theorem spell_afterSlash (below : OsPath) :
    Bytes.spell below.afterSlash = below.spelled.afterSlash := by
  have hempty : below.spelled.text = "" ↔ below.bytes = [] := by
    simp [spelled, Bytes.spell, ← String.toList_inj]
  rw [afterSlash, Path.afterSlash]
  by_cases hnil : below.bytes = []
  · rw [if_pos hnil, if_pos (hempty.mpr hnil)]
    rfl
  · rw [if_neg hnil, if_neg (mt hempty.mp hnil), ← String.toList_inj]
    simp [spelled, Bytes.spell]
    rfl

/-- The lossy text is cut where the path is. -/
theorem lossy_of_bytes_eq {p base below : OsPath} (h : p.bytes = base.bytes ++ below.afterSlash) :
    p.lossy.text = base.lossy.text ++ below.lossy.afterSlash := by
  have hempty : below.lossy.text = "" ↔ below.bytes = [] := Bytes.lossy_eq_empty_iff
  show Bytes.lossy p.bytes = _
  rw [h, afterSlash, Path.afterSlash]
  by_cases hnil : below.bytes = []
  · rw [if_pos hnil, if_pos (hempty.mpr hnil), List.append_nil, String.append_empty]
    rfl
  · rw [if_neg hnil, if_neg (mt hempty.mp hnil), Bytes.lossy_append_slash, String.append_assoc]
    rfl

/-- After a directory, a path that is a text has the bytes of that text. -/
theorem afterSlash_of_isText {below : OsPath} (h : below.isText = true) :
    below.afterSlash = Bytes.ofText below.lossy.afterSlash := by
  have hempty : below.lossy.text = "" ↔ below.bytes = [] := Bytes.lossy_eq_empty_iff
  have hbytes : Bytes.ofText below.lossy.text = below.bytes :=
    congrArg OsPath.bytes (isText_iff.mp h)
  rw [afterSlash, Path.afterSlash]
  by_cases hnil : below.bytes = []
  · rw [if_pos hnil, if_pos (hempty.mpr hnil)]
    rfl
  · rw [if_neg hnil, if_neg (mt hempty.mp hnil), Bytes.ofText_append, hbytes]
    rfl

/-- A normal form below a base consists of the base's bytes and the path from there. -/
theorem exists_bytes_eq_of_startsWith {p base : OsPath} (habs : base.isAbsolute = true)
    (hclean : base.isClean = true) (hroot : base ≠ .ofText "/")
    (hinside : p.clean.startsWith base = true) :
    ∃ below, p.clean.below? base = some below ∧ p.clean.bytes = base.bytes ++ below.afterSlash := by
  have hspelledClean : base.spelled.clean = base.spelled := by
    rw [← spelled_clean, eq_of_beq hclean]
  have hspelledRoot : base.spelled ≠ ⟨"/"⟩ := fun h =>
    hroot (spelled_injective (h.trans (by decide +kernel)))
  rw [startsWith, spelled_clean] at hinside
  obtain ⟨rest, hrest, htext⟩ :=
    Path.exists_text_eq_of_startsWith habs hspelledClean hspelledRoot hinside
  have hbelow : p.clean.below? base = some (ofSpelled rest) := by
    rw [below?, spelled_clean, hrest]
    rfl
  have hspelled : (ofSpelled rest).spelled = rest := by
    have hboth := spelled_of_below? hbelow
    rw [spelled_clean, hrest] at hboth
    exact (Option.some.inj hboth).symm
  refine ⟨ofSpelled rest, hbelow, ?_⟩
  have hbytes : Bytes.spell p.clean.bytes =
      Bytes.spell (base.bytes ++ (ofSpelled rest).afterSlash) := by
    rw [Bytes.spell_append, spell_afterSlash, hspelled]
    exact (congrArg Path.text (spelled_clean p)).trans htext
  rw [← Bytes.ofSpelled_spell p.clean.bytes, hbytes, Bytes.ofSpelled_spell]

end OsPath

/-! ## Rebasing -/

/-- A relative specifier of a file is left to rebasing, and its target, which has no backslash, is the
base directory or lies inside it. -/
structure Redirection.LeadsInside (c : Redirection) (specifier : String) (file base : OsPath)
    (project : String) : Prop where
  free : c.FallsThrough specifier file
  onto : c.RebasesOnto specifier base project
  inside : (resolveTarget specifier file).startsWith base = true
  plain : '\\' ∉ (resolveTarget specifier file).lossy.text.toList

/-- Inside the base directory rebasing gives the project text and the path from the base to the
target, as it is shown. -/
theorem rebase_of_inside {specifier : String} (project : String) {file base : OsPath}
    (habs : base.isAbsolute = true) (hclean : base.isClean = true) (hroot : base ≠ .ofText "/")
    (hinside : (resolveTarget specifier file).startsWith base = true)
    (hplain : '\\' ∉ (resolveTarget specifier file).lossy.text.toList) :
    ∃ below, (resolveTarget specifier file).below? base = some below ∧
      (resolveTarget specifier file).bytes = base.bytes ++ below.afterSlash ∧
      rebase specifier file base project = .ok (project ++ below.lossy.afterSlash) := by
  obtain ⟨below, hbelow, hbytes⟩ := OsPath.exists_bytes_eq_of_startsWith habs hclean hroot hinside
  replace hbytes : (resolveTarget specifier file).bytes = base.bytes ++ below.afterSlash := hbytes
  refine ⟨below, hbelow, hbytes, ?_⟩
  have htext : (resolveTarget specifier file).lossy.text =
      base.lossy.text ++ below.lossy.afterSlash := OsPath.lossy_of_bytes_eq hbytes
  -- the base's text begins that of the target, so nothing comes before its first occurrence
  have hsplit : Text.splitOnce? base.lossy.text.toList
      (resolveTarget specifier file).lossy.text.toList =
      some ([], below.lossy.afterSlash.toList) := by
    refine Text.splitOnce?_eq_some_iff.mpr ⟨?_, fun before after _ => Nat.zero_le _⟩
    rw [htext, String.toList_append, List.nil_append]
  have hkept : ∀ c ∈ below.lossy.afterSlash.toList, (if c == '\\' then '/' else c) = c := by
    intro c hc
    rw [htext, String.toList_append] at hplain
    have hne : c ≠ '\\' := fun heq => hplain (heq ▸ List.mem_append_right _ hc)
    simp [hne]
  rw [rebase_of_some hsplit, List.map_congr_left hkept, List.map_id', String.ofList_toList]

/-- A relative specifier whose target is the base directory or inside it comes back as the project
text and what is left of the target below the base, as it is shown: nothing, or a slash and the path.
With the base's text in the place of the project text this is the text of the target, and the target
itself if its part below the base is a text. Of two such specifiers the results agree just if these
parts are shown alike; if both are texts, just if the targets are the same. -/
theorem inside_names_same_place {c : Redirection} {specifier project : String}
    {file base : OsPath} (habs : base.isAbsolute = true) (hclean : base.isClean = true)
    (hroot : base ≠ .ofText "/") (h : c.LeadsInside specifier file base project) :
    ∃ below, (resolveTarget specifier file).below? base = some below ∧
      c.redirect specifier file = .ok (.changed (project ++ below.lossy.afterSlash)) ∧
      base.lossy.text ++ below.lossy.afterSlash = (resolveTarget specifier file).lossy.text ∧
      (below.isText = true →
        base.bytes ++ Bytes.ofText below.lossy.afterSlash = (resolveTarget specifier file).bytes) ∧
      ∀ specifier' file' below', c.LeadsInside specifier' file' base project →
        (resolveTarget specifier' file').below? base = some below' →
        (c.redirect specifier' file' = c.redirect specifier file ↔ below'.lossy = below.lossy) ∧
        (below'.isText = true → below.isText = true →
          (c.redirect specifier' file' = c.redirect specifier file ↔
            resolveTarget specifier' file' = resolveTarget specifier file)) := by
  have hresult : ∀ {specifier : String} {file : OsPath}, c.LeadsInside specifier file base project →
      ∃ below, (resolveTarget specifier file).below? base = some below ∧
        (resolveTarget specifier file).bytes = base.bytes ++ below.afterSlash ∧
        c.redirect specifier file = .ok (.changed (project ++ below.lossy.afterSlash)) := by
    intro specifier file h
    obtain ⟨below, hbelow, hbytes, hrebase⟩ :=
      rebase_of_inside project habs hclean hroot h.inside h.plain
    refine ⟨below, hbelow, hbytes, ?_⟩
    rw [Redirection.redirect_of_rebasesOnto h.free h.onto, hrebase]
    rfl
  obtain ⟨below, hbelow, hbytes, hredirect⟩ := hresult h
  refine ⟨below, hbelow, hredirect, (OsPath.lossy_of_bytes_eq hbytes).symm, ?_, ?_⟩
  · intro htext
    rw [hbytes, OsPath.afterSlash_of_isText htext]
  · intro specifier' file' below' h' hbelow'
    obtain ⟨other, hother, hbytes', hredirect'⟩ := hresult h'
    obtain rfl : other = below' := Option.some.inj (hother.symm.trans hbelow')
    have hshown : c.redirect specifier' file' = c.redirect specifier file ↔
        other.lossy = below.lossy := by
      rw [hredirect, hredirect']
      simp only [Except.ok.injEq, Redirected.changed.injEq, String.append_right_inj]
      exact ⟨Path.afterSlash_injective, fun h => by rw [h]⟩
    refine ⟨hshown, fun htext' htext => hshown.trans ?_⟩
    constructor
    · intro hlossy
      have hsame : other = below := by
        rw [← OsPath.isText_iff.mp htext', hlossy, OsPath.isText_iff.mp htext]
      rw [OsPath.mk.injEq, hbytes', hbytes, hsame]
    · intro htarget
      rw [htarget, hbelow] at hbelow'
      rw [Option.some.inj hbelow']

theorem leadsInside_librarySources {specifier : String} {file : OsPath}
    (hdot : specifier.toList.head? = some '.')
    (hinside : (resolveTarget specifier file).startsWith (.ofText "/repo/src") = true)
    (hplain : '\\' ∉ (resolveTarget specifier file).lossy.text.toList) :
    librarySources.LeadsInside specifier file (.ofText "/repo/src") "@lib" :=
  ⟨Redirection.fallsThrough_iff.mpr ⟨rfl, rfl⟩, ⟨baseUrl_librarySources, rfl, hdot⟩, hinside, hplain⟩

/-- A target that mentions the base twice is taken below the first mention, from two files that spell
the way to it differently; the base itself has nothing below it. -/
theorem inside_names_same_place_mentionedTwice :
    let file : OsPath := .ofText "/repo/src/a.ts"
    let nested : OsPath := .ofText "/repo/src/b/c.ts"
    librarySources.redirect "./repo/src/x" file = .ok (.changed "@lib/repo/src/x") ∧
    librarySources.redirect "../a/.././repo//src/x" nested =
      librarySources.redirect "./repo/src/x" file ∧
    librarySources.redirect ".." nested = .ok (.changed "@lib") := by
  intro file nested
  have habs : (OsPath.ofText "/repo/src").isAbsolute = true := by decide +kernel
  have hclean : (OsPath.ofText "/repo/src").isClean = true := by decide +kernel
  have hroot : OsPath.ofText "/repo/src" ≠ .ofText "/" := by decide +kernel
  have hfile : librarySources.LeadsInside "./repo/src/x" file (.ofText "/repo/src") "@lib" :=
    leadsInside_librarySources (by decide) (by decide +kernel) (by decide +kernel)
  have hnested : librarySources.LeadsInside "../a/.././repo//src/x" nested (.ofText "/repo/src")
      "@lib" :=
    leadsInside_librarySources (by decide) (by decide +kernel) (by decide +kernel)
  have hbase : librarySources.LeadsInside ".." nested (.ofText "/repo/src") "@lib" :=
    leadsInside_librarySources (by decide) (by decide +kernel) (by decide +kernel)
  obtain ⟨below, hbelow, hresult, -, -, hsame⟩ :=
    inside_names_same_place habs hclean hroot hfile
  obtain ⟨none, hnone, hbaseResult, -⟩ := inside_names_same_place habs hclean hroot hbase
  obtain rfl : below = .ofText "repo/src/x" := by
    have hpath : (resolveTarget "./repo/src/x" file).below? (.ofText "/repo/src") =
        some (.ofText "repo/src/x") := by decide +kernel
    exact Option.some.inj (hbelow.symm.trans hpath)
  obtain rfl : none = .ofText "" := by
    have hpath : (resolveTarget ".." nested).below? (.ofText "/repo/src") = some (.ofText "") := by
      decide +kernel
    exact Option.some.inj (hnone.symm.trans hpath)
  have hagree := (hsame _ _ (.ofText "repo/src/x") hnested (by decide +kernel)).2
  refine ⟨?_, (hagree (by decide +kernel) (by decide +kernel)).mpr (by decide +kernel), ?_⟩
  · rw [hresult]
    decide +kernel
  · rw [hbaseResult]
    decide +kernel

/-- Two files in directories inside the base whose names are no texts. They are shown alike, so the
same specifier comes back the same from both although it leads to different places. And a place
outside the base that mentions it comes back the same as one inside. -/
theorem places_confused :
    let base : OsPath := .ofText "/repo/src"
    let first : OsPath := base.join ⟨[0xFF, 0x2F, 0x61, 0x2E, 0x74, 0x73]⟩
    let second : OsPath := base.join ⟨[0xFE, 0x2F, 0x61, 0x2E, 0x74, 0x73]⟩
    let file : OsPath := .ofText "/repo/src/a.ts"
    let other : OsPath := .ofText "/other/a.ts"
    (base.isAbsolute = true ∧ base.isClean = true ∧
      first.isAbsolute = true ∧ second.isAbsolute = true ∧
      librarySources.LeadsInside "./b" first base "@lib" ∧
      librarySources.LeadsInside "./b" second base "@lib" ∧
      (librarySources.redirect "./b" first).toOption = some (.changed "@lib/\uFFFD/b") ∧
      (librarySources.redirect "./b" second).toOption = some (.changed "@lib/\uFFFD/b") ∧
      resolveTarget "./b" first ≠ resolveTarget "./b" second) ∧
    (librarySources.redirect "./x" file).toOption = some (.changed "@lib/x") ∧
      (librarySources.redirect "./repo/src/x" other).toOption = some (.changed "@lib/x") ∧
      resolveTarget "./x" file ≠ resolveTarget "./repo/src/x" other := by
  intro base first second file other
  have hfirst : librarySources.LeadsInside "./b" first base "@lib" :=
    leadsInside_librarySources (by decide) (by decide +kernel) (by decide +kernel)
  have hsecond : librarySources.LeadsInside "./b" second base "@lib" :=
    leadsInside_librarySources (by decide) (by decide +kernel) (by decide +kernel)
  refine ⟨⟨?_, ?_, ?_, ?_, hfirst, hsecond, ?_, ?_, ?_⟩, ?_, ?_, ?_⟩ <;> decide +kernel

end QuietEmit
