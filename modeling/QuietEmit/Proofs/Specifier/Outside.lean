/-
  QuietEmit.Proofs.Specifier.Outside

  Relative specifiers whose target lies outside the base directory. Rebasing looks
  for the text of the base in that of the target. In terms of what stands between
  slashes this finds the names of the base wherever they come one after the other,
  the last of them perhaps as the beginning of a longer name
  (`Path.Mentions.text_eq`, `Path.mentions_of_text_eq`).

  So a target outside is refused if it does not mention the base at all, and is
  otherwise rebased at the first mention, although that stands below other
  directories or is continued (`outside_refused_unless_mentioned`). A neighbour with
  a longer name is taken for the base in that way (`neighbour_rebased`).
-/
import QuietEmit.Proofs.Path.Bytes
import QuietEmit.Proofs.Text.Cuts
import QuietEmit.Specifier.Target

namespace QuietEmit

namespace Path

/-! ## Between slashes -/

section Pieces

variable {x y first last : List Char} {above lead rest : List (List Char)}

/-- Joining two lists of pieces makes one piece of those that meet. -/
theorem intercalate_meeting :
    ['/'].intercalate (lead ++ (last ++ first) :: rest) =
      ['/'].intercalate (lead ++ [last]) ++ ['/'].intercalate (first :: rest) := by
  induction lead with
  | nil =>
      cases rest with
      | nil => simp
      | cons second rest => simp [List.intercalate_cons_cons]
  | cons part lead ih =>
      rw [List.cons_append, List.cons_append, List.intercalate_cons_of_ne_nil (by simp),
        List.intercalate_cons_of_ne_nil (by simp), ih]
      simp

/-- Joining two lists of pieces one after the other puts a slash between them. -/
theorem intercalate_append (habove : above ≠ []) (hrest : rest ≠ []) :
    ['/'].intercalate (above ++ rest) =
      ['/'].intercalate above ++ '/' :: ['/'].intercalate rest := by
  induction above with
  | nil => exact absurd rfl habove
  | cons part above ih =>
      rw [List.cons_append, List.intercalate_cons_of_ne_nil (by simp [hrest])]
      by_cases hnil : above = []
      · simp [hnil]
      · rw [ih hnil, List.intercalate_cons_of_ne_nil hnil]
        simp

/-- The pieces of two texts in a row: of those that meet one is made. -/
theorem splitOn_append (hx : x.splitOn '/' = lead ++ [last]) (hy : y.splitOn '/' = first :: rest) :
    (x ++ y).splitOn '/' = lead ++ (last ++ first) :: rest := by
  have hxslash : ∀ part ∈ lead ++ [last], '/' ∉ part := fun part hpart =>
    slash_notMem_of_mem_splitOn (hx ▸ hpart)
  have hyslash : ∀ part ∈ first :: rest, '/' ∉ part := fun part hpart =>
    slash_notMem_of_mem_splitOn (hy ▸ hpart)
  have hpieces : ∀ part ∈ lead ++ (last ++ first) :: rest, '/' ∉ part := by
    intro part hpart
    rcases List.mem_append.mp hpart with hlead | hrest
    · exact hxslash part (List.mem_append_left _ hlead)
    · rcases List.mem_cons.mp hrest with rfl | hrest
      · rw [List.mem_append, not_or]
        exact ⟨hxslash last (by simp), hyslash first (List.mem_cons_self ..)⟩
      · exact hyslash part (List.mem_cons_of_mem _ hrest)
  rw [← List.splitOn_intercalate '/' hpieces (by simp), intercalate_meeting, ← hx, ← hy,
    List.intercalate_splitOn, List.intercalate_splitOn]

end Pieces

/-- What stands between the slashes of the whole text. Before the slash that an absolute path
begins with stands nothing. -/
def pieces (p : Path) : List (List Char) := p.text.toList.splitOn '/'

theorem pieces_eq (p : Path) : p.pieces = if p.isAbsolute then [] :: p.parts else p.parts := by
  obtain ⟨cs, hcs⟩ := exists_toList_eq p
  rw [pieces, parts_of_toList hcs, hcs]
  split
  · rw [List.splitOn_cons_eq_if_modifyHead, if_pos (by simp)]
  · rfl

/-! ## Mentions of a base -/

/-- The names of an absolute `base` come one after the other in a path, below the pieces `above`.
The last of them may be continued by `longer`. -/
def Mentions (target base : Path) (above : List (List Char)) (longer : List Char)
    (rest : List (List Char)) : Prop :=
  above ≠ [] ∧ ∃ lead last, base.parts = lead ++ [last] ∧
    target.pieces = above ++ (lead ++ (last ++ longer) :: rest)

/-- A mention is an occurrence of the base's text. -/
theorem Mentions.text_eq {target base : Path} {above rest : List (List Char)} {longer : List Char}
    (habs : base.isAbsolute = true) (h : target.Mentions base above longer rest) :
    target.text.toList =
      ['/'].intercalate above ++ base.text.toList ++ ['/'].intercalate (longer :: rest) := by
  obtain ⟨habove, lead, last, hbase, hpieces⟩ := h
  obtain ⟨cs, hcs⟩ := exists_toList_eq base
  have hnames : ['/'].intercalate (lead ++ [last]) = cs := by
    rw [← hbase, parts_of_toList hcs, List.intercalate_splitOn]
  rw [habs, if_pos rfl] at hcs
  calc target.text.toList
      = ['/'].intercalate (above ++ (lead ++ (last ++ longer) :: rest)) := by
        rw [← hpieces, pieces, List.intercalate_splitOn]
    _ = ['/'].intercalate above ++ '/' :: (cs ++ ['/'].intercalate (longer :: rest)) := by
        rw [intercalate_append habove (by simp), intercalate_meeting, hnames]
    _ = ['/'].intercalate above ++ base.text.toList ++ ['/'].intercalate (longer :: rest) := by
        rw [hcs]
        simp

/-- The base's text occurs just where the base is mentioned. -/
theorem mentions_of_text_eq {target base : Path} {a b : List Char}
    (habs : base.isAbsolute = true) (h : target.text.toList = a ++ base.text.toList ++ b) :
    ∃ longer rest, b.splitOn '/' = longer :: rest ∧
      target.Mentions base (a.splitOn '/') longer rest := by
  obtain ⟨longer, rest, hb⟩ := List.exists_cons_of_ne_nil (List.splitOn_ne_nil '/' b)
  obtain ⟨cs, hcs⟩ := exists_toList_eq base
  obtain ⟨lead, last, hbase⟩ : ∃ lead last, base.parts = lead ++ [last] :=
    ⟨_, _, (List.dropLast_concat_getLast (spells base).ne_nil).symm⟩
  refine ⟨longer, rest, hb, List.splitOn_ne_nil _ _, lead, last, hbase, ?_⟩
  rw [habs, if_pos rfl] at hcs
  rw [parts_of_toList (by rw [habs, if_pos rfl]; exact hcs)] at hbase
  -- the slash that the base begins with ends the pieces before it
  rw [pieces, h, hcs, List.append_assoc, List.cons_append, List.splitOn_append_cons_self,
    splitOn_append hbase hb]

/-- The pieces around a mention hold no slash. -/
theorem Mentions.splitOn_eq {target base : Path} {above rest : List (List Char)}
    {longer : List Char} (h : target.Mentions base above longer rest) :
    (['/'].intercalate above).splitOn '/' = above ∧
      (['/'].intercalate (longer :: rest)).splitOn '/' = longer :: rest := by
  obtain ⟨habove, lead, last, -, hpieces⟩ := h
  have hslash : ∀ part ∈ above ++ (lead ++ (last ++ longer) :: rest), '/' ∉ part :=
    fun part hpart => slash_notMem_of_mem_splitOn (hpieces ▸ hpart)
  refine ⟨List.splitOn_intercalate '/' ?_ habove, List.splitOn_intercalate '/' ?_ (by simp)⟩
  · exact fun part hpart => hslash part (List.mem_append_left _ hpart)
  · intro part hpart
    rcases List.mem_cons.mp hpart with rfl | hpart
    · have hmeeting : '/' ∉ last ++ part := hslash _ (by simp)
      exact fun hmem => hmeeting (List.mem_append_right _ hmem)
    · exact hslash part (by simp [hpart])

/-- A base that is mentioned right after the root, and not continued there, has the path below
it. -/
theorem Mentions.startsWith {target base : Path} {rest : List (List Char)}
    (habs : base.isAbsolute = true) (h : target.Mentions base [[]] [] rest) :
    target.startsWith base = true := by
  obtain ⟨-, lead, last, hbase, hpieces⟩ := h
  have htarget : target.isAbsolute = true := by
    cases hrel : target.isAbsolute with
    | true => rfl
    | false =>
        rw [pieces_eq, hrel, if_neg Bool.false_ne_true] at hpieces
        have hsingle := (spells target).head_ne_nil hrel (by rw [hpieces]; rfl)
        rw [hpieces] at hsingle
        simp at hsingle
  rw [pieces_eq, htarget, if_pos rfl, List.append_nil] at hpieces
  have hparts : target.parts = base.parts ++ rest := by
    rw [hbase, List.append_assoc]
    exact (List.cons.inj hpieces).2
  rw [Path.startsWith, components_eq, components_eq, habs, htarget, hparts]
  simp [stepsFrom]

/-- Of two mentions the one below fewer pieces comes first in the text. -/
theorem Mentions.length_le {target base : Path} {above rest : List (List Char)}
    {longer before after : List Char} (habs : base.isAbsolute = true)
    (h : target.Mentions base above longer rest)
    (htext : target.text.toList = before ++ base.text.toList ++ after)
    (hle : above.length ≤ (before.splitOn '/').length) :
    (['/'].intercalate above).length ≤ before.length := by
  refine Nat.le_of_not_lt fun hlt => ?_
  have hmention := h.text_eq habs
  obtain ⟨cs, hcs⟩ := exists_toList_eq base
  rw [habs, if_pos rfl] at hcs
  -- the text before the other occurrence is a beginning of that before this one
  have hbegins : before <+: ['/'].intercalate above := by
    have hother : before <+: target.text.toList := by
      rw [htext, List.append_assoc]
      exact List.prefix_append _ _
    have hthis : ['/'].intercalate above <+: target.text.toList := by
      rw [hmention, List.append_assoc]
      exact List.prefix_append _ _
    exact List.prefix_of_prefix_length_le hother hthis (Nat.le_of_lt hlt)
  obtain ⟨between, hbetween⟩ := hbegins
  rw [← hbetween, List.length_append] at hlt
  -- where the other occurrence begins with a slash, so that there is one piece more
  cases between with
  | nil => simp at hlt
  | cons c between =>
      rw [htext, hcs, ← hbetween] at hmention
      simp only [List.append_assoc, List.cons_append, List.append_cancel_left_eq,
        List.cons.injEq] at hmention
      obtain rfl := hmention.1
      have hlength := congrArg List.length h.splitOn_eq.1
      rw [← hbetween, List.splitOn_append_cons_self, List.length_append] at hlength
      have hpos := List.length_pos_iff.mpr (List.splitOn_ne_nil '/' between)
      omega

end Path

/-! ## Rebasing -/

section Rebase

variable {specifier project : String} {file base : OsPath}

theorem rebase_of_none
    (h : Text.splitOnce? base.lossy.text.toList (resolveTarget specifier file).lossy.text.toList =
      none) :
    rebase specifier file base project =
      .error ⟨specifier, (resolveTarget specifier file).lossy, base⟩ := by
  unfold rebase
  dsimp only
  rw [h]

theorem rebase_of_some {before after : List Char}
    (h : Text.splitOnce? base.lossy.text.toList (resolveTarget specifier file).lossy.text.toList =
      some (before, after)) :
    rebase specifier file base project =
      .ok (project ++ String.ofList (after.map fun c => if c == '\\' then '/' else c)) := by
  unfold rebase
  dsimp only
  rw [h]

/-- Rebasing is refused exactly where the target does not mention the base. -/
theorem rebase_eq_error_iff (habs : base.lossy.isAbsolute = true) :
    rebase specifier file base project =
        .error ⟨specifier, (resolveTarget specifier file).lossy, base⟩ ↔
      ∀ above longer rest,
        ¬ (resolveTarget specifier file).lossy.Mentions base.lossy above longer rest := by
  constructor
  · intro hrefused above longer rest hmention
    have hsome := Text.exists_splitOnce?_of_append base.lossy.text.toList (['/'].intercalate above)
      (['/'].intercalate (longer :: rest))
    rw [← hmention.text_eq habs] at hsome
    obtain ⟨before, after, hsplit, -⟩ := hsome
    rw [rebase_of_some hsplit] at hrefused
    cases hrefused
  · intro hnone
    refine rebase_of_none (Text.splitOnce?_eq_none_iff.mpr ?_)
    intro before after htext
    obtain ⟨longer, rest, -, hmention⟩ := Path.mentions_of_text_eq habs htext
    exact hnone _ _ _ hmention

/-- At the first mention of the base the project text takes the place of all up to it. -/
theorem rebase_of_mentions (habs : base.lossy.isAbsolute = true) {above rest : List (List Char)}
    {longer : List Char}
    (h : (resolveTarget specifier file).lossy.Mentions base.lossy above longer rest)
    (hfirst : ∀ above' longer' rest',
      (resolveTarget specifier file).lossy.Mentions base.lossy above' longer' rest' →
        above.length ≤ above'.length) :
    rebase specifier file base project = .ok (project ++ String.ofList
      ((['/'].intercalate (longer :: rest)).map fun c => if c == '\\' then '/' else c)) := by
  have hsplit : Text.splitOnce? base.lossy.text.toList
      (resolveTarget specifier file).lossy.text.toList =
      some (['/'].intercalate above, ['/'].intercalate (longer :: rest)) := by
    rw [Text.splitOnce?_eq_some_iff]
    refine ⟨h.text_eq habs, ?_⟩
    intro before after htext
    obtain ⟨longer', rest', -, hmention⟩ := Path.mentions_of_text_eq habs htext
    exact h.length_le habs htext (hfirst _ _ _ hmention)
  exact rebase_of_some hsplit

end Rebase

/-- A relative specifier whose target is neither the base directory nor below it, component by
component, is refused with its target and the base, unless the target mentions the base where it is
not: below other directories, or with a longer last name, or with other bytes than it is shown with.
Only then, and always then, it is rebased at the first mention: what follows there comes after the
project text. -/
theorem outside_refused_unless_mentioned {c : Redirection} {specifier project : String}
    {file base : OsPath} (habs : base.isAbsolute = true) (hbase : c.baseUrl = some base)
    (hproject : c.project = some project) (hdot : specifier.toList.head? = some '.')
    (haliases : c.aliases.answer specifier = none) (hhook : c.hookAnswer specifier file = none)
    (houtside : (resolveTarget specifier file).startsWith base = false) :
    let target := (resolveTarget specifier file).lossy
    (c.redirect specifier file = .error ⟨specifier, target, base⟩ ↔
      ∀ above longer rest, ¬ target.Mentions base.lossy above longer rest) ∧
    ∀ above longer rest, target.Mentions base.lossy above longer rest →
      ((resolveTarget specifier file).isText = true → base.isText = true →
        above ≠ [[]] ∨ longer ≠ []) ∧
      ((∀ above' longer' rest', target.Mentions base.lossy above' longer' rest' →
          above.length ≤ above'.length) →
        c.redirect specifier file = .ok (.changed (project ++ String.ofList
          ((['/'].intercalate (longer :: rest)).map fun c => if c == '\\' then '/' else c)))) := by
  intro target
  have hlossy := OsPath.isAbsolute_lossy habs
  have hredirect : c.redirect specifier file =
      (rebase specifier file base project).map .changed := by
    rw [Redirection.redirect, haliases, hhook, hbase, hproject]
    dsimp only
    rw [if_pos (by rw [hdot]; rfl)]
  refine ⟨?_, ?_⟩
  · rw [← rebase_eq_error_iff hlossy, hredirect]
    show (rebase specifier file base project).map Redirected.changed =
        .error ⟨specifier, (resolveTarget specifier file).lossy, base⟩ ↔ _
    cases rebase specifier file base project with
    | error e => simp [Except.map]
    | ok text => simp [Except.map]
  · intro above longer rest hmention
    refine ⟨?_, ?_⟩
    · intro htext hbaseText
      by_cases hroot : above = [[]]
      · refine .inr fun hlonger => ?_
        rw [hroot, hlonger] at hmention
        have hinside := hmention.startsWith hlossy
        rw [← OsPath.startsWith_ofPath, OsPath.isText_iff.mp hbaseText,
          OsPath.isText_iff.mp htext, houtside] at hinside
        cases hinside
      · exact .inl hroot
    · intro hfirst
      rw [hredirect, rebase_of_mentions hlossy hmention hfirst]
      rfl

/-- Relative specifiers are rebased from `/repo/src`, without aliases or a hook. -/
def librarySources : Redirection :=
  (Redirection.empty.setBaseUrl (.ofText "/repo/src")).setProject "@lib"

theorem baseUrl_librarySources : librarySources.baseUrl = some (.ofText "/repo/src") := by
  decide +kernel

/-- Of two targets outside, `/repo/x` does not mention the base and is refused. The neighbour
`/repo/src2/x` mentions it right below the root, continued by `2`, and is rebased. -/
theorem outside_refused_unless_mentioned_neighbour :
    let file : OsPath := .ofText "/repo/src/a.ts"
    (resolveTarget "../x" file).startsWith (.ofText "/repo/src") = false ∧
    librarySources.redirect "../x" file =
      .error ⟨"../x", (resolveTarget "../x" file).lossy, .ofText "/repo/src"⟩ ∧
    (resolveTarget "../src2/x" file).startsWith (.ofText "/repo/src") = false ∧
    librarySources.redirect "../src2/x" file = .ok (.changed "@lib2/x") := by
  intro file
  have habs : (OsPath.ofText "/repo/src").isAbsolute = true := by decide +kernel
  have habove : (resolveTarget "../x" file).startsWith (.ofText "/repo/src") = false := by
    decide +kernel
  have hbeside : (resolveTarget "../src2/x" file).startsWith (.ofText "/repo/src") = false := by
    decide +kernel
  refine ⟨habove, ?_, hbeside, ?_⟩
  · obtain ⟨hrefused, -⟩ := outside_refused_unless_mentioned (c := librarySources) habs
      baseUrl_librarySources rfl (by decide) rfl rfl habove
    have hnone : rebase "../x" file (.ofText "/repo/src") "@lib" =
        .error ⟨"../x", (resolveTarget "../x" file).lossy, .ofText "/repo/src"⟩ :=
      rebase_of_none (by decide +kernel)
    exact hrefused.mpr ((rebase_eq_error_iff (OsPath.isAbsolute_lossy habs)).mp hnone)
  · obtain ⟨-, hrebased⟩ := outside_refused_unless_mentioned (c := librarySources) habs
      baseUrl_librarySources rfl (by decide) rfl rfl hbeside
    have hmention : (resolveTarget "../src2/x" file).lossy.Mentions
        (OsPath.ofText "/repo/src").lossy [[]] ['2'] [['x']] :=
      ⟨by decide, ["repo".toList], "src".toList, by decide +kernel, by decide +kernel⟩
    obtain ⟨-, hfirst⟩ := hrebased _ _ _ hmention
    have htext : "@lib" ++ String.ofList
        ((['/'].intercalate [['2'], ['x']]).map fun c => if c == '\\' then '/' else c) =
        "@lib2/x" := by decide +kernel
    rw [hfirst fun above' _ _ hother => List.length_pos_iff.mpr hother.1, htext]

/-- Targets outside the base directory that are rebased all the same: below a neighbour with a
longer name, and below directories that are named like the base further in. -/
theorem neighbour_rebased :
    let neighbour := resolveTarget "../src2/x" (.ofText "/repo/src/a.ts")
    let deeper := resolveTarget "./repo/src/x" (.ofText "/other/a.ts")
    librarySources.baseUrl = some (.ofText "/repo/src") ∧
    librarySources.check.toOption = some () ∧
    neighbour = .ofText "/repo/src2/x" ∧ neighbour.startsWith (.ofText "/repo/src") = false ∧
    (librarySources.redirect "../src2/x" (.ofText "/repo/src/a.ts")).toOption =
      some (.changed "@lib2/x") ∧
    deeper = .ofText "/other/repo/src/x" ∧ deeper.startsWith (.ofText "/repo/src") = false ∧
    (librarySources.redirect "./repo/src/x" (.ofText "/other/a.ts")).toOption =
      some (.changed "@lib/x") := by
  decide +kernel

end QuietEmit
