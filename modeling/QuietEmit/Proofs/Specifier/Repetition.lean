/-
  QuietEmit.Proofs.Specifier.Repetition

  Redirecting a module twice. After a first run every literal stands where it has
  moved, and says what the rule made of it or what it said before
  (`FirstRun.edited_reads`). When no candidate lies in another one the first run has
  asked the rule about all of them, so that a rule that keeps its own answers finds
  nothing more to change (`FirstRun.revise_again`), and a second pass leaves the code
  as the first one left it (`second_pass_changes_nothing`).
-/
import QuietEmit.Proofs.Program.Passes
import QuietEmit.Proofs.Specifier.Outside
import QuietEmit.Proofs.Specifier.Relocation
import QuietEmit.Proofs.Syntax.StringGrammar

namespace QuietEmit

open Syntax (Form Tree Source)

/-! ## What is asked of a rule and of a module -/

/-- A specifier without quotes, backslashes and line ends. -/
def IsPlain (specifier : String) : Prop :=
  ∀ c ∈ specifier.toList, c ∉ ['\'', '"', '\\', '\n', '\r']

instance (specifier : String) : Decidable (IsPlain specifier) :=
  List.decidableBAll _ specifier.toList

/-- The rule leaves a specifier of a file as it is. -/
def Redirection.Keeps (redirection : Redirection) (file : Path) (specifier : String) : Prop :=
  ∃ answer, redirection.redirect specifier file = .ok answer ∧ answer.text specifier = specifier

/-- No candidate lies in another one. -/
def Syntax.Tree.Flat (tree : Tree) : Prop :=
  ∀ o ∈ tree.occurrences, o.tree.candidate?.isSome → ∀ a ∈ o.above, a.candidate? = Option.none

instance (tree : Tree) : Decidable tree.Flat :=
  List.decidableBAll _ tree.occurrences

/-- Without a candidate in another one all candidates count. -/
theorem Syntax.Tree.Flat.exposed_eq {tree : Tree} (h : tree.Flat) (changes : Candidate → Bool) :
    tree.exposed changes = tree.candidates := by
  rw [exposed, candidates, List.filterMap_filter]
  refine List.filterMap_congr fun o ho => ?_
  cases hc : o.tree.candidate? with
  | none => simp
  | some c =>
      have hvisible : o.isHidden changes = false := by
        rw [Occurrence.isHidden, List.any_eq_false]
        intro a ha
        rw [h o ho (by rw [hc]; rfl) a ha]
        simp
      simp [hvisible]

/-- A rule keeps a specifier exactly when it neither rejects it nor changes it. -/
theorem Redirection.keeps_iff {redirection : Redirection} {file : Path} {specifier : String} :
    redirection.Keeps file specifier ↔
      redirection.rejection? file specifier = none ∧ redirection.change? file specifier = none := by
  rw [Keeps, rejection?, change?]
  cases redirection.redirect specifier file with
  | error e => simp
  | ok answer =>
      cases answer with
      | unchanged => simp [Redirected.text]
      | changed text => by_cases h : text = specifier <;> simp [Redirected.text, h]

instance (redirection : Redirection) (file : Path) (specifier : String) :
    Decidable (redirection.Keeps file specifier) :=
  decidable_of_iff _ Redirection.keeps_iff.symm

/-- A plain specifier is written as it is, in quotes. -/
theorem write_of_isPlain (q : Quote) {specifier : String} (h : IsPlain specifier) :
    StringLiteral.write q specifier.toList = q.char :: specifier.toList ++ [q.char] := by
  have hchar : ∀ c ∈ specifier.toList, StringLiteral.writeChar q.char c = [c] := by
    intro c hc
    have hplain := h c hc
    simp only [List.mem_cons, List.not_mem_nil, or_false, not_or] at hplain
    obtain ⟨hsingle, hdouble, hbackslash, hfeed, hreturn⟩ := hplain
    have hquote : c ≠ q.char := by cases q <;> assumption
    rw [StringLiteral.writeChar, if_neg hbackslash, if_neg hfeed, if_neg hreturn, if_neg hquote]
  have hall : specifier.toList.flatMap (StringLiteral.writeChar q.char) = specifier.toList := by
    rw [List.flatMap_def, List.map_congr_left hchar, ← List.flatMap_def, List.flatMap_singleton']
  rw [StringLiteral.write, hall]

/-- A literal that a specifier is written as says it. -/
theorem Edit.string?_write (span : Span) (q : Quote) (specifier : String) :
    Edit.string? ⟨span, StringLiteral.write q specifier.toList⟩ = some (specifier, false) := by
  have htoken := StringLiteral.scanToken_write q specifier.toList []
    (Nat.le_refl (StringLiteral.write q specifier.toList).length)
  rw [List.append_nil, String.ofList_toList] at htoken
  rw [Edit.string?, htoken]

instance : Std.Symm Candidate.Apart where
  symm _ _ h := Or.symm h

/-- No two candidates have one literal. -/
theorem LiteralsPlaced.eq_of_span_eq {text : List Char} {tree : Tree}
    (h : LiteralsPlaced text tree) {c d : Candidate} (hc : c ∈ tree.candidates)
    (hd : d ∈ tree.candidates) (hspan : c.span = d.span) : c = d := by
  by_contra hne
  have hapart : c.Apart d := h.apart.forall hc hd hne
  have hlength := (h.quoted d hd).length_le
  rw [Candidate.Apart, hspan] at hapart
  omega

theorem Candidate.specifier_of_importType {c : Candidate} (h : c.carrier = .importType)
    (text : List Char) : c.specifier text = c.value := by
  rw [specifier, h]

/-! ## The edits of a first run -/

/-- The edits that a revision makes. -/
def Revision.edits (rev : Revision) : List Edit := rev.replacements.map Replacement.edit

/-- What a first run makes of a module without a candidate in another one. -/
structure FirstRun (redirection : Redirection) (path : Path) (text : String) (tree : Tree)
    (rev : Revision) : Prop where
  placed : LiteralsPlaced text.toList tree
  flat : tree.Flat
  revised : revise redirection path text tree = .ok rev

namespace FirstRun

variable {redirection : Redirection} {path : Path} {text : String} {tree : Tree} {rev : Revision}
  {c : Candidate} {new : String}

theorem counted_eq (run : FirstRun redirection path text tree rev) :
    tree.counted redirection path text.toList = tree.candidates :=
  run.flat.exposed_eq _

/-- The replacements are those of the candidates that the rule changes. -/
theorem mem_replacements_iff (run : FirstRun redirection path text tree rev) {r : Replacement} :
    r ∈ rev.replacements ↔ ∃ c ∈ tree.candidates, ∃ new,
      redirection.change? path (c.specifier text.toList) = some new ∧
        r = ⟨c.reference text.toList, c.carrier, c.span, new, c.quote text.toList⟩ := by
  rw [mem_replacements_of_revise run.placed run.revised, run.counted_eq]
  exact exists_congr fun c => and_congr_right fun _ => replacement?_eq_some_iff

/-- The edits put the new specifiers in the places of the literals. -/
theorem mem_edits (run : FirstRun redirection path text tree rev) {e : Edit} :
    e ∈ rev.edits ↔ ∃ c ∈ tree.candidates, ∃ new,
      redirection.change? path (c.specifier text.toList) = some new ∧
        e = ⟨c.span, StringLiteral.write (c.quote text.toList) new.toList⟩ := by
  rw [Revision.edits, List.mem_map]
  constructor
  · rintro ⟨r, hr, rfl⟩
    obtain ⟨c, hc, new, hnew, rfl⟩ := run.mem_replacements_iff.mp hr
    exact ⟨c, hc, new, hnew, rfl⟩
  · rintro ⟨c, hc, new, hnew, rfl⟩
    exact ⟨_, run.mem_replacements_iff.mpr ⟨c, hc, new, hnew, rfl⟩, rfl⟩

theorem start_lt_stop (run : FirstRun redirection path text tree rev) :
    ∀ e ∈ rev.edits, e.span.start < e.span.stop := by
  intro e he
  obtain ⟨c, hc, new, -, rfl⟩ := run.mem_edits.mp he
  have hlength := (run.placed.quoted c hc).length_le
  show c.span.start < c.span.stop
  omega

theorem spliced (run : FirstRun redirection path text tree rev) :
    Edit.Spliced rev.edits 0 text.toList rev.result.toList :=
  spliced_of_revise run.placed run.revised

/-! ### Candidates that the rule changes -/

/-- The literal of a candidate that the rule changes says the new specifier. -/
theorem stringAt?_of_change (run : FirstRun redirection path text tree rev)
    (hc : c ∈ tree.candidates)
    (hnew : redirection.change? path (c.specifier text.toList) = some new) :
    Edit.stringAt? rev.edits c.span = some (new, false) := by
  have hmem := run.mem_edits.mpr ⟨c, hc, new, hnew, rfl⟩
  rw [Edit.stringAt?]
  cases hfind : rev.edits.find? (·.span = c.span) with
  | none => exact absurd (List.find?_eq_none.mp hfind _ hmem) (by simp)
  | some e =>
      -- what is found there belongs to a candidate with the same literal, and so to this one
      have hspan : e.span = c.span := by simpa using List.find?_some hfind
      obtain ⟨d, hd, other, hother, rfl⟩ := run.mem_edits.mp (List.mem_of_find?_eq_some hfind)
      obtain rfl := run.placed.eq_of_span_eq hd hc hspan
      obtain rfl := Option.some.inj (hnew.symm.trans hother)
      exact Edit.string?_write ..

/-- The new literal stands where the span of the old one has moved. -/
theorem slice?_of_change (run : FirstRun redirection path text tree rev)
    (hc : c ∈ tree.candidates)
    (hnew : redirection.change? path (c.specifier text.toList) = some new) :
    Text.slice? rev.result.toList (c.span.edited rev.edits) =
      some (StringLiteral.write (c.quote text.toList) new.toList) := by
  have hmem := run.mem_edits.mpr ⟨c, hc, new, hnew, rfl⟩
  exact Text.slice?_eq_some_iff_standsAt.mpr (run.spliced.standsAt_new run.start_lt_stop hmem 0)

/-! ### Candidates that stay -/

/-- The edits share nothing with a candidate that the rule does not change. -/
theorem apart_of_same (run : FirstRun redirection path text tree rev) (hc : c ∈ tree.candidates)
    (hsame : redirection.change? path (c.specifier text.toList) = none) :
    ∀ e ∈ rev.edits, c.span.stop ≤ e.span.start ∨ e.span.stop ≤ c.span.start := by
  intro e he
  obtain ⟨d, hd, new, hnew, rfl⟩ := run.mem_edits.mp he
  have hne : c ≠ d := by
    rintro rfl
    rw [hsame] at hnew
    cases hnew
  exact run.placed.apart.forall hc hd hne

/-- Nothing is put in the place of a literal that stays. -/
theorem stringAt?_of_same (run : FirstRun redirection path text tree rev)
    (hc : c ∈ tree.candidates)
    (hsame : redirection.change? path (c.specifier text.toList) = none) :
    Edit.stringAt? rev.edits c.span = none := by
  have hnone : rev.edits.find? (·.span = c.span) = none := by
    rw [List.find?_eq_none]
    intro e he hspan
    have hapart := run.apart_of_same hc hsame e he
    have hlt := run.start_lt_stop e he
    rw [of_decide_eq_true hspan] at hapart hlt
    omega
  rw [Edit.stringAt?, hnone, Option.bind_none]

/-- A literal that stays stands where its span has moved. -/
theorem slice?_of_same (run : FirstRun redirection path text tree rev) (hc : c ∈ tree.candidates)
    (hsame : redirection.change? path (c.specifier text.toList) = none) {raw : List Char}
    (hraw : Text.slice? text.toList c.span = some raw) :
    Text.slice? rev.result.toList (c.span.edited rev.edits) = some raw :=
  Text.slice?_eq_some_iff_standsAt.mpr <|
    run.spliced.standsAt_moved run.start_lt_stop (Text.slice?_eq_some_iff_standsAt.mp hraw)
      (run.apart_of_same hc hsame) 0

/-! ### All candidates -/

/-- After the run a literal stands in quotes and says what the rule made of the candidate, if that
is plain, or else what it said before. -/
theorem edited_reads (run : FirstRun redirection path text tree rev) (hc : c ∈ tree.candidates)
    (hplain : ∀ new, redirection.change? path (c.specifier text.toList) = some new →
      IsPlain new) :
    (c.edited rev.edits).IsQuoted rev.result.toList ∧
      (c.edited rev.edits).specifier rev.result.toList =
        (redirection.change? path (c.specifier text.toList)).getD (c.specifier text.toList) := by
  have hcarrier : (c.edited rev.edits).carrier = c.carrier := rfl
  cases hchange : redirection.change? path (c.specifier text.toList) with
  | some new =>
      have hslice : Text.slice? rev.result.toList (c.edited rev.edits).span = _ :=
        run.slice?_of_change hc hchange
      rw [write_of_isPlain _ (hplain new hchange)] at hslice
      refine ⟨⟨_, _, hslice⟩, ?_⟩
      by_cases hk : c.carrier = .importType
      · rw [Candidate.specifier_of_importType (hcarrier.trans hk), Candidate.edited,
          run.stringAt?_of_change hc hchange]
        rfl
      · rw [Candidate.specifier_eq hslice hk, String.ofList_toList]
        rfl
  | none =>
      obtain ⟨q, body, hraw⟩ := run.placed.quoted c hc
      have hslice : Text.slice? rev.result.toList (c.edited rev.edits).span = _ :=
        run.slice?_of_same hc hchange hraw
      refine ⟨⟨q, body, hslice⟩, ?_⟩
      by_cases hk : c.carrier = .importType
      · rw [Candidate.specifier_of_importType (hcarrier.trans hk), Candidate.edited,
          run.stringAt?_of_same hc hchange, Option.getD_none,
          Candidate.specifier_of_importType hk]
        rfl
      · rw [Candidate.specifier_eq hslice hk, Option.getD_none, Candidate.specifier_eq hraw hk]

/-- What is asked of new specifiers is asked of what the rule makes of candidates. -/
theorem of_replacements (run : FirstRun redirection path text tree rev) {p : String → Prop}
    (hp : ∀ r ∈ rev.replacements, p r.new.specifier) (hc : c ∈ tree.candidates)
    (hnew : redirection.change? path (c.specifier text.toList) = some new) : p new :=
  hp _ (run.mem_replacements_iff.mpr ⟨c, hc, new, hnew, rfl⟩)

/-- The literals of the edited tree stand in the text after the run as a parser promises it. -/
theorem literalsPlaced_edited (run : FirstRun redirection path text tree rev)
    (hplain : ∀ r ∈ rev.replacements, IsPlain r.new.specifier) :
    LiteralsPlaced rev.result.toList (tree.edited rev.edits) := by
  constructor
  · rw [Syntax.Tree.candidates_edited]
    intro d hd
    obtain ⟨c, hc, rfl⟩ := List.mem_map.mp hd
    exact (run.edited_reads hc fun new hnew => run.of_replacements hplain hc hnew).1
  · rw [Syntax.Tree.candidates_edited, List.pairwise_map]
    -- positions keep their order, and so do literals
    exact run.placed.apart.imp fun h =>
      h.imp (Edit.moved_mono rev.edits 0 0) (Edit.moved_mono rev.edits 0 0)

/-- The rule keeps what every candidate says after the run, if it keeps the new specifiers. -/
theorem keeps_edited (run : FirstRun redirection path text tree rev)
    (hnew : ∀ r ∈ rev.replacements,
      IsPlain r.new.specifier ∧ redirection.Keeps path r.new.specifier) :
    ∀ d ∈ (tree.edited rev.edits).candidates,
      redirection.Keeps path (d.specifier rev.result.toList) := by
  rw [Syntax.Tree.candidates_edited]
  intro d hd
  obtain ⟨c, hc, rfl⟩ := List.mem_map.mp hd
  have hreads := run.edited_reads hc fun new hchange =>
    run.of_replacements (fun r hr => (hnew r hr).1) hc hchange
  rw [hreads.2]
  cases hchange : redirection.change? path (c.specifier text.toList) with
  | some new => exact run.of_replacements (fun r hr => (hnew r hr).2) hc hchange
  | none =>
      -- the first run has asked the rule about this candidate, too, and it was not rejected
      have haccepted := (revise_eq_ok run.placed run.revised).1 c (run.counted_eq ▸ hc)
      rw [Candidate.rejection?, Option.map_eq_none_iff] at haccepted
      exact Redirection.keeps_iff.mpr ⟨haccepted, hchange⟩

/-- A second run on the edited tree changes nothing more. -/
theorem revise_again (run : FirstRun redirection path text tree rev)
    (hnew : ∀ r ∈ rev.replacements,
      IsPlain r.new.specifier ∧ redirection.Keeps path r.new.specifier) :
    revise redirection path rev.result (tree.edited rev.edits) = .ok (.unchanged path rev.result) := by
  have hplaced := run.literalsPlaced_edited fun r hr => (hnew r hr).1
  have hkept : ∀ d ∈ (tree.edited rev.edits).counted redirection path rev.result.toList,
      redirection.Keeps path (d.specifier rev.result.toList) := fun d hd =>
    run.keeps_edited hnew d ((exposed_sublist_candidates _ _).subset hd)
  have hnone : ((tree.edited rev.edits).counted redirection path rev.result.toList).filterMap
      (Candidate.replacement? redirection path rev.result.toList) = [] := by
    rw [List.filterMap_eq_nil_iff]
    intro d hd
    rw [Candidate.replacement?, (Redirection.keeps_iff.mp (hkept d hd)).2, Option.map_none]
  have haccepted : ∀ d ∈ (tree.edited rev.edits).counted redirection path rev.result.toList,
      d.rejection? redirection path rev.result.toList = none := by
    intro d hd
    rw [Candidate.rejection?, (Redirection.keeps_iff.mp (hkept d hd)).1, Option.map_none]
  rw [revise_accepts hplaced haccepted, Candidate.replacements, hnone, List.mergeSort_nil,
    Revision.ofReplacements_nil]

end FirstRun

/-! ## Two passes -/

/-- Redirecting twice changes nothing more. When no candidate of a module lies in another one, and
each new specifier is plain and one that the rule keeps, then two passes with the same options leave
the code that one leaves, and the rule has no replacement to make in it; if it rejects a specifier
the first time, it does so again. What is assumed of the parser is that literals stand where it says
they do, and that new literals change nothing else of the tree. -/
theorem second_pass_changes_nothing {redirection : Redirection} {path : Path} {text : String}
    (hplaced : LiteralsPlaced text.toList (Source.read (.ofPath path) text).tree)
    (hflat : (Source.read (.ofPath path) text).tree.Flat)
    (hnew : ∀ rev, reviseText redirection path text = .ok rev → ∀ r ∈ rev.replacements,
      IsPlain r.new.specifier ∧ redirection.Keeps path r.new.specifier)
    (hreread : ∀ rev, reviseText redirection path text = .ok rev →
      (Source.read (.ofPath path) rev.result).tree =
        (Source.read (.ofPath path) text).tree.edited rev.edits) :
    let pass : Pass := RedirectingPass.mk redirection
    let once := (Pass.runAll [pass] path text).1
    (Pass.runAll [pass, pass] path text).1 = once ∧
    (∀ rev, reviseText redirection path text = .ok rev →
      once = rev.result ∧ reviseText redirection path once = .ok (.unchanged path once)) ∧
    ∀ e, reviseText redirection path text = .error e →
      once = text ∧ reviseText redirection path once = .error e := by
  have hagain : ∀ rev, reviseText redirection path text = .ok rev →
      reviseText redirection path rev.result = .ok (.unchanged path rev.result) := by
    intro rev hrev
    rw [reviseText, hreread rev hrev]
    exact FirstRun.revise_again ⟨hplaced, hflat, hrev⟩ (hnew rev hrev)
  simp only [Pass.runAll_eq, List.foldl_cons, List.foldl_nil]
  cases hfirst : reviseText redirection path text with
  | ok rev =>
      rw [RedirectingPass.contribute_of_ok hfirst,
        RedirectingPass.contribute_of_ok (hagain rev hfirst)]
      refine ⟨rfl, ?_, ?_⟩
      · intro other hother
        obtain rfl := Except.ok.inj hother
        exact ⟨rfl, hagain rev hfirst⟩
      · intro e he
        cases he
  | error e =>
      have hstays : (RedirectingPass.mk redirection).toPass.contribute path text = text :=
        Pass.contribute_of_error hfirst
      rw [hstays, hstays]
      refine ⟨rfl, ?_, ?_⟩
      · intro rev hrev
        cases hrev
      · intro other hother
        obtain rfl := Except.error.inj hother
        exact ⟨rfl, hfirst⟩

/-! ### A module with three imports -/

/-- Two of the modules are named by their places. -/
def threeImports : String := "import './é'; import x from 'y'; type T = import(\"./b\");"

/-- The file of that module. -/
def threeImportsPath : Path := ⟨"/repo/src/m.ts"⟩

/-- The tree that is read from it. -/
def threeImportsTree : Tree := (Source.read (.ofPath threeImportsPath) threeImports).tree

/-- The candidates in it. -/
def threeCandidates : List Candidate :=
  [⟨.importDeclaration, ⟨7, 13⟩, "./é"⟩, ⟨.importDeclaration, ⟨29, 32⟩, "y"⟩,
    ⟨.importType, ⟨50, 55⟩, "./b"⟩]

theorem candidates_threeImports : threeImportsTree.candidates = threeCandidates := by
  decide +kernel

theorem flat_threeImports : threeImportsTree.Flat := by
  decide +kernel

theorem literalsPlaced_threeImports : LiteralsPlaced threeImports.toList threeImportsTree :=
  .of_candidates_eq candidates_threeImports (by decide +kernel) (by decide)

/-- The specifiers that are told from the base directory. -/
def threeImportsReplacements : List Replacement :=
  [⟨⟨.importDeclaration, ⟨7, 13⟩, "./é", .single⟩,
      ⟨.importDeclaration, ⟨7, 13⟩, "@lib/é", .single⟩⟩,
    ⟨⟨.importType, ⟨50, 55⟩, "./b", .double⟩, ⟨.importType, ⟨50, 55⟩, "@lib/b", .double⟩⟩]

/-- What becomes of it when its places are told from the base directory. -/
def threeImportsRevision : Revision :=
  ⟨threeImportsPath, .new (splice threeImports threeImportsReplacements), threeImportsReplacements⟩

theorem reviseText_threeImports :
    reviseText librarySources threeImportsPath threeImports = .ok threeImportsRevision := by
  have hcounted : threeImportsTree.counted librarySources threeImportsPath threeImports.toList =
      threeCandidates :=
    (flat_threeImports.exposed_eq _).trans candidates_threeImports
  have haccepted : ∀ c ∈ threeCandidates,
      c.rejection? librarySources threeImportsPath threeImports.toList = none := by
    decide +kernel
  have hfound : threeCandidates.filterMap
      (Candidate.replacement? librarySources threeImportsPath threeImports.toList) =
        threeImportsRevision.replacements := by
    decide +kernel
  have hsorted : threeImportsRevision.replacements.mergeSort
      (fun r s => r.old.span.start ≤ s.old.span.start) = threeImportsRevision.replacements :=
    List.mergeSort_of_pairwise (by decide)
  show revise librarySources threeImportsPath threeImports threeImportsTree = _
  rw [revise_accepts literalsPlaced_threeImports (hcounted ▸ haccepted), Candidate.replacements,
    hcounted, hfound, hsorted]
  rfl

/-- Both places are told from the base directory in one pass, and a second one finds nothing. -/
theorem second_pass_changes_nothing_threeImports :
    let pass : Pass := RedirectingPass.mk librarySources
    let once := (Pass.runAll [pass] threeImportsPath threeImports).1
    once = "import '@lib/é'; import x from 'y'; type T = import(\"@lib/b\");" ∧
    (Pass.runAll [pass, pass] threeImportsPath threeImports).1 = once ∧
    reviseText librarySources threeImportsPath once = .ok (.unchanged threeImportsPath once) := by
  have hresult : threeImportsRevision.result =
      "import '@lib/é'; import x from 'y'; type T = import(\"@lib/b\");" := by
    decide +kernel
  have hnew : ∀ r ∈ threeImportsRevision.replacements,
      IsPlain r.new.specifier ∧ librarySources.Keeps threeImportsPath r.new.specifier := by
    decide +kernel
  have hreread : (Source.read (.ofPath threeImportsPath) threeImportsRevision.result).tree =
      threeImportsTree.edited threeImportsRevision.edits := by
    rw [hresult]
    decide +kernel
  have honly : ∀ rev, reviseText librarySources threeImportsPath threeImports = .ok rev →
      rev = threeImportsRevision := fun rev hrev =>
    Except.ok.inj (hrev.symm.trans reviseText_threeImports)
  obtain ⟨htwice, hok, -⟩ := second_pass_changes_nothing literalsPlaced_threeImports
    flat_threeImports (fun rev hrev => honly rev hrev ▸ hnew)
    (fun rev hrev => honly rev hrev ▸ hreread)
  obtain ⟨honce, hagain⟩ := hok _ reviseText_threeImports
  exact ⟨honce.trans hresult, htwice, hagain⟩

end QuietEmit
