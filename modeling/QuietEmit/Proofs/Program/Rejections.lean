/-
  QuietEmit.Proofs.Program.Rejections

  The places of rejected specifiers. A pass that rejects a specifier gives its place in
  the code that the passes before it have left, and this code is not the text of the
  module once one of them has changed a specifier. Each candidate of the code comes from
  one of the text, whose place the edits of the passes have moved (`RedirectingPass.exists_origin`);
  it has kept its position where nothing was put in before it, and its line where no
  literal that gave way had several (`rejections_placed`).
-/
import QuietEmit.Proofs.Diagnostic.Position
import QuietEmit.Proofs.Specifier.Repetition

namespace QuietEmit

open Syntax (Tree Source)
open RedirectingPass (toPass)

/-! ## One revision -/

section Revise

variable {redirection : Redirection} {path : Path} {text : String} {tree : Tree} {rev : Revision}

/-- An edit puts a new literal in the place of the literal of a candidate. -/
theorem exists_candidate_of_mem_edits (h : LiteralsPlaced text.toList tree)
    (hrev : revise redirection path text tree = .ok rev) {e : Edit} (he : e ∈ rev.edits) :
    ∃ c ∈ tree.candidates, e.span = c.span ∧ ∃ q new, e.text = StringLiteral.write q new := by
  obtain ⟨r, hr, rfl⟩ := List.mem_map.mp he
  obtain ⟨c, hc, hcr⟩ := (mem_replacements_of_revise h hrev).mp hr
  obtain ⟨new, -, rfl⟩ := replacement?_eq_some_iff.mp hcr
  exact ⟨c, (exposed_sublist_candidates _ tree).subset hc, rfl, _, _, rfl⟩

/-- An edit replaces something, and no edit lies around the start of a candidate. -/
theorem edits_apart (h : LiteralsPlaced text.toList tree)
    (hrev : revise redirection path text tree = .ok rev) {c : Candidate}
    (hc : c ∈ tree.candidates) {e : Edit} (he : e ∈ rev.edits) :
    e.span.start < e.span.stop ∧
      (c.span.start ≤ e.span.start ∨ e.span.stop ≤ c.span.start) := by
  obtain ⟨d, hd, hspan, -⟩ := exists_candidate_of_mem_edits h hrev he
  have hlength := (h.quoted c hc).length_le
  have hlength' := (h.quoted d hd).length_le
  rw [hspan]
  refine ⟨by omega, ?_⟩
  by_cases hcd : c = d
  · exact .inl (by rw [hcd])
  · have hapart : c.Apart d := h.apart.forall hc hd hcd
    exact hapart.imp_left fun hstop => by omega

/-- A revision keeps the position of a candidate if all edits are behind its start, and the line of
this position if no literal that gives way has a line end in it. -/
theorem position_edited (h : LiteralsPlaced text.toList tree)
    (hrev : revise redirection path text tree = .ok rev) {c : Candidate}
    (hc : c ∈ tree.candidates) :
    ((∀ e ∈ rev.edits, c.span.start ≤ e.span.start) →
      (c.edited rev.edits).span.start = c.span.start ∧
        Position.ofOffset rev.result.toList (c.edited rev.edits).span.start =
          Position.ofOffset text.toList c.span.start) ∧
      ((∀ e ∈ rev.edits, ∀ old, Text.slice? text.toList e.span = some old → '\n' ∉ old) →
        (Position.ofOffset rev.result.toList (c.edited rev.edits).span.start).line =
          (Position.ofOffset text.toList c.span.start).line) := by
  obtain ⟨q, body, hliteral⟩ := h.quoted c hc
  obtain ⟨before, after, htext, hstart, -⟩ := Text.slice?_eq_some_iff.mp hliteral
  rw [List.append_assoc] at htext
  have hsome : ∀ e ∈ rev.edits, e.span.start < e.span.stop := fun e he =>
    (edits_apart h hrev hc he).1
  have hapart : ∀ e ∈ rev.edits, 0 + Text.utf8Length before ≤ e.span.start ∨
      e.span.stop ≤ 0 + Text.utf8Length before := by
    rw [Nat.zero_add, hstart]
    exact fun e he => (edits_apart h hrev hc he).2
  have hspliced : Edit.Spliced rev.edits 0 text.toList rev.result.toList :=
    spliced_of_revise h hrev
  -- the text before the candidate, and what the edits before the candidate make of it
  obtain ⟨earlier, later, front, rest, hedits, hresult, hfront, hstop, hmoved⟩ :=
    hspliced.exists_cut hsome htext hapart 0
  rw [Nat.zero_add, Nat.zero_add, hstart] at hmoved
  have hplace : Position.ofOffset rev.result.toList (c.edited rev.edits).span.start =
      Position.after front := by
    show Position.ofOffset _ (Edit.moved rev.edits 0 0 c.span.start) = _
    rw [← hmoved, hresult, Position.ofOffset_utf8Length (List.prefix_append ..)]
  have hplace' : Position.ofOffset text.toList c.span.start = Position.after before := by
    rw [← hstart, htext, Position.ofOffset_utf8Length (List.prefix_append ..)]
  have hsub : ∀ e ∈ earlier, e ∈ rev.edits := fun e he => by
    rw [hedits]
    exact List.mem_append_left _ he
  constructor
  · intro hbehind
    have hnone : earlier = [] := by
      rw [List.eq_nil_iff_forall_not_mem]
      intro e he
      have hlt := hsome e (hsub e he)
      have hle := hbehind e (hsub e he)
      have hend := hstop e he
      omega
    subst hnone
    cases hfront
    exact ⟨hmoved.symm.trans hstart, hplace.trans hplace'.symm⟩
  · intro honeLine
    have hcount : front.count '\n' = before.count '\n' := by
      refine hfront.count_eq ?_ ?_
      · intro e he
        obtain ⟨-, -, -, q, new, hnew⟩ := exists_candidate_of_mem_edits h hrev (hsub e he)
        rw [hnew]
        exact (StringLiteral.lineEnd_notMem_write q new).1
      · rintro e he old ⟨above, between, hsplit, hold⟩
        refine honeLine e (hsub e he) old (Text.slice?_eq_some_iff_standsAt.mpr ?_)
        exact ⟨above, between ++ (q.char :: body ++ [q.char] ++ after), by rw [htext, hsplit]; simp,
          hold⟩
    rw [hplace, hplace', Position.after, Position.after, hcount]

end Revise

/-! ## A run of passes -/

namespace Pass

/-- The edits of a pass; none if it fails. -/
def edits (pass : Pass) (path : Path) (code : String) : List Edit :=
  match pass.reviseText path code with
  | .ok rev => rev.edits
  | .error _ => []

/-- Where passes that run one after the other move an offset of the code. -/
def moved (path : Path) : List Pass → String → Nat → Nat
  | [], _, offset => offset
  | pass :: passes, code, offset =>
    moved path passes (pass.contribute path code) (Edit.moved (pass.edits path code) 0 0 offset)

/-- What is assumed of the parser in a run: in the code of each pass the literals stand where it
says they do, and new literals change nothing else of the tree. -/
structure Readable (path : Path) (passes : List Pass) (text : String) : Prop where
  placed : ∀ turn ∈ turns path passes text,
    LiteralsPlaced turn.2.toList (Source.read (.ofPath path) turn.2).tree
  reread : ∀ turn ∈ turns path passes text, ∀ rev,
    turn.1.reviseText path turn.2 = .ok rev →
      (Source.read (.ofPath path) rev.result).tree =
        (Source.read (.ofPath path) turn.2).tree.edited rev.edits

/-- All edits of a run are behind an offset of the text. -/
def EditsBehind (path : Path) (passes : List Pass) (text : String) (offset : Nat) : Prop :=
  ∀ turn ∈ turns path passes text, ∀ e ∈ turn.1.edits path turn.2, offset ≤ e.span.start

/-- No literal that gives way in a run has a line end in it. -/
def EditsWithinLines (path : Path) (passes : List Pass) (text : String) : Prop :=
  ∀ turn ∈ turns path passes text, ∀ e ∈ turn.1.edits path turn.2, ∀ old,
    Text.slice? turn.2.toList e.span = some old → '\n' ∉ old

variable {path : Path} {pass : Pass} {passes earlier later : List Pass} {text code : String}

theorem turns_append (path : Path) (a b : List Pass) (text : String) :
    turns path (a ++ b) text = turns path a text ++ turns path b (runAll a path text).1 := by
  rw [runAll_eq]
  induction a generalizing text with
  | nil => rfl
  | cons pass a ih =>
      rw [List.cons_append, turns, ih, turns, List.foldl_cons, List.cons_append]

theorem Readable.of_append (h : Readable path (earlier ++ later) text) :
    Readable path earlier text := by
  have hsub : ∀ turn ∈ turns path earlier text, turn ∈ turns path (earlier ++ later) text := by
    intro turn hturn
    rw [turns_append]
    exact List.mem_append_left _ hturn
  exact ⟨fun turn hturn => h.placed turn (hsub turn hturn),
    fun turn hturn => h.reread turn (hsub turn hturn)⟩

/-- A turn of a pass comes after those of the passes before it. -/
theorem exists_of_mem_turns (h : (pass, code) ∈ turns path passes text) :
    ∃ earlier later, passes = earlier ++ pass :: later ∧
      code = (runAll earlier path text).1 := by
  induction passes generalizing text with
  | nil => cases h
  | cons first passes ih =>
      rcases List.mem_cons.mp h with heq | h
      · obtain ⟨rfl, rfl⟩ := Prod.mk.inj heq
        exact ⟨[], passes, rfl, rfl⟩
      · obtain ⟨earlier, later, rfl, hcode⟩ := ih h
        refine ⟨first :: earlier, later, rfl, ?_⟩
        rw [hcode, runAll_eq, runAll_eq, List.foldl_cons]

end Pass

namespace RedirectingPass

variable {path : Path} {pass : RedirectingPass} {passes : List RedirectingPass}
  {text code : String}

/-- After a pass each candidate comes from one before it. -/
theorem exists_origin_of_turn
    (hplaced : LiteralsPlaced code.toList (Source.read (.ofPath path) code).tree)
    (hreread : ∀ rev, pass.toPass.reviseText path code = .ok rev →
      (Source.read (.ofPath path) rev.result).tree =
        (Source.read (.ofPath path) code).tree.edited rev.edits)
    {c' : Candidate}
    (hc' : c' ∈ (Source.read (.ofPath path) (pass.toPass.contribute path code)).tree.candidates) :
    ∃ c ∈ (Source.read (.ofPath path) code).tree.candidates,
      c'.span.start = Edit.moved (pass.toPass.edits path code) 0 0 c.span.start ∧
      ((∀ e ∈ pass.toPass.edits path code, c.span.start ≤ e.span.start) →
        c'.span.start = c.span.start ∧
          Position.ofOffset (pass.toPass.contribute path code).toList c'.span.start =
            Position.ofOffset code.toList c.span.start) ∧
      ((∀ e ∈ pass.toPass.edits path code, ∀ old,
          Text.slice? code.toList e.span = some old → '\n' ∉ old) →
        (Position.ofOffset (pass.toPass.contribute path code).toList c'.span.start).line =
          (Position.ofOffset code.toList c.span.start).line) := by
  cases hrev : pass.toPass.reviseText path code with
  | error e =>
      have hedits : pass.toPass.edits path code = [] := by rw [Pass.edits, hrev]
      rw [Pass.contribute_of_error hrev] at hc' ⊢
      refine ⟨c', hc', ?_, fun _ => ⟨rfl, rfl⟩, fun _ => rfl⟩
      rw [hedits, Edit.moved, Nat.zero_add, Nat.sub_zero]
  | ok rev =>
      have hedits : pass.toPass.edits path code = rev.edits := by rw [Pass.edits, hrev]
      rw [contribute_of_ok hrev, hreread rev hrev, Tree.candidates_edited] at hc'
      obtain ⟨c, hc, rfl⟩ := List.mem_map.mp hc'
      rw [contribute_of_ok hrev, hedits]
      exact ⟨c, hc, rfl, position_edited hplaced hrev hc⟩

/-- After a run each candidate comes from one of the text, from whose start its own start has moved.
If all edits are behind this start it has kept its position, and if no literal that gave way has a
line end in it, the line of this position. -/
theorem exists_origin (h : Pass.Readable path (passes.map toPass) text) {c' : Candidate}
    (hc' : c' ∈ (Source.read (.ofPath path)
      (Pass.runAll (passes.map toPass) path text).1).tree.candidates) :
    ∃ c ∈ (Source.read (.ofPath path) text).tree.candidates,
      c'.span.start = Pass.moved path (passes.map toPass) text c.span.start ∧
      (Pass.EditsBehind path (passes.map toPass) text c.span.start →
        Position.ofOffset (Pass.runAll (passes.map toPass) path text).1.toList c'.span.start =
          Position.ofOffset text.toList c.span.start) ∧
      (Pass.EditsWithinLines path (passes.map toPass) text →
        (Position.ofOffset (Pass.runAll (passes.map toPass) path text).1.toList
            c'.span.start).line =
          (Position.ofOffset text.toList c.span.start).line) := by
  rw [Pass.runAll_eq] at hc' ⊢
  induction passes generalizing text with
  | nil => exact ⟨c', hc', rfl, fun _ => rfl, fun _ => rfl⟩
  | cons pass passes ih =>
      have hhead := List.mem_cons_self (a := (pass.toPass, text))
        (l := Pass.turns path (passes.map toPass) (pass.toPass.contribute path text))
      have hrest : Pass.Readable path (passes.map toPass) (pass.toPass.contribute path text) :=
        ⟨fun turn hturn => h.placed turn (List.mem_cons_of_mem _ hturn),
          fun turn hturn => h.reread turn (List.mem_cons_of_mem _ hturn)⟩
      obtain ⟨d, hd, hmoved, hbehind, hlines⟩ := ih hrest hc'
      obtain ⟨c, hc, hfirst, hbehind', hlines'⟩ :=
        exists_origin_of_turn (h.placed _ hhead) (h.reread _ hhead) hd
      refine ⟨c, hc, by rw [hmoved, hfirst, List.map_cons, Pass.moved], ?_, ?_⟩
      · intro hall
        obtain ⟨hstart, hposition⟩ := hbehind' (hall _ hhead)
        refine (hbehind fun turn hturn e he => ?_).trans hposition
        rw [hstart]
        exact hall turn (List.mem_cons_of_mem _ hturn) e he
      · intro hall
        exact (hlines fun turn hturn => hall turn (List.mem_cons_of_mem _ hturn)).trans
          (hlines' (hall _ hhead))

/-- A turn of a redirecting pass comes after those of the passes before it. -/
theorem exists_of_mem_turns {turn : Pass × String}
    (h : turn ∈ Pass.turns path (passes.map toPass) text) :
    ∃ earlier pass later, passes = earlier ++ pass :: later ∧
      turn = (pass.toPass, (Pass.runAll (earlier.map toPass) path text).1) := by
  obtain ⟨first, code⟩ := turn
  obtain ⟨before, after, hsplit, hcode⟩ := Pass.exists_of_mem_turns h
  obtain ⟨earlier, rest, rfl, rfl, hrest⟩ := List.map_eq_append_iff.mp hsplit
  obtain ⟨pass, later, rfl, hpass, -⟩ := List.map_eq_cons_iff.mp hrest
  exact ⟨earlier, pass, later, rfl, Prod.ext hpass.symm hcode⟩

end RedirectingPass

/-! ## Rejected specifiers -/

/-- Each diagnostic of a run of redirecting passes is an error in the module about a specifier that
a pass rejects. Its position is that of the opening quote of this specifier's literal in the code
that the passes before it have left. The specifier comes from one of the text, and the position is
that of its literal there if all edits of the passes before are behind it; the line of the position
is that of the literal in the text if no literal that gave way before has a line end in it. -/
theorem rejections_placed {path : Path} {passes : List RedirectingPass} {text : String}
    (h : Pass.Readable path (passes.map toPass) text) :
    ∀ d ∈ (Pass.runAll (passes.map toPass) path text).2,
      d.isError = true ∧ d.code = Code.redirection ∧ d.file = some path ∧
      ∃ earlier pass later rejected e,
        let before : List Pass := earlier.map toPass
        let code := (Pass.runAll before path text).1
        passes = earlier ++ pass :: later ∧
        reviseText pass.redirection path code = .error e ∧ d = e.diagnostic code ∧
        rejected ∈ (Source.read (.ofPath path) code).tree.candidates ∧
        rejected.IsQuoted code.toList ∧
        rejected.rejection? pass.redirection path code.toList = some e ∧
        d.position = some (Position.ofOffset code.toList rejected.span.start) ∧
        ∃ origin ∈ (Source.read (.ofPath path) text).tree.candidates,
          rejected.span.start = Pass.moved path before text origin.span.start ∧
          (Pass.EditsBehind path before text origin.span.start →
            d.position = some (Position.ofOffset text.toList origin.span.start)) ∧
          (Pass.EditsWithinLines path before text → ∀ p, d.position = some p →
            p.line = (Position.ofOffset text.toList origin.span.start).line) := by
  intro d hd
  rw [Pass.runAll_eq] at hd
  obtain ⟨turn, hturn, hdiagnostic⟩ := List.mem_filterMap.mp hd
  obtain ⟨e, herror, hsaid, hisError, hcode, hfile⟩ :=
    Pass.exists_of_turnDiagnostic? path hdiagnostic
  have hplaced := h.placed _ hturn
  obtain ⟨earlier, pass, later, rfl, rfl⟩ := RedirectingPass.exists_of_mem_turns hturn
  -- the error is about a candidate of the code
  obtain ⟨before, rejected, after, hcounted, -, hrejected⟩ := revise_eq_error hplaced herror
  have hmem : rejected ∈ (Source.read (.ofPath path)
      (Pass.runAll (earlier.map toPass) path text).1).tree.candidates := by
    have hexposed : rejected ∈ before ++ rejected :: after :=
      List.mem_append_right _ List.mem_cons_self
    rw [← hcounted] at hexposed
    exact (exposed_sublist_candidates _ _).subset hexposed
  have hoffset : e.offset = rejected.span.start := by
    obtain ⟨cause, -, rfl⟩ := Option.map_eq_some_iff.mp hrejected
    rfl
  have hposition : d.position = some (Position.ofOffset
      (Pass.runAll (earlier.map toPass) path text).1.toList rejected.span.start) := by
    rw [← hoffset, hsaid]
    rfl
  -- and the candidate comes from one of the text
  rw [List.map_append] at h
  obtain ⟨origin, horigin, hmoved, hbehind, hlines⟩ :=
    RedirectingPass.exists_origin h.of_append hmem
  rw [RedirectingPass.file_of_error herror] at hfile
  refine ⟨hisError, hcode, hfile, earlier, pass, later, rejected, e, rfl, herror, hsaid, hmem,
    hplaced.quoted _ hmem, hrejected, hposition, origin, horigin, hmoved, ?_, ?_⟩
  · intro hall
    rw [hposition, hbehind hall]
  · intro hall p hp
    obtain rfl := Option.some.inj (hposition.symm.trans hp)
    exact hlines hall

/-! ### Nested calls -/

/-- A pass that changes the outer one of the nested calls, and one that rejects the inner one. -/
def changingThenRejecting : List RedirectingPass := [⟨prefixing⟩, ⟨otherBase⟩]

/-- The first of these passes. -/
def changing : Pass := RedirectingPass.mk prefixing

/-- The second one. -/
def rejecting : Pass := RedirectingPass.mk otherBase

/-- The nested calls after the first of these passes. -/
def prefixedCalls : String := "import('xa', import('./b'));"

/-- The error of the second pass. -/
def innerRejection : Rejection := ⟨nestedCallsPath, 20, "./b", ⟨"/b"⟩, .ofText "/base"⟩

theorem reviseText_nestedCalls :
    changing.reviseText nestedCallsPath nestedCalls = .ok nestedRevision := by
  rw [changing, RedirectingPass.reviseText_toPass]
  exact revise_nestedCalls

theorem result_nestedRevision : nestedRevision.result = prefixedCalls := by
  decide +kernel

theorem turns_nestedCalls :
    Pass.turns nestedCallsPath (changingThenRejecting.map toPass) nestedCalls =
      [(changing, nestedCalls), (rejecting, prefixedCalls)] := by
  have hcode : changing.contribute nestedCallsPath nestedCalls = prefixedCalls :=
    (RedirectingPass.contribute_of_ok reviseText_nestedCalls).trans result_nestedRevision
  show (changing, nestedCalls) :: (rejecting, changing.contribute nestedCallsPath nestedCalls) ::
    [] = _
  rw [hcode]

theorem failure?_prefixedCalls :
    rejecting.failure? nestedCallsPath prefixedCalls = some innerRejection := by
  decide +kernel

/-- The first pass says nothing, and the second one rejects the inner call. -/
theorem diagnostics_nestedCalls :
    (Pass.runAll (changingThenRejecting.map toPass) nestedCallsPath nestedCalls).2 =
      [innerRejection.diagnostic prefixedCalls] := by
  have hfirst : Pass.turnDiagnostic? nestedCallsPath (changing, nestedCalls) = none :=
    Option.map_eq_none_iff.mpr (Pass.failure?_of_ok reviseText_nestedCalls)
  have hsecond : Pass.turnDiagnostic? nestedCallsPath (rejecting, prefixedCalls) =
      some (innerRejection.diagnostic prefixedCalls) :=
    Option.map_eq_some_iff.mpr ⟨innerRejection, failure?_prefixedCalls, rfl⟩
  rw [Pass.runAll_eq, turns_nestedCalls, List.filterMap_cons_none hfirst,
    List.filterMap_cons_some hsecond, List.filterMap_nil]

theorem position_innerRejection :
    (innerRejection.diagnostic prefixedCalls).position = some ⟨1, 21⟩ := by
  have hbegins : "import('xa', import(".toList <+: prefixedCalls.toList := by decide
  exact congrArg some (Position.ofOffset_utf8Length hbegins)

theorem reread_nestedCalls :
    (Source.read (.ofPath nestedCallsPath) prefixedCalls).tree =
      nestedCallsTree.edited nestedRevision.edits := by
  decide +kernel

theorem literalsPlaced_prefixedCalls :
    LiteralsPlaced prefixedCalls.toList
      (Source.read (.ofPath nestedCallsPath) prefixedCalls).tree := by
  have hcandidates : (Source.read (.ofPath nestedCallsPath) prefixedCalls).tree.candidates =
      [⟨.dynamicImport, ⟨7, 11⟩, "xa"⟩, ⟨.dynamicImport, ⟨20, 25⟩, "./b"⟩] := by
    rw [reread_nestedCalls, Tree.candidates_edited, candidates_nestedCalls]
    decide +kernel
  exact .of_candidates_eq hcandidates (by decide +kernel) (by decide)

theorem readable_nestedCalls :
    Pass.Readable nestedCallsPath (changingThenRejecting.map toPass) nestedCalls := by
  constructor
  · rw [turns_nestedCalls]
    intro turn hturn
    simp only [List.mem_cons, List.not_mem_nil, or_false] at hturn
    rcases hturn with rfl | rfl
    · exact literalsPlaced_nestedCalls
    · exact literalsPlaced_prefixedCalls
  · rw [turns_nestedCalls]
    intro turn hturn rev hrev
    simp only [List.mem_cons, List.not_mem_nil, or_false] at hturn
    rcases hturn with rfl | rfl
    · obtain rfl := Except.ok.inj (hrev.symm.trans reviseText_nestedCalls)
      rw [result_nestedRevision]
      exact reread_nestedCalls
    · have hnone := Pass.failure?_of_ok hrev
      rw [failure?_prefixedCalls] at hnone
      cases hnone

/-- The inner call is reported where it stands after the first pass has changed the outer one. -/
theorem rejections_placed_nestedCalls :
    Pass.Readable nestedCallsPath (changingThenRejecting.map toPass) nestedCalls ∧
      ∃ d, (Pass.runAll (changingThenRejecting.map toPass) nestedCallsPath nestedCalls).2 = [d] ∧
        d.file = some nestedCallsPath ∧ d.position = some ⟨1, 21⟩ := by
  obtain ⟨-, -, hfile, -⟩ := rejections_placed readable_nestedCalls _
    (diagnostics_nestedCalls ▸ List.mem_singleton_self _)
  exact ⟨readable_nestedCalls, _, diagnostics_nestedCalls, hfile, position_innerRejection⟩

/-- At this position no specifier of the text on disk stands: the inner call is one column before. -/
theorem rejections_misplaced :
    ¬ ∀ (passes : List RedirectingPass) (path : Path) (text : String),
      ∀ d ∈ (Pass.runAll (passes.map toPass) path text).2,
        ∃ c ∈ (Source.read (.ofPath path) text).tree.candidates,
          d.position = some (Position.ofOffset text.toList c.span.start) := by
  intro hall
  obtain ⟨c, hc, hposition⟩ := hall changingThenRejecting nestedCallsPath nestedCalls _
    (diagnostics_nestedCalls ▸ List.mem_singleton_self _)
  have houter : Position.ofOffset nestedCalls.toList outerCall.span.start = ⟨1, 8⟩ := by
    have hbegins : "import(".toList <+: nestedCalls.toList := by decide
    exact Position.ofOffset_utf8Length hbegins
  have hinner : Position.ofOffset nestedCalls.toList innerCall.span.start = ⟨1, 20⟩ := by
    have hbegins : "import('a', import(".toList <+: nestedCalls.toList := by decide
    exact Position.ofOffset_utf8Length hbegins
  have hmem : c ∈ [outerCall, innerCall] := candidates_nestedCalls ▸ hc
  simp only [List.mem_cons, List.not_mem_nil, or_false] at hmem
  rw [position_innerRejection] at hposition
  rcases hmem with rfl | rfl
  · rw [houter] at hposition
    exact absurd hposition (by decide)
  · rw [hinner] at hposition
    exact absurd hposition (by decide)

end QuietEmit
