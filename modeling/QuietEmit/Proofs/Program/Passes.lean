/-
  QuietEmit.Proofs.Program.Passes

  Passes that run on the code of a module one after the other. A pass has a new
  code or an error; with an error the code stays as it is, and the pass says so once
  (`Pass.run_eq`). So a run is a fold of what the passes contribute
  (`Pass.runAll_eq`), and those that fail can be left out of it
  (`Pass.runAll_succeeding`). A redirecting pass gives a verdict on each reference
  that it comes to (`RedirectingPass.verdicts`), and fails if one of these is a
  rejection, whatever it has accepted before (`RedirectingPass.reviseText_eq`).
-/
import Mathlib.Data.List.Forall2
import QuietEmit.Proofs.Program.Attempts
import QuietEmit.Proofs.Specifier.Shortcut

namespace QuietEmit

open Syntax (Source)

namespace Pass

/-! ## One pass -/

section One

variable (pass : Pass) (path : Path) (code : String)

/-- The error of a pass, if it fails. -/
def failure? : Option Rejection :=
  match pass.reviseText path code with
  | .ok _ => none
  | .error e => some e

/-- Whether a pass fails. -/
def fails : Bool := (pass.failure? path code).isSome

/-- What becomes of a code that a pass is run on: nothing, if the pass fails. -/
def contribute : String :=
  match pass.reviseText path code with
  | .ok rev => rev.change?.getD code
  | .error _ => code

/-- A pass contributes to the code or says that it failed, and never does both. -/
theorem run_eq :
    pass.run path code =
      (pass.contribute path code, ((pass.failure? path code).map (·.diagnostic code)).toList) := by
  rw [run, contribute, failure?]
  cases pass.reviseText path code <;> rfl

variable {pass path code}

/-- A pass has an error exactly when its revision comes to one. -/
theorem failure?_eq_some_iff {e : Rejection} :
    pass.failure? path code = some e ↔ pass.reviseText path code = .error e := by
  rw [failure?]
  cases pass.reviseText path code <;> simp

/-- A pass with a revision does not fail. -/
theorem failure?_of_ok {rev : Revision} (h : pass.reviseText path code = .ok rev) :
    pass.failure? path code = none := by
  rw [failure?, h]

/-- A pass with an error leaves the code. -/
theorem contribute_of_error {e : Rejection} (h : pass.reviseText path code = .error e) :
    pass.contribute path code = code := by
  rw [contribute, h]

theorem fails_eq_true_iff :
    pass.fails path code = true ↔ ∃ e, pass.reviseText path code = .error e := by
  rw [fails, Option.isSome_iff_exists]
  exact exists_congr fun e => failure?_eq_some_iff

/-- A pass that fails leaves the code. -/
theorem contribute_of_fails (h : pass.fails path code = true) :
    pass.contribute path code = code := by
  obtain ⟨e, he⟩ := fails_eq_true_iff.mp h
  exact contribute_of_error he

end One

/-! ## All passes -/

/-- The passes of a run, each with the code that it is run on. -/
def turns (path : Path) : List Pass → String → List (Pass × String)
  | [], _ => []
  | pass :: passes, code => (pass, code) :: turns path passes (pass.contribute path code)

/-- The passes of a run without those that fail when their turn comes. -/
def succeeding (path : Path) (passes : List Pass) (code : String) : List Pass :=
  ((turns path passes code).filter fun t => !t.1.fails path t.2).map Prod.fst

/-- The diagnostic for a pass that fails when its turn comes. -/
def turnDiagnostic? (path : Path) (turn : Pass × String) : Option Diagnostic :=
  (turn.1.failure? path turn.2).map (·.diagnostic turn.2)

variable (path : Path) (passes : List Pass) (code : String)

/-- Each pass has its turn. -/
theorem map_fst_turns : (turns path passes code).map Prod.fst = passes := by
  induction passes generalizing code with
  | nil => rfl
  | cons pass passes ih => rw [turns, List.map_cons, ih]

theorem succeeding_sublist : (succeeding path passes code).Sublist passes := by
  have h : ((turns path passes code).filter fun t => !t.1.fails path t.2).Sublist
      (turns path passes code) := List.filter_sublist
  have hmap := h.map Prod.fst
  rwa [map_fst_turns] at hmap

theorem succeeding_of_fails {pass : Pass} (h : pass.fails path code = true) :
    succeeding path (pass :: passes) code = succeeding path passes code := by
  rw [succeeding, turns, contribute_of_fails h, List.filter_cons_of_neg (by simp [h]), succeeding]

theorem succeeding_of_not_fails {pass : Pass} (h : pass.fails path code = false) :
    succeeding path (pass :: passes) code =
      pass :: succeeding path passes (pass.contribute path code) := by
  rw [succeeding, turns, List.filter_cons_of_pos (by simp [h]), List.map_cons, succeeding]

/-- A run is the fold of what its passes contribute, and says which of them failed. -/
theorem runAll_eq :
    runAll passes path code =
      (passes.foldl (fun code pass => pass.contribute path code) code,
        (turns path passes code).filterMap (turnDiagnostic? path)) := by
  rw [runAll]
  simp only [run_eq]
  -- what was said before a pass stays in front of what is said from there on
  suffices h : ∀ said : List Diagnostic,
      passes.foldl (fun run pass => (pass.contribute path run.1,
          run.2 ++ ((pass.failure? path run.1).map (·.diagnostic run.1)).toList)) (code, said) =
        (passes.foldl (fun code pass => pass.contribute path code) code,
          said ++ (turns path passes code).filterMap (turnDiagnostic? path)) by
    rw [h, List.nil_append]
  induction passes generalizing code with
  | nil => simp [turns]
  | cons pass passes ih =>
      intro said
      rw [List.foldl_cons, ih, List.foldl_cons, turns, List.filterMap_cons, turnDiagnostic?,
        List.append_assoc]
      cases pass.failure? path code <;> rfl

/-- Without the passes that fail a run ends with the same code, and nothing is said. -/
theorem runAll_succeeding :
    runAll (succeeding path passes code) path code = ((runAll passes path code).1, []) := by
  simp only [runAll_eq]
  induction passes generalizing code with
  | nil => rfl
  | cons pass passes ih =>
      cases h : pass.fails path code with
      | true =>
          rw [succeeding_of_fails path passes code h, ih, List.foldl_cons, contribute_of_fails h]
      | false =>
          have hsilent : turnDiagnostic? path (pass, code) = none := by
            rw [turnDiagnostic?, Option.map_eq_none_iff, ← Option.isNone_iff_eq_none,
              ← Option.not_isSome]
            exact congrArg not h
          rw [succeeding_of_not_fails path passes code h, List.foldl_cons, turns,
            List.filterMap_cons_none hsilent, ih, List.foldl_cons]

/-- Each turn of a pass that fails has its diagnostic, in the same order. -/
theorem forall₂_turns :
    List.Forall₂ (fun t d => turnDiagnostic? path t = some d)
      ((turns path passes code).filter fun t => t.1.fails path t.2)
      ((turns path passes code).filterMap (turnDiagnostic? path)) := by
  induction turns path passes code with
  | nil => exact .nil
  | cons t ts ih =>
      have hfails : t.1.fails path t.2 = (turnDiagnostic? path t).isSome := by
        rw [turnDiagnostic?, Option.isSome_map, fails]
      cases h : turnDiagnostic? path t with
      | none =>
          rw [List.filter_cons_of_neg (by simp [hfails, h]), List.filterMap_cons_none h]
          exact ih
      | some d =>
          rw [List.filter_cons_of_pos (by simp [hfails, h]), List.filterMap_cons_some h]
          exact .cons h ih

/-- What the diagnostic of a turn says: the error of the pass, in the file of the error. -/
theorem exists_of_turnDiagnostic? {turn : Pass × String} {d : Diagnostic}
    (h : turnDiagnostic? path turn = some d) :
    ∃ e, turn.1.reviseText path turn.2 = .error e ∧ d = e.diagnostic turn.2 ∧
      d.isError = true ∧ d.code = Code.redirection ∧ d.file = some e.file := by
  obtain ⟨e, he, rfl⟩ := Option.map_eq_some_iff.mp h
  exact ⟨e, failure?_eq_some_iff.mp he, rfl, rfl, rfl, rfl⟩

end Pass

/-! ## Redirecting passes -/

namespace RedirectingPass

section One

variable (pass : RedirectingPass) (path : Path) (code : String)

/-- The references that a pass comes to, from the top down. -/
def asked : List Reference :=
  references code.toList (fun r => (r.verdict pass.redirection path).isChange)
    (Source.read (.ofPath path) code).tree

/-- What a pass makes of the references that it comes to. -/
def verdicts : List Verdict :=
  (pass.asked path code).map (Reference.verdict pass.redirection path)

/-- The first rejection of a pass. -/
def rejection? : Option Rejection := (pass.verdicts path code).findSome? Verdict.rejection?

/-- The changes of a pass in the order of the text. -/
def changes : List Replacement :=
  ((pass.verdicts path code).filterMap Verdict.replacement?).mergeSort
    fun r s => r.old.span.start ≤ s.old.span.start

theorem isSome_rejection?_verdict (r : Reference) :
    (r.verdict pass.redirection path).rejection?.isSome =
      (pass.redirection.rejection? path r.specifier).isSome := by
  rw [Reference.verdict, Redirection.rejection?]
  cases pass.redirection.redirect r.specifier path with
  | error e => rfl
  | ok answer =>
      cases answer with
      | unchanged => rfl
      | changed text => by_cases h : text = r.specifier <;> simp [h, Verdict.rejection?]

/-- There is a rejection exactly when the rule has an error for one of the specifiers. -/
theorem isSome_rejection?_iff :
    (pass.rejection? path code).isSome = true ↔
      ∃ r ∈ pass.asked path code, ∃ e, pass.redirection.redirect r.specifier path = .error e := by
  rw [rejection?, verdicts, List.isSome_findSome?, List.any_map, List.any_eq_true]
  refine exists_congr fun r => and_congr_right fun _ => ?_
  rw [Function.comp_apply, isSome_rejection?_verdict, Option.isSome_iff_exists]
  exact exists_congr fun e => Redirection.rejection?_eq_some_iff

/-- The outcome of noting the verdicts: the first rejection, or else each change. -/
theorem outcome_eq :
    ((pass.verdicts path code).foldl Findings.note .none).outcome =
      match pass.rejection? path code with
      | some e => .error e
      | none => .ok (pass.changes path code) := by
  rw [Findings.outcome]
  cases hrejection : pass.rejection? path code with
  | some e =>
      -- the search stops counting at the first rejection
      obtain ⟨before, v, after, hsplit, hv, hbefore⟩ :=
        List.findSome?_eq_some_iff.mp hrejection
      rw [hsplit, Findings.foldl_note_of_rejected rfl hbefore hv]
  | none =>
      have haccepted := List.findSome?_eq_none_iff.mp hrejection
      rw [Findings.foldl_note_of_accepted rfl haccepted, Findings.none, List.append_nil,
        List.reverse_reverse]
      rfl

theorem reviseText_toPass :
    pass.toPass.reviseText path code = reviseText pass.redirection path code := rfl

/-- The first rejection is the outcome of a revision; without one each change is made. -/
theorem reviseText_eq :
    pass.toPass.reviseText path code =
      match pass.rejection? path code with
      | some e => .error e
      | none => .ok (.ofReplacements path code (pass.changes path code)) := by
  have hsearch : Findings.none.search code.toList (Reference.verdict pass.redirection path)
      (Source.read (.ofPath path) code).tree =
        (pass.verdicts path code).foldl Findings.note .none :=
    Findings.search_eq_foldl ..
  rw [reviseText_toPass, reviseText, revise_eq_reviseInFull, reviseInFull, hsearch,
    pass.outcome_eq path code]
  cases pass.rejection? path code <;> rfl

variable {pass path code}

/-- The error of a pass is its first rejection. -/
theorem reviseText_eq_error_iff {e : Rejection} :
    pass.toPass.reviseText path code = .error e ↔ pass.rejection? path code = some e := by
  rw [reviseText_eq]
  cases pass.rejection? path code <;> simp

/-- A revision has each change made. -/
theorem eq_of_reviseText {rev : Revision} (h : pass.toPass.reviseText path code = .ok rev) :
    rev = .ofReplacements path code (pass.changes path code) := by
  rw [reviseText_eq] at h
  cases hrejection : pass.rejection? path code with
  | some e =>
      rw [hrejection] at h
      cases h
  | none =>
      rw [hrejection] at h
      exact (Except.ok.inj h).symm

/-- A pass whose rule rejects nothing leaves the text of its revision. -/
theorem contribute_of_ok {rev : Revision} (h : pass.toPass.reviseText path code = .ok rev) :
    pass.toPass.contribute path code = rev.result := by
  have hrev := eq_of_reviseText h
  rw [Pass.contribute, h, hrev]
  exact (Revision.change?_ofReplacements ..).trans (Revision.result_ofReplacements ..).symm

/-- A rejection names the module. -/
theorem file_of_error {e : Rejection} (h : pass.toPass.reviseText path code = .error e) :
    e.file = path := by
  have hrejection := reviseText_eq_error_iff.mp h
  obtain ⟨v, hv, he⟩ := List.exists_of_findSome?_eq_some hrejection
  obtain ⟨r, -, rfl⟩ := List.mem_map.mp hv
  rw [Reference.verdict] at he
  cases hr : pass.redirection.redirect r.specifier path with
  | error cause =>
      rw [hr] at he
      cases he
      rfl
  | ok answer =>
      cases answer with
      | unchanged => simp [hr, Verdict.rejection?] at he
      | changed text =>
          by_cases htext : text = r.specifier <;> simp [hr, htext, Verdict.rejection?] at he

/-- With a specifier that its rule rejects a pass fails, and leaves the code. -/
theorem contribute_of_rejected
    (h : ∃ r ∈ pass.asked path code, ∃ e, pass.redirection.redirect r.specifier path = .error e) :
    (∃ e, reviseText pass.redirection path code = .error e ∧ e.file = path) ∧
      pass.toPass.contribute path code = code := by
  have hrejection := (pass.isSome_rejection?_iff path code).mpr h
  obtain ⟨e, he⟩ := Option.isSome_iff_exists.mp hrejection
  have herror := reviseText_eq_error_iff.mpr he
  exact ⟨⟨e, herror, file_of_error herror⟩, Pass.contribute_of_error herror⟩

/-- A pass whose rule has an answer for all specifiers has a revision, and leaves its text. -/
theorem contribute_of_answered
    (h : ∀ r ∈ pass.asked path code, ∃ answer,
      pass.redirection.redirect r.specifier path = .ok answer) :
    ∃ revision, reviseText pass.redirection path code = .ok revision ∧
      pass.toPass.contribute path code = revision.result := by
  have hnone : pass.rejection? path code = none := by
    rw [← Option.not_isSome_iff_eq_none, isSome_rejection?_iff]
    rintro ⟨r, hr, e, he⟩
    obtain ⟨answer, hanswer⟩ := h r hr
    rw [he] at hanswer
    cases hanswer
  have hok : pass.toPass.reviseText path code =
      .ok (.ofReplacements path code (pass.changes path code)) := by
    rw [reviseText_eq, hnone]
  exact ⟨_, hok, contribute_of_ok hok⟩

end One

end RedirectingPass

/-! ## A run of passes -/

/-- A pass that fails leaves a module as it was. The code after a run is the fold of the passes over
the text, where a pass with an error leaves the code as it is and any other contributes its output;
each failing pass says so in one error, in the order of the passes, and nothing else is said; and
leaving out the passes that fail gives the same code, and so the same files of the module, with
nothing to say. A redirecting pass has an error, which names the module, exactly when its rule
rejects a specifier that it comes to, and otherwise contributes the text of its revision. -/
theorem failing_passes_contribute_nothing (passes : List Pass) (path : Path) (text : String) :
    (Pass.runAll passes path text).1 =
      passes.foldl (fun code pass => pass.contribute path code) text ∧
    (∀ (pass : Pass) (code : String),
      (∀ e, pass.reviseText path code = .error e → pass.contribute path code = code) ∧
      ∀ rev, pass.reviseText path code = .ok rev →
        pass.contribute path code = rev.change?.getD code) ∧
    (∀ (pass : RedirectingPass) (code : String),
      (∃ r ∈ pass.asked path code, ∃ e, pass.redirection.redirect r.specifier path = .error e) →
      (∃ e, reviseText pass.redirection path code = .error e ∧ e.file = path) ∧
        pass.toPass.contribute path code = code) ∧
    (∀ (pass : RedirectingPass) (code : String),
      (∀ r ∈ pass.asked path code, ∃ answer,
        pass.redirection.redirect r.specifier path = .ok answer) →
      ∃ revision, reviseText pass.redirection path code = .ok revision ∧
        pass.toPass.contribute path code = revision.result) ∧
    List.Forall₂ (fun turn d => ∃ e, turn.1.reviseText path turn.2 = .error e ∧
        d = e.diagnostic turn.2 ∧ d.isError = true ∧ d.code = Code.redirection ∧
        d.file = some e.file ∧
        ∀ pass : RedirectingPass, turn.1 = pass.toPass → d.file = some path)
      ((Pass.turns path passes text).filter fun turn => turn.1.fails path turn.2)
      (Pass.runAll passes path text).2 ∧
    (Pass.succeeding path passes text).Sublist passes ∧
    Pass.runAll (Pass.succeeding path passes text) path text =
      ((Pass.runAll passes path text).1, []) ∧
    ∀ project : Project,
      project.outputs (Pass.succeeding path passes text) ⟨path, text⟩ =
        project.outputs passes ⟨path, text⟩ := by
  have hrun := Pass.runAll_eq path passes text
  have hsucceeding := Pass.runAll_succeeding path passes text
  refine ⟨by rw [hrun], ?_, ?_, ?_, ?_, Pass.succeeding_sublist path passes text, hsucceeding, ?_⟩
  · intro pass code
    refine ⟨fun e he => Pass.contribute_of_error he, fun rev hrev => ?_⟩
    rw [Pass.contribute, hrev]
  · exact fun pass code hrejected => RedirectingPass.contribute_of_rejected hrejected
  · exact fun pass code hanswered => RedirectingPass.contribute_of_answered hanswered
  · rw [hrun]
    refine (Pass.forall₂_turns path passes text).imp fun turn d h => ?_
    obtain ⟨e, he, hsaid, hisError, hcode, hfile⟩ := Pass.exists_of_turnDiagnostic? path h
    refine ⟨e, he, hsaid, hisError, hcode, hfile, fun pass hpass => ?_⟩
    rw [hpass] at he
    rw [hfile, RedirectingPass.file_of_error he]
  · intro project
    rw [Project.outputs, Project.outputs, Project.codeAndDeclaration, Project.codeAndDeclaration,
      Project.emitted, Project.emitted, hsucceeding]

-- The first specifier is accepted and the second one lies outside the base: neither changes.
example :
    let pass : RedirectingPass :=
      ⟨(Redirection.empty.setBaseUrl (.ofText "/p/src")).setProject "@p"⟩
    let code := "import './a'; import '../b';"
    (pass.verdicts ⟨"/p/src/m.ts"⟩ code).map Verdict.isChange = [true, false] ∧
      (pass.toPass.run ⟨"/p/src/m.ts"⟩ code).1 = code ∧
      (pass.toPass.run ⟨"/p/src/m.ts"⟩ code).2.length = 1 := by
  decide +kernel

end QuietEmit
