/-
  QuietEmit.Proofs.Watch.Cycle

  A cycle of a watch by what it tells its reporter. Every reporter is told the
  same events (`Watched.cycle_eq`): a status that starts, diagnostics that the
  files alone decide (`Watched.records`), and a status that ends and says how
  many of them are errors.

  These events take a session from any state to the same report
  (`Session.after_cycle`), and their diagnostics are those that a compilation
  prints. `cycle_agrees_with_compile` says so for one cycle and one compilation,
  `cycle_isolated_and_counted` for one cycle after any others.
-/
import QuietEmit.Program.Cycle
import QuietEmit.Program.Emit
import QuietEmit.Proofs.Project.Inputs
import QuietEmit.Proofs.Watch.Trace

namespace QuietEmit.Watch

/-! ## What a reporter is told -/

/-- Tell a reporter of an event. -/
def Reporter.tell {ρ : Type} [Reporter ρ] (r : ρ) : Event → ρ
  | .diagnostic d => Reporter.diagnostic r d
  | .status d => Reporter.status r d

/-- A list keeps all that it is told, in order. -/
instance : Reporter (List Event) where
  diagnostic told d := told ++ [.diagnostic d]
  status told d := told ++ [.status d]

/-- The diagnostic that an event is. -/
def Event.diagnostic? : Event → Option Diagnostic
  | .diagnostic d => some d
  | .status _ => none

theorem foldl_tell_list (told events : List Event) :
    events.foldl Reporter.tell told = told ++ events := by
  induction events generalizing told with
  | nil => rw [List.foldl_nil, List.append_nil]
  | cons e events ih =>
      have hstep : Reporter.tell told e = told ++ [e] := by cases e <;> rfl
      rw [List.foldl_cons, hstep, ih, List.append_assoc, List.singleton_append]

theorem foldl_tell_session (s : Session) (events : List Event) :
    events.foldl Reporter.tell s = s.after events := by
  induction events generalizing s with
  | nil => rfl
  | cons e events ih =>
      have hstep : Reporter.tell s e = (s.take e).2 := by cases e <;> rfl
      rw [List.foldl_cons, hstep, ih]
      rfl

theorem filterMap_diagnostic?_map (diagnostics : List Diagnostic) :
    (diagnostics.map Event.diagnostic).filterMap Event.diagnostic? = diagnostics := by
  induction diagnostics with
  | nil => rfl
  | cons d diagnostics ih => rw [List.map_cons, List.filterMap_cons, ih]; rfl

/-! ## Cycles -/

/-- The number in the text of a closing status. -/
theorem closingText_eq (count : Nat) :
    closingText count = "Found " ++ toString count ++
      (if count = 1 then " error." else " errors.") ++ " Watching for file changes." := by
  rw [closingText]
  split
  · next h =>
      rw [h]
      decide
  · rw [String.append_assoc, String.append_assoc, String.append_assoc]
    rfl

namespace Watched

variable {ρ : Type} [Reporter ρ]

/-- The diagnostics of a cycle. A project that cannot be read is one of them. -/
def records (w : Watched) (tree : FileTree) : List Diagnostic :=
  match Project.load tree w.configPath with
  | .ok project =>
    let program := Program.ofProject tree project
    program.allDiagnostics (program.writeOutputs tree w.passes)
  | .error e => [w.unloadable e]

/-- The files after a cycle. -/
def treeAfter (w : Watched) (tree : FileTree) : FileTree :=
  match Project.load tree w.configPath with
  | .ok project => ((Program.ofProject tree project).writeOutputs tree w.passes).tree tree
  | .error _ => tree

/-- The number of errors of a cycle. -/
def errors (w : Watched) (tree : FileTree) : Nat := (w.records tree).countP Diagnostic.isError

/-- The status that ends a cycle. -/
def closing (w : Watched) (tree : FileTree) : Diagnostic :=
  .status w.codes.done (closingText (w.errors tree))

/-- What a cycle tells its reporter. -/
def events (w : Watched) (trigger : Trigger) (tree : FileTree) : List Event :=
  .status (trigger.status w.codes) :: (w.records tree).map .diagnostic ++
    [.status (w.closing tree)]

/-- The report of a session that a cycle is told to. -/
def summary (w : Watched) (tree : FileTree) : CycleReport :=
  ⟨w.records tree ++ [w.closing tree], (w.records tree).length + 1⟩

/-- Reporting diagnostics tells of each of them and counts the errors. -/
theorem foldl_report (diagnostics : List Diagnostic) (count : Nat) (r : ρ) :
    diagnostics.foldl report (count, r) =
      (count + diagnostics.countP Diagnostic.isError,
        (diagnostics.map Event.diagnostic).foldl Reporter.tell r) := by
  induction diagnostics generalizing count r with
  | nil => rfl
  | cons d diagnostics ih =>
      rw [List.foldl_cons, report, ih, List.map_cons, List.foldl_cons, List.countP_cons]
      refine Prod.ext ?_ rfl
      dsimp only
      omega

/-- Compiling tells of the diagnostics of the program and of writing it, and counts the errors of
both. -/
theorem compile_eq (w : Watched) (project : Project) (tree : FileTree) (r : ρ) :
    w.compile project tree r =
      let program := Program.ofProject tree project
      let result := program.writeOutputs tree w.passes
      ((program.allDiagnostics result).countP Diagnostic.isError, result.tree tree,
        ((program.allDiagnostics result).map Event.diagnostic).foldl Reporter.tell r) := by
  rw [compile]
  cases hresult : (Program.ofProject tree project).writeOutputs tree w.passes with
  | skipped =>
      simp [foldl_report, hresult, Program.allDiagnostics, EmissionResult.diagnostics,
        EmissionResult.tree]
  | done emission =>
      simp [foldl_report, hresult, Program.allDiagnostics, EmissionResult.diagnostics,
        EmissionResult.tree]

/-- A cycle comes to its events, whatever the reporter. -/
theorem cycle_eq (w : Watched) (trigger : Trigger) (tree : FileTree) (r : ρ) :
    w.cycle trigger tree r =
      (w.errors tree, w.treeAfter tree, (w.events trigger tree).foldl Reporter.tell r) := by
  rw [cycle, treeAfter, events, closing, errors, records]
  cases hload : Project.load tree w.configPath with
  | error e => rfl
  | ok project => simp [compile_eq, Reporter.tell]

/-- The events of a cycle are those that a list is told. -/
theorem events_eq (w : Watched) (trigger : Trigger) (tree : FileTree) :
    (w.cycle trigger tree ([] : List Event)).2.2 = w.events trigger tree := by
  rw [cycle_eq, foldl_tell_list, List.nil_append]

theorem filterMap_diagnostic?_events (w : Watched) (trigger : Trigger) (tree : FileTree) :
    (w.events trigger tree).filterMap Event.diagnostic? = w.records tree := by
  rw [events, List.filterMap_append, List.filterMap_cons, filterMap_diagnostic?_map]
  simp [Event.diagnostic?]

/-- The closing status of a cycle is no error, so that its report has the errors of the cycle. -/
theorem errors_summary (w : Watched) (tree : FileTree) :
    (w.summary tree).errors = w.errors tree := by
  rw [CycleReport.errors, summary, List.countP_append, errors]
  rfl

end Watched

/-! ## Sessions -/

namespace Session

/-- Diagnostics join the buffer and do nothing else. -/
theorem after_diagnostics (s : Session) (diagnostics : List Diagnostic) :
    s.after (diagnostics.map Event.diagnostic) =
      { s with buffer := s.buffer ++ diagnostics } := by
  induction diagnostics generalizing s with
  | nil => rw [List.append_nil]; rfl
  | cons d diagnostics ih =>
      rw [List.map_cons, after, List.foldl_cons]
      change (s.receive d).after _ = _
      rw [ih, receive, List.append_assoc]
      rfl

/-- Diagnostics are not answered. -/
theorem answers_diagnostics (s : Session) (diagnostics : List Diagnostic) :
    (s.answers (diagnostics.map Event.diagnostic)).reduceOption = [] := by
  induction diagnostics generalizing s with
  | nil => rfl
  | cons d diagnostics ih =>
      have hanswer : (s.take (.diagnostic d)).1 = none := rfl
      rw [List.map_cons, answers, hanswer, List.reduceOption_cons_of_none, ih]

/-- The status that starts a cycle is a start. -/
theorem classify_status (codes : StatusCodes) (trigger : Trigger) :
    codes.classify (trigger.status codes).code = .cycleStart := by
  cases trigger with
  | initial => exact if_pos (.inl rfl)
  | filesChanged paths => exact if_pos (.inr rfl)

/-- A code for an end that is no start is an end. -/
theorem classify_done {codes : StatusCodes} (hstarting : codes.done ≠ codes.starting)
    (hchanged : codes.done ≠ codes.changed) : codes.classify codes.done = .cycleDone := by
  rw [StatusCodes.classify, if_neg (not_or.mpr ⟨hstarting, hchanged⟩), if_pos rfl]

/-- A start empties the buffer, so that it holds the diagnostics that follow and nothing from
before. -/
theorem after_opening {s : Session} {status : Diagnostic}
    (h : s.codes.classify status.code = .cycleStart) (diagnostics : List Diagnostic) :
    ∃ display, s.after (.status status :: diagnostics.map .diagnostic) =
      ⟨.compiling, diagnostics, s.codes, display, s.calls ++ [.start]⟩ := by
  refine ⟨(s.display.printAll [status]).2, ?_⟩
  show (s.receiveStatus status).2.after _ = _
  rw [after_diagnostics, receiveStatus, h]
  rfl

/-- Neither a start nor the diagnostics after it are answered. -/
theorem answers_opening {s : Session} {status : Diagnostic}
    (h : s.codes.classify status.code = .cycleStart) (diagnostics : List Diagnostic) :
    (s.answers (.status status :: diagnostics.map .diagnostic)).reduceOption = [] := by
  have hanswer : (s.take (.status status)).1 = none := by
    rw [take, receiveStatus, h]
  rw [answers, hanswer, List.reduceOption_cons_of_none, answers_diagnostics]

/-- An end reports the buffer and itself. -/
theorem take_closing {s : Session} {status : Diagnostic}
    (h : s.codes.classify status.code = .cycleDone) :
    let report : CycleReport := ⟨s.buffer ++ [status], s.buffer.length + 1⟩
    ∃ display, s.take (.status status) =
      (some report, ⟨.done, report.diagnostics, s.codes, display, s.calls ++ [.done report]⟩) := by
  intro report
  rw [take, receiveStatus, h]
  simp only [List.length_append, List.length_singleton]
  exact ⟨_, rfl⟩

/-- A session that is told a cycle of its own codes ends with the report of that cycle, whatever it
held before. -/
theorem after_cycle {w : Watched} {s : Session} (hcodes : s.codes = w.codes)
    (hstarting : w.codes.done ≠ w.codes.starting) (hchanged : w.codes.done ≠ w.codes.changed)
    (trigger : Trigger) (tree : FileTree) :
    (s.after (w.events trigger tree)).phase = .done ∧
      (s.after (w.events trigger tree)).buffer = (w.summary tree).diagnostics ∧
      (s.after (w.events trigger tree)).calls = s.calls ++ [.start, .done (w.summary tree)] ∧
      (s.answers (w.events trigger tree)).reduceOption = [w.summary tree] := by
  have hstart : s.codes.classify (trigger.status w.codes).code = .cycleStart := by
    rw [hcodes, classify_status]
  have hdone : s.codes.classify (w.closing tree).code = .cycleDone := by
    rw [hcodes]
    exact classify_done hstarting hchanged
  have hunanswered := answers_opening hstart (w.records tree)
  obtain ⟨opened, hopened⟩ := after_opening hstart (w.records tree)
  obtain ⟨closed, hclosed⟩ := take_closing (s := ⟨.compiling, w.records tree, s.codes, opened,
    s.calls ++ [.start]⟩) hdone
  rw [Watched.events, after_concat, answers_concat, List.reduceOption_append, hunanswered,
    hopened, hclosed]
  refine ⟨rfl, rfl, ?_, rfl⟩
  exact List.append_assoc s.calls [.start] [.done (w.summary tree)]

end Session

/-! ## One cycle and one compilation -/

/-- A cycle of a watch and a compilation of the same files agree. What a cycle tells is the same for
every reporter. Its diagnostics are those of the program and, unless nothing was to be written,
those of writing it; the compilation prints these, in this order, before its closing lines; both
leave the same files; and a session with the codes of the watch reports one diagnostic more, which
is the closing status. -/
theorem cycle_agrees_with_compile {w : Watched} {tree : FileTree} {project : Project}
    (hload : Project.load tree w.configPath = .ok project) (trigger : Trigger)
    (display : Display) :
    let told := (w.cycle trigger tree ([] : List Event)).2.2
    let records := told.filterMap Event.diagnostic?
    let program := Program.ofProject tree project
    let result := program.writeOutputs tree w.passes
    let compiled := project.compile tree w.passes display
    (∀ {ρ : Type} [Reporter ρ] (r : ρ),
      (w.cycle trigger tree r).2 = (compiled.2.1, told.foldl Reporter.tell r)) ∧
    records = program.diagnostics ++ (if result.isSkipped then [] else result.diagnostics) ∧
    compiled.2.2 = (display.printAll records).2.conclude records.length ∧
    (w.codes.done ≠ w.codes.starting → w.codes.done ≠ w.codes.changed →
      ∀ s : Session, s.codes = w.codes → ∃ summary,
        (s.answers told).reduceOption = [summary] ∧
        (w.cycle trigger tree s).2.2.calls = s.calls ++ [.start, .done summary] ∧
        compiled.1.suppressed + 1 = summary.suppressed) := by
  intro told records program result compiled
  have htold : told = w.events trigger tree := w.events_eq trigger tree
  have hrecords : records = program.allDiagnostics result := by
    rw [show records = (w.events trigger tree).filterMap Event.diagnostic? by rw [← htold],
      Watched.filterMap_diagnostic?_events, Watched.records, hload]
  have htree : w.treeAfter tree = compiled.2.1 := by
    rw [Watched.treeAfter, hload]
    rfl
  refine ⟨?_, ?_, ?_, ?_⟩
  · intro ρ _ r
    rw [Watched.cycle_eq, htree, htold]
  · rw [hrecords, Program.allDiagnostics]
    cases result <;> rfl
  · rw [hrecords]
    rfl
  · intro hstarting hchanged s hcodes
    obtain ⟨-, -, hcalls, hanswers⟩ :=
      Session.after_cycle hcodes hstarting hchanged trigger tree
    refine ⟨w.summary tree, by rw [htold, hanswers], ?_, ?_⟩
    · rw [Watched.cycle_eq, foldl_tell_session, hcalls]
    · rw [Watched.summary, Watched.records, hload]
      rfl

/-- A project of one input, which imports from outside `/base`. -/
def faultyTree : FileTree where
  entries := [(["tsconfig.json"], .file "\x7b\"files\": [\"a.ts\"]\x7d".toUTF8),
    (["a.ts"], .file "import './b';\n".toUTF8)]
  workingDir := []

/-- The project of that input. -/
def faultyProject : Project :=
  ⟨⟨"/tsconfig.json"⟩, ⟨"/"⟩, {}, [⟨"/a.ts"⟩], []⟩

/-- A watch of that project, with a pass for `/base`. -/
def faultyWatch : Watched where
  configPath := ⟨"tsconfig.json"⟩
  codes := .standard
  passes := [RedirectingPass.mk ((Redirection.empty.setBaseUrl (.ofText "/base")).setProject "@p")]

theorem load_faulty : Project.load faultyTree faultyWatch.configPath = .ok faultyProject :=
  eq_ok_of_toOption (by decide +kernel)

/-- The fault is printed by the compilation, and reported by the cycle with the closing status. -/
theorem cycle_agrees_with_compile_faulty :
    let told := (faultyWatch.cycle .initial faultyTree ([] : List Event)).2.2
    let display := Display.ofStyle ⟨false, none⟩
    (told.filterMap Event.diagnostic?).map Diagnostic.code = [Code.redirection] ∧
    (faultyProject.compile faultyTree faultyWatch.passes display).2.2 =
      (display.printAll (told.filterMap Event.diagnostic?)).2.conclude 1 ∧
    ∃ summary, ((Session.fresh .standard display).answers told).reduceOption = [summary] ∧
      summary.suppressed = 2 := by
  intro told display
  obtain ⟨-, -, hprinted, hreported⟩ :=
    cycle_agrees_with_compile load_faulty .initial display
  have hcodes : (told.filterMap Event.diagnostic?).map Diagnostic.code = [Code.redirection] := by
    decide +kernel
  have hlength : (told.filterMap Event.diagnostic?).length = 1 := by
    rw [← List.length_map Diagnostic.code, hcodes]
    rfl
  obtain ⟨summary, hanswers, -, hcount⟩ :=
    hreported (by decide) (by decide) (Session.fresh .standard display) rfl
  have hsuppressed :
      (faultyProject.compile faultyTree faultyWatch.passes display).1.suppressed = 1 := by
    decide +kernel
  refine ⟨hcodes, by rw [hprinted, hlength], summary, hanswers, ?_⟩
  rw [← hcount]
  exact congrArg (· + 1) hsuppressed

/-- A cycle does not depend on what a session held before, and all counts of it agree. It makes the
session finish one cycle, with the report that a fresh session would give; the number of errors in
the report is the one that the cycle answers and the one that the closing status names; and the
report counts one more than the diagnostics that were told. -/
theorem cycle_isolated_and_counted {w : Watched} {s : Session} (hcodes : s.codes = w.codes)
    (hstarting : w.codes.done ≠ w.codes.starting) (hchanged : w.codes.done ≠ w.codes.changed)
    (trigger : Trigger) (tree : FileTree) :
    let told := (w.cycle trigger tree ([] : List Event)).2.2
    let records := told.filterMap Event.diagnostic?
    let errors := (w.cycle trigger tree s).1
    let after := (w.cycle trigger tree s).2.2
    ∃ summary : CycleReport,
      after = s.after told ∧ (s.answers told).reduceOption = [summary] ∧
      after.calls = s.calls ++ [.start, .done summary] ∧ after.phase = .done ∧
      (∀ display, (w.cycle trigger tree (Session.fresh w.codes display)).2.2.calls =
        [.start, .done summary]) ∧
      summary.errors = errors ∧
      summary.diagnostics = records ++ [.status w.codes.done ("Found " ++ toString errors ++
        (if errors = 1 then " error." else " errors.") ++ " Watching for file changes.")] ∧
      summary.suppressed = records.length + 1 := by
  intro told records errors after
  have htold : told = w.events trigger tree := w.events_eq trigger tree
  have hrecords : records = w.records tree := by
    rw [← Watched.filterMap_diagnostic?_events w trigger tree, ← htold]
  have herrors : errors = w.errors tree := by
    simp only [errors, Watched.cycle_eq]
  have hafter : after = s.after (w.events trigger tree) := by
    simp only [after, Watched.cycle_eq, foldl_tell_session]
  obtain ⟨hphase, -, hcalls, hanswers⟩ :=
    Session.after_cycle hcodes hstarting hchanged trigger tree
  refine ⟨w.summary tree, by rw [hafter, htold], by rw [htold, hanswers], by rw [hafter, hcalls],
    by rw [hafter, hphase], ?_, by rw [Watched.errors_summary, herrors], ?_, ?_⟩
  · intro display
    -- a session that was fresh comes to the same report
    obtain ⟨-, -, hfresh, -⟩ := Session.after_cycle (s := Session.fresh w.codes display) rfl
      hstarting hchanged trigger tree
    rw [Watched.cycle_eq, foldl_tell_session, hfresh]
    rfl
  · rw [Watched.summary, Watched.closing, closingText_eq, herrors, hrecords]
  · rw [Watched.summary, hrecords]

/-- Without a project the cycle reports that alone, also to a session in the middle of a cycle with
a diagnostic in its buffer. -/
theorem cycle_isolated_and_counted_unloadable :
    let s := (Session.fresh .standard (.ofStyle ⟨false, none⟩)).after
      [.status (.status Code.cycleStart "go"), .diagnostic (.error 1 "stray")]
    let told := (faultyWatch.cycle (.filesChanged []) ⟨[], []⟩ ([] : List Event)).2.2
    s.buffer = [.error 1 "stray"] ∧
    ∃ summary : CycleReport, (s.answers told).reduceOption = [summary] ∧
      summary.errors = 1 ∧ summary.suppressed = 2 := by
  intro s told
  obtain ⟨summary, -, hanswers, -, -, -, herrors, -, hcount⟩ :=
    cycle_isolated_and_counted (w := faultyWatch) (s := s) rfl (by decide) (by decide)
      (.filesChanged []) ⟨[], []⟩
  refine ⟨rfl, summary, hanswers, ?_, ?_⟩
  · rw [herrors]
    decide +kernel
  · rw [hcount]
    decide +kernel

end QuietEmit.Watch
