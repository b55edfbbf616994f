/-
  QuietEmit.Proofs.Program.Printed

  What a compilation prints and what it counts. The diagnostics are those of the
  configuration and of the inputs in their order and, unless emission was skipped, those
  of emitting (`Program.allDiagnostics_ofProject`). Each gets a line with a colon in it,
  which the line for a compilation without diagnostics does not have, so that line is
  printed exactly if there are none (`printed_is_counted`).
-/
import QuietEmit.Proofs.Program.Accounts
import QuietEmit.Proofs.Watch.Delivery

namespace QuietEmit

/-! ## The diagnostics of a compilation -/

/-- What is said before anything is emitted: of the configuration, then of each input in order. -/
def Project.preEmit (project : Project) (tree : FileTree) : List Diagnostic :=
  project.errors ++ project.fileNames.flatMap fun path => (Program.readInput tree path).2

namespace Program

variable (project : Project) (tree : FileTree) (passes : List Pass)

theorem isSkipped_writeOutputs_iff :
    ((ofProject tree project).writeOutputs tree passes).isSkipped = true ↔
      project.options.noEmit = true ∨
        project.options.noEmitOnError = true ∧ ∃ d ∈ project.preEmit tree, d.isError = true := by
  have hblocked := (ofProject tree project).isBlocked_iff
  rw [diagnostics_ofProject] at hblocked
  rw [Project.preEmit]
  refine Iff.trans ?_ hblocked
  cases h : (ofProject tree project).isBlocked with
  | true => simp [writeOutputs_of_isBlocked h, EmissionResult.isSkipped]
  | false => simp [writeOutputs_of_not_isBlocked h, EmissionResult.isSkipped]

/-- The diagnostics of emitting count only if something was to be emitted. -/
theorem allDiagnostics_ofProject :
    let program := ofProject tree project
    let result := program.writeOutputs tree passes
    program.allDiagnostics result =
      project.preEmit tree ++
        if result.isSkipped then [] else project.reports passes tree program.modules := by
  intro program result
  rw [allDiagnostics, diagnostics_ofProject, Project.preEmit]
  congr 1
  cases h : program.isBlocked with
  | true =>
      simp only [result, writeOutputs_of_isBlocked h]
      rfl
  | false =>
      simp only [result, writeOutputs_of_not_isBlocked h]
      rfl

end Program

/-! ## Lines -/

/-- The line for a diagnostic has a colon before the message. -/
theorem Diagnostic.colon_mem_line (d : Diagnostic) (s : Style) : ':' ∈ (d.line s).toList := by
  rw [line]
  simp [String.toList_append]

namespace Display

/-- The line for a compilation without diagnostics. -/
def noErrorsLine (color : Bool) : String := infoLine color "No errors found."

theorem colon_notMem_noErrorsLine (color : Bool) : ':' ∉ (noErrorsLine color).toList := by
  cases color <;> decide

theorem colon_mem_warningLine (color : Bool) (count : Nat) :
    ':' ∈ (warningLine color ("Suppressed errors: " ++ toString count)).toList := by
  rw [warningLine]
  simp [String.toList_append]

/-- The closing lines say that there are no errors only if nothing was counted. -/
theorem noErrorsLine_mem_concluding_iff (style : Style) (count : Nat) :
    noErrorsLine style.color ∈ concluding style count ↔ count = 0 := by
  have hsuccess : noErrorsLine style.color ≠
      infoLine style.color "Compilation completed successfully." := by
    cases style.color <;> decide
  rw [concluding, List.mem_cons, List.mem_singleton, or_iff_left hsuccess]
  split
  · next hpos =>
      refine ⟨fun heq => ?_, fun hzero => absurd hpos (by omega)⟩
      have hcolon := colon_mem_warningLine style.color count
      rw [← heq] at hcolon
      exact absurd hcolon (colon_notMem_noErrorsLine style.color)
  · next hzero => exact ⟨fun _ => by omega, fun _ => rfl⟩

end Display

/-! ## The report -/

/-- On a sink that never fails, a compilation prints the diagnostics of the configuration and of the
inputs in order, then, unless emission was skipped, those of emitting in the order of emission, then
the line with the number of diagnostics and the line of success, and a newline after each. The
number is the one that is returned, and the line of no errors is among the lines exactly if it is
zero. -/
theorem printed_is_counted (project : Project) (tree : FileTree) (passes : List Pass)
    (display : Display) (hworking : ∀ n, display.sink.delivery n = .whole) :
    let compiled := project.compile tree passes display
    let emit := project.reports passes tree (Program.ofProject tree project).modules
    let diagnostics := project.preEmit tree ++ if compiled.1.isSkipped then [] else emit
    let color := display.style.color
    let count := compiled.1.suppressed
    let lines := diagnostics.map (·.line display.style) ++
      [if 0 < count then Display.warningLine color ("Suppressed errors: " ++ toString count)
        else Display.infoLine color "No errors found.",
        Display.infoLine color "Compilation completed successfully."]
    compiled.2.2.output = display.output ++ String.join (lines.map (· ++ "\n")) ∧
      count = diagnostics.length ∧
      (Display.infoLine color "No errors found." ∈ lines ↔ count = 0) ∧
      (compiled.1.isSkipped = true ↔ project.options.noEmit = true ∨
        project.options.noEmitOnError = true ∧ ∃ d ∈ project.preEmit tree, d.isError = true) := by
  intro compiled emit diagnostics color count lines
  have hdiagnostics : (Program.ofProject tree project).allDiagnostics
      ((Program.ofProject tree project).writeOutputs tree passes) = diagnostics :=
    Program.allDiagnostics_ofProject project tree passes
  have hcount : count = diagnostics.length := by
    rw [← hdiagnostics]
    rfl
  have hprinted : project.printed tree passes display.style = lines := by
    rw [Project.printed, hdiagnostics, ← hcount]
    rfl
  refine ⟨?_, hcount, ?_, Program.isSkipped_writeOutputs_iff project tree passes⟩
  · have hcompiled := project.compile_withSink tree passes display display.sink
    have hshown : compiled.2.2 = display.withSink (display.sink.offerAll lines) := by
      rw [← hprinted]
      exact congrArg (·.2.2) hcompiled
    rw [hshown]
    exact Sink.text_offerAll_of_whole hworking lines
  · have hlines : Display.noErrorsLine color ∉ diagnostics.map (·.line display.style) := by
      intro hmem
      obtain ⟨d, -, hd⟩ := List.mem_map.mp hmem
      have hcolon := d.colon_mem_line display.style
      rw [hd] at hcolon
      exact Display.colon_notMem_noErrorsLine color hcolon
    rw [← Display.noErrorsLine_mem_concluding_iff display.style count]
    exact List.mem_append.trans (or_iff_right hlines)

/-- One input is missing, and of the others one would replace itself and one cannot be written. -/
theorem printed_is_counted_fivefold :
    let display := Display.ofStyle ⟨false, none⟩
    let compiled := fivefoldProject.compile fivefoldTree [] display
    (∀ n, display.sink.delivery n = .whole) ∧ compiled.1.suppressed = 3 ∧
      compiled.1.isSkipped = false ∧
      compiled.2.2.output =
        "/e.ts - error H6053: File '/e.ts' could not be read: "
        ++ "No such file or directory (os error 2)\n"
        ++ "/b.js - error H5033: Cannot write file '/b.js' because it would overwrite input file\n"
        ++ "/d.js - error H5033: Could not write file '/d.js': Is a directory (os error 21)\n"
        ++ "warning Suppressed errors: 3\ninfo Compilation completed successfully.\n" := by
  have hworking : ∀ n, (Display.ofStyle ⟨false, none⟩).sink.delivery n = .whole := fun _ => rfl
  obtain ⟨houtput, hcount, -⟩ :=
    printed_is_counted fivefoldProject fivefoldTree [] (.ofStyle ⟨false, none⟩) hworking
  refine ⟨hworking, hcount.trans ?_, ?_, houtput.trans ?_⟩
  all_goals decide +kernel

end QuietEmit
