/-
  QuietEmit.Proofs.Watch.Delivery

  Sinks that lose what they are given. Every operation that prints hands the sink
  some lines (`Session.lines`) and looks at nothing of the sink, so replacing the
  sink before a run is the same as replacing it afterwards by what it makes of these
  lines (`Session.performAll_withSink`). Of each line a sink lets a beginning
  through (`Sink.exists_arrived`).

  Hence two runs that differ in their sinks answer the same, go through the same
  phases and buffers and call the same hooks, and a compilation writes the same
  files (`sink_changes_text_only`).
-/
import QuietEmit.Program.Emit
import QuietEmit.Proofs.Watch.Trace

namespace QuietEmit

/-! ## What arrives -/

namespace Sink

theorem offerAll_append (k : Sink) (a b : List String) :
    k.offerAll (a ++ b) = (k.offerAll a).offerAll b := List.foldl_append

/-- Of each line, with the newline after it, a beginning arrives. -/
theorem exists_arrived (k : Sink) (lines : List String) :
    ∃ arrived : List String,
      List.Forall₂ (fun part line => part.toList <+: (line ++ "\n").toList) arrived lines ∧
      (k.offerAll lines).text = k.text ++ String.join arrived := by
  induction lines generalizing k with
  | nil => exact ⟨[], .nil, by simp [offerAll]⟩
  | cons line lines ih =>
      obtain ⟨arrived, hbegin, htext⟩ := ih (k.offer line)
      have hfirst : ∃ part : String, part.toList <+: (line ++ "\n").toList ∧
          (k.offer line).text = k.text ++ part := by
        rw [offer]
        cases k.delivery k.offered with
        | whole => exact ⟨line ++ "\n", List.prefix_refl _, rfl⟩
        | cut kept =>
            refine ⟨String.ofList ((line ++ "\n").toList.take kept), ?_, rfl⟩
            rw [String.toList_ofList]
            exact List.take_prefix _ _
      obtain ⟨part, hpart, hoffered⟩ := hfirst
      refine ⟨part :: arrived, .cons hpart hbegin, ?_⟩
      calc (k.offerAll (line :: lines)).text
          = ((k.offer line).offerAll lines).text := rfl
        _ = k.text ++ part ++ String.join arrived := by rw [htext, hoffered]
        _ = k.text ++ String.join (part :: arrived) := by
            rw [String.join_cons, String.append_assoc]

/-- A sink that never fails takes every line as it is. -/
theorem text_offerAll_of_whole {k : Sink} (h : ∀ n, k.delivery n = .whole) (lines : List String) :
    (k.offerAll lines).text = k.text ++ String.join (lines.map (· ++ "\n")) := by
  induction lines generalizing k with
  | nil => simp [offerAll]
  | cons line lines ih =>
      have hoffered : (k.offer line).text = k.text ++ (line ++ "\n") := by rw [offer, h]
      calc (k.offerAll (line :: lines)).text
          = ((k.offer line).offerAll lines).text := rfl
        _ = k.text ++ (line ++ "\n") ++ String.join (lines.map (· ++ "\n")) := by
            rw [ih (k := k.offer line) h, hoffered]
        _ = k.text ++ String.join ((line :: lines).map (· ++ "\n")) := by
            rw [List.map_cons, String.join_cons, String.append_assoc]

end Sink

/-! ## Printing -/

namespace Display

/-- The same way of showing diagnostics on another sink. -/
def withSink (d : Display) (k : Sink) : Display := { d with sink := k }

/-- The lines that say how many diagnostics were suppressed. -/
def concluding (style : Style) (count : Nat) : List String :=
  [if count > 0 then warningLine style.color ("Suppressed errors: " ++ toString count)
    else infoLine style.color "No errors found.",
    infoLine style.color "Compilation completed successfully."]

variable (d : Display) (k : Sink)

theorem printAll_withSink (diagnostics : List Diagnostic) :
    (d.withSink k).printAll diagnostics =
      ((d.printAll diagnostics).1,
        d.withSink (k.offerAll (diagnostics.map (·.line d.style)))) := rfl

theorem conclude_withSink (count : Nat) :
    (d.withSink k).conclude count = d.withSink (k.offerAll (concluding d.style count)) := by
  rw [conclude, concluding]
  split <;> rfl

/-- What was printed before goes with the sink that is replaced. -/
@[simp] theorem withSink_conclude (count : Nat) :
    (d.conclude count).withSink k = d.withSink k := by
  rw [conclude]
  split <;> rfl

/-- The lines that close a cycle, with the buffer before them. -/
def closing (style : Style) (buffer : List Diagnostic) : List String :=
  buffer.map (·.line style) ++ concluding style buffer.length ++
    [infoLine style.color "Watching for file changes..."]

theorem closing_withSink (buffer : List Diagnostic) :
    (((d.withSink k).printAll buffer).2.conclude buffer.length).inform
        "Watching for file changes..." =
      (((d.printAll buffer).2.conclude buffer.length).inform
        "Watching for file changes...").withSink (k.offerAll (closing d.style buffer)) := by
  let printed := k.offerAll (buffer.map (·.line d.style))
  let concluded := printed.offerAll (concluding d.style buffer.length)
  let last := [infoLine d.style.color "Watching for file changes..."]
  calc (((d.withSink k).printAll buffer).2.conclude buffer.length).inform
        "Watching for file changes..."
      = ((d.withSink printed).conclude buffer.length).inform "Watching for file changes..." := rfl
    _ = (d.withSink concluded).inform "Watching for file changes..." := by
        rw [conclude_withSink]
    _ = d.withSink (concluded.offerAll last) := rfl
    _ = d.withSink (k.offerAll (closing d.style buffer)) := by
        rw [closing, Sink.offerAll_append, Sink.offerAll_append]
    _ = ((d.printAll buffer).2.conclude buffer.length).withSink
          (k.offerAll (closing d.style buffer)) := by
        rw [withSink_conclude]
        rfl

end Display

/-- The lines that a compilation prints. -/
def Project.printed (project : Project) (tree : FileTree) (passes : List Pass) (style : Style) :
    List String :=
  let program := Program.ofProject tree project
  let diagnostics := program.allDiagnostics (program.writeOutputs tree passes)
  diagnostics.map (·.line style) ++ Display.concluding style diagnostics.length

/-- A compilation looks at nothing of its sink. -/
theorem Project.compile_withSink (project : Project) (tree : FileTree) (passes : List Pass)
    (display : Display) (k : Sink) :
    project.compile tree passes (display.withSink k) =
      ((project.compile tree passes display).1, (project.compile tree passes display).2.1,
        display.withSink (k.offerAll (project.printed tree passes display.style))) := by
  rw [compile, compile, printed]
  dsimp only
  rw [Display.printAll_withSink, Display.conclude_withSink, Sink.offerAll_append]
  rfl

namespace Watch

/-! ## Operations of a session -/

/-- What can be printed at once. -/
inductive Batch where
  | one (d : Diagnostic)
  | perhaps (d? : Option Diagnostic)
  | many (diagnostics : List Diagnostic)
deriving DecidableEq, Repr

/-- The diagnostics of a batch in order. -/
def Batch.toList : Batch → List Diagnostic
  | .one d => [d]
  | .perhaps d? => d?.toList
  | .many diagnostics => diagnostics

/-- An operation of a session, or of the display that it prints on. -/
inductive Operation where
  | take (e : Event)
  | printAll (batch : Batch)
  | conclude (count : Nat)
  | inform (message : String)
  | warn (message : String)
deriving DecidableEq, Repr

/-- What an operation is answered. -/
inductive Answer where
  | nothing
  | report (r? : Option CycleReport)
  | count (n : Nat)
deriving DecidableEq, Repr

/-- What can be seen of a session after an operation, apart from what it printed. -/
structure Observation where
  answer : Answer
  phase : Phase
  buffer : List Diagnostic
  calls : List HookCall
deriving DecidableEq, Repr

namespace Session

/-- Perform one operation. -/
def perform (s : Session) : Operation → Answer × Session
  | .take e => (.report (s.take e).1, (s.take e).2)
  | .printAll batch =>
    let (count, display) := s.display.printAll batch.toList
    (.count count, { s with display })
  | .conclude count => (.nothing, { s with display := s.display.conclude count })
  | .inform message => (.nothing, { s with display := s.display.inform message })
  | .warn message => (.nothing, { s with display := s.display.warn message })

/-- Perform operations one after the other, with what can be seen after each. -/
def performAll (s : Session) : List Operation → List Observation × Session
  | [] => ([], s)
  | op :: ops =>
    let (answer, next) := s.perform op
    let (seen, last) := next.performAll ops
    (⟨answer, next.phase, next.buffer, next.calls⟩ :: seen, last)

/-- The lines that an operation offers to the sink. -/
def lines (s : Session) : Operation → List String
  | .take (.diagnostic _) => []
  | .take (.status d) =>
    match s.codes.classify d.code with
    | .cycleStart => [d.line s.display.style]
    | .cycleDone => Display.closing s.display.style (s.buffer ++ [d])
    | .other => []
  | .printAll batch => batch.toList.map (·.line s.display.style)
  | .conclude count => Display.concluding s.display.style count
  | .inform message => [Display.infoLine s.display.style.color message]
  | .warn message => [Display.warningLine s.display.style.color message]

/-- The lines that operations offer one after the other. -/
def transcript (s : Session) : List Operation → List String
  | [] => []
  | op :: ops => s.lines op ++ (s.perform op).2.transcript ops

/-- The same session on another sink. -/
def withSink (s : Session) (k : Sink) : Session := { s with display := s.display.withSink k }

variable (s : Session) (k : Sink)

/-- A status on another sink. -/
theorem receiveStatus_withSink (d : Diagnostic) :
    (s.withSink k).receiveStatus d =
      ((s.receiveStatus d).1,
        (s.receiveStatus d).2.withSink (k.offerAll (s.lines (.take (.status d))))) := by
  have hcodes : (s.withSink k).codes = s.codes := rfl
  rw [receiveStatus, receiveStatus, hcodes, lines]
  -- only the end of a cycle prints several lines
  cases hd : s.codes.classify d.code with
  | cycleStart => rfl
  | cycleDone =>
      let summary : CycleReport := ⟨s.buffer ++ [d], (s.buffer ++ [d]).length⟩
      let ended (display : Display) : Session :=
        ⟨.done, summary.diagnostics, s.codes, display, s.calls ++ [.done summary]⟩
      exact congrArg (fun display => (some summary, ended display))
        (s.display.closing_withSink k (s.buffer ++ [d]))
  | other => rfl

/-- One operation on another sink does the same, and offers its lines to that sink. -/
theorem perform_withSink (op : Operation) :
    (s.withSink k).perform op =
      ((s.perform op).1, (s.perform op).2.withSink (k.offerAll (s.lines op))) := by
  cases op with
  | take e =>
      cases e with
      | diagnostic d => rfl
      | status d =>
          show (Answer.report ((s.withSink k).receiveStatus d).1,
            ((s.withSink k).receiveStatus d).2) = _
          rw [receiveStatus_withSink]
          rfl
  | printAll batch => rfl
  | conclude count =>
      show (Answer.nothing, { s with display := (s.display.withSink k).conclude count }) =
        (Answer.nothing, { s with display :=
          (s.display.conclude count).withSink (k.offerAll (s.lines (.conclude count))) })
      rw [Display.conclude_withSink, Display.withSink_conclude]
      rfl
  | inform message => rfl
  | warn message => rfl

/-- A run on another sink does the same, and offers its lines to that sink. -/
theorem performAll_withSink (ops : List Operation) :
    (s.withSink k).performAll ops =
      ((s.performAll ops).1, (s.performAll ops).2.withSink (k.offerAll (s.transcript ops))) := by
  induction ops generalizing s k with
  | nil => rfl
  | cons op ops ih =>
      rw [performAll, perform_withSink]
      dsimp only
      rw [ih, performAll, transcript, Sink.offerAll_append]
      rfl

end Session

/-! ## Two runs -/

/-- Whatever its sink does with the lines it is given, a session answers the same to all
operations, and is seen in the same phases, with the same buffers and the same hook calls, as on a
sink that never fails; and a compilation has the same outcome and leaves the same files. Both offer
the sink the same lines too: a sink that never fails takes them as they are, any other a beginning
of each. -/
theorem sink_changes_text_only (s : Session) (ops : List Operation) (k : Sink)
    (project : Project) (tree : FileTree) (passes : List Pass) (style : Style) :
    let run := (s.withSink k).performAll ops
    let perfect := (s.withSink .working).performAll ops
    let compiled := project.compile tree passes ⟨k, style⟩
    let perfectly := project.compile tree passes ⟨.working, style⟩
    run.1 = perfect.1 ∧ run.2 = perfect.2.withSink run.2.display.sink ∧
    compiled.1 = perfectly.1 ∧ compiled.2.1 = perfectly.2.1 ∧
    (∃ lines arrived : List String,
      List.Forall₂ (fun part line => part.toList <+: (line ++ "\n").toList) arrived lines ∧
      perfect.2.display.output = String.join (lines.map (· ++ "\n")) ∧
      run.2.display.output = k.text ++ String.join arrived) ∧
    ∃ lines arrived : List String,
      List.Forall₂ (fun part line => part.toList <+: (line ++ "\n").toList) arrived lines ∧
      perfectly.2.2.output = String.join (lines.map (· ++ "\n")) ∧
      compiled.2.2.output = k.text ++ String.join arrived := by
  intro run perfect compiled perfectly
  have hrun := s.performAll_withSink k ops
  have hperfect := s.performAll_withSink .working ops
  have hcompiled := project.compile_withSink tree passes ⟨.working, style⟩ k
  have hperfectly := project.compile_withSink tree passes ⟨.working, style⟩ .working
  have hworking (lines : List String) :
      (Sink.working.offerAll lines).text = String.join (lines.map (· ++ "\n")) := by
    rw [Sink.text_offerAll_of_whole (fun _ => rfl), Sink.working, String.empty_append]
  change run = _ at hrun
  change perfect = _ at hperfect
  change compiled = _ at hcompiled
  change perfectly = _ at hperfectly
  refine ⟨by rw [hrun, hperfect], by rw [hrun, hperfect]; rfl, by rw [hcompiled], by rw [hcompiled],
    ?_, ?_⟩
  · obtain ⟨arrived, hbegin, htext⟩ := k.exists_arrived (s.transcript ops)
    refine ⟨s.transcript ops, arrived, hbegin, ?_, ?_⟩
    · rw [hperfect]
      exact hworking _
    · rw [hrun]
      exact htext
  · obtain ⟨arrived, hbegin, htext⟩ := k.exists_arrived (project.printed tree passes style)
    refine ⟨project.printed tree passes style, arrived, hbegin, ?_, ?_⟩
    · rw [hperfectly]
      exact hworking _
    · rw [hcompiled]
      exact htext

end Watch

end QuietEmit
