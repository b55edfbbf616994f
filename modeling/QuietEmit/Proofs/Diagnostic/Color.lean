/-
  QuietEmit.Proofs.Diagnostic.Color

  What colour adds to the output of a display. Taking the sequences for styles out of a
  text (`Sgr.strip`) undoes painting it, whatever comes after it in the output
  (`SeenAs.paint`), so each line in colour is seen as the line without colour
  (`Diagnostic.seenAs_line`), and so is everything that a display prints
  (`color_adds_only_sequences`).
-/
import Mathlib.Data.List.Forall2
import QuietEmit.Proofs.Path.Join
import QuietEmit.Proofs.Watch.Delivery

namespace QuietEmit

/-! ## Sequences for styles -/

namespace Sgr

/-- The character that begins a sequence. -/
def escape : Char := '\x1b'

/-- Whether the character can stand among the parameters, which are numbers with separators. -/
def isParameter (c : Char) : Bool := c.isDigit || c == ';' || c == ':'

/-- A sequence that switches styles. -/
def IsSequence (text : List Char) : Prop :=
  ∃ parameters, (∀ c ∈ parameters, isParameter c = true) ∧
    text = escape :: '[' :: (parameters ++ ['m'])

/-- What comes after a sequence, of which the escape character has been read. -/
def afterSequence? : List Char → Option (List Char)
  | '[' :: rest =>
    match rest.dropWhile isParameter with
    | 'm' :: after => some after
    | _ => none
  | _ => none

theorem length_lt_of_afterSequence? {text after : List Char} (h : afterSequence? text = some after) :
    after.length < text.length := by
  fun_cases afterSequence? text with
  | case1 rest after' hdrop =>
      have hle := (List.dropWhile_sublist isParameter (l := rest)).length_le
      simp only [afterSequence?, hdrop, Option.some.injEq] at h
      rw [hdrop, h] at hle
      simp only [List.length_cons] at hle ⊢
      omega
  | case2 => simp [afterSequence?] at h
  | case3 => simp_all [afterSequence?]

/-- A text without the sequences in it. -/
def strip : List Char → List Char
  | [] => []
  | c :: rest =>
    if c = escape then
      match h : afterSequence? rest with
      | some after =>
        have := length_lt_of_afterSequence? h
        strip after
      | none => c :: strip rest
    else c :: strip rest
termination_by text => text.length

/-- A sequence is read to its end. -/
theorem afterSequence?_append {parameters : List Char}
    (h : ∀ c ∈ parameters, isParameter c = true) (rest : List Char) :
    afterSequence? ('[' :: (parameters ++ 'm' :: rest)) = some rest := by
  have hdrop : (parameters ++ 'm' :: rest).dropWhile isParameter = 'm' :: rest := by
    rw [List.dropWhile_append_of_pos h]
    rfl
  simp only [afterSequence?, hdrop]

theorem strip_append_of_isSequence {text : List Char} (h : IsSequence text) (rest : List Char) :
    strip (text ++ rest) = strip rest := by
  obtain ⟨parameters, hparameters, rfl⟩ := h
  have hafter := afterSequence?_append hparameters rest
  rw [List.cons_append, List.cons_append, List.append_assoc, List.singleton_append, strip,
    if_pos rfl]
  split
  · next heq =>
    rw [hafter] at heq
    obtain rfl := Option.some.inj heq
    rfl
  · next heq =>
    rw [hafter] at heq
    cases heq

/-- Text without an escape character stays. -/
theorem strip_append_of_notMem {text : List Char} (h : escape ∉ text) (rest : List Char) :
    strip (text ++ rest) = text ++ strip rest := by
  induction text with
  | nil => rfl
  | cons c text ih =>
      obtain ⟨hc, htext⟩ := not_or.mp (mt List.mem_cons.mpr h)
      rw [List.cons_append, strip, if_neg (Ne.symm hc), ih htext, List.cons_append]

/-- A style that is switched on and off by sequences. -/
structure IsSilent (s : Sgr) : Prop where
  on : IsSequence s.on.toList
  off : IsSequence s.off.toList

theorem isSequence_sequence {parameters : String}
    (h : parameters.toList.all isParameter = true) :
    IsSequence (sequence parameters).toList :=
  ⟨parameters.toList, List.all_eq_true.mp h, by simp [sequence, escape]⟩

theorem isSilent_foreground {number : String} (h : number.toList.all isParameter = true) :
    (foreground number).IsSilent :=
  ⟨isSequence_sequence h, isSequence_sequence (by decide)⟩

theorem isSilent_style {number : String} (h : number.toList.all isParameter = true) :
    (style number).IsSilent :=
  ⟨isSequence_sequence h, isSequence_sequence (by decide)⟩

theorem isSilent_bold : bold.IsSilent := isSilent_style (by decide)

theorem isSilent_dimmed : dimmed.IsSilent := isSilent_style (by decide)

theorem isSilent_yellow : yellow.IsSilent := isSilent_foreground (by decide)

theorem isSilent_blue : blue.IsSilent := isSilent_foreground (by decide)

theorem isSilent_cyan : cyan.IsSilent := isSilent_foreground (by decide)

end Sgr

theorem Category.isSilent_colour (c : Category) : c.colour.IsSilent := by
  cases c with
  | error => exact Sgr.isSilent_foreground (by decide)
  | warning => exact Sgr.isSilent_yellow
  | suggestion => exact Sgr.isSilent_blue
  | message => exact Sgr.isSilent_blue

/-! ## Painted texts -/

/-- Without its sequences the painted text is the plain one, whatever comes after it. -/
def SeenAs (painted plain : String) : Prop :=
  ∀ rest, Sgr.strip (painted.toList ++ rest) = plain.toList ++ Sgr.strip rest

namespace SeenAs

theorem of_plain {text : String} (h : Sgr.escape ∉ text.toList) : SeenAs text text :=
  Sgr.strip_append_of_notMem h

theorem append {a b a' b' : String} (h : SeenAs a a') (h' : SeenAs b b') :
    SeenAs (a ++ b) (a' ++ b') := by
  intro rest
  rw [String.toList_append, List.append_assoc, h, h', String.toList_append, List.append_assoc]

theorem paint {painted plain : String} (h : SeenAs painted plain) {s : Sgr} (hs : s.IsSilent) :
    SeenAs (s.paint painted) plain := by
  intro rest
  rw [Sgr.paint, String.toList_append, String.toList_append, List.append_assoc, List.append_assoc,
    Sgr.strip_append_of_isSequence hs.on, h, Sgr.strip_append_of_isSequence hs.off]

/-- Styles do not show one inside the other either. -/
theorem paintIf {styles : List Sgr} (hstyles : ∀ s ∈ styles, s.IsSilent) {text : String}
    (h : Sgr.escape ∉ text.toList) :
    SeenAs (paintIf true styles text) (paintIf false styles text) := by
  have hpainted : ∀ painted, SeenAs painted text →
      SeenAs (styles.foldl (fun t s => s.paint t) painted) text := by
    induction styles with
    | nil => exact fun _ hseen => hseen
    | cons s styles ih =>
        obtain ⟨hs, hrest⟩ := List.forall_mem_cons.mp hstyles
        exact fun painted hseen => ih hrest _ (hseen.paint hs)
  exact hpainted text (.of_plain h)

/-- Lines are seen one after the other. -/
theorem join {painted plain : List String} (h : List.Forall₂ SeenAs painted plain) :
    SeenAs (String.join (painted.map (· ++ "\n"))) (String.join (plain.map (· ++ "\n"))) := by
  induction h with
  | nil => exact .of_plain (by decide)
  | cons hline _ ih =>
      rw [List.map_cons, List.map_cons, String.join_cons, String.join_cons]
      exact (hline.append (.of_plain (by decide))).append ih

end SeenAs

/-! ## Lines -/

theorem escape_notMem_toString (n : Nat) : Sgr.escape ∉ (toString n).toList := by
  rw [Nat.toString_eq_ofList_toDigits, String.toList_ofList]
  intro h
  have hdigit := Nat.isDigit_of_mem_toDigits (by decide) (by decide) h
  exact absurd hdigit (by decide)

/-- A diagnostic that brings no escape character of its own. -/
structure Diagnostic.IsPlain (d : Diagnostic) : Prop where
  message : Sgr.escape ∉ d.message.toList
  file : ∀ f, d.file = some f → Sgr.escape ∉ f.text.toList

/-- Relative names are parts of those that they are shown for, whatever directory it is. -/
theorem Style.escape_notMem_shownPath (s : Style) {file : Path} (h : Sgr.escape ∉ file.text.toList) :
    Sgr.escape ∉ (s.shownPath file).text.toList := by
  rw [shownPath]
  cases hbelow : s.workingDir.bind (file.below? ·) with
  | none => exact h
  | some shown =>
      obtain ⟨dir, -, hdir⟩ := Option.bind_eq_some_iff.mp hbelow
      exact fun hmem => h (Path.mem_of_below? hdir (by decide) hmem)

theorem Diagnostic.escape_notMem_location {d : Diagnostic} (h : d.IsPlain) {s : Style}
    {location : String} (hlocation : d.location s = some location) :
    Sgr.escape ∉ location.toList := by
  obtain ⟨file, hfile, rfl⟩ := Option.map_eq_some_iff.mp hlocation
  have hshown := s.escape_notMem_shownPath (h.file file hfile)
  cases d.position with
  | none => exact hshown
  | some p =>
      have hline := escape_notMem_toString p.line.toNat
      have hcolumn := escape_notMem_toString p.column.toNat
      have hcolon : Sgr.escape ∉ ":".toList := by decide
      simp only [String.toList_append, List.mem_append, not_or]
      exact ⟨⟨⟨⟨hshown, hcolon⟩, hline⟩, hcolon⟩, hcolumn⟩

theorem Category.escape_notMem_text (c : Category) : Sgr.escape ∉ c.text.toList := by
  cases c <;> decide

variable {workingDir : Option Path}

/-- The line of a diagnostic in colour is seen as the one without colour. -/
theorem Diagnostic.seenAs_line {d : Diagnostic} (h : d.IsPlain) :
    SeenAs (d.line ⟨true, workingDir⟩) (d.line ⟨false, workingDir⟩) := by
  have hcategory : SeenAs (paintIf true [d.category.colour, .bold] d.category.text)
      (paintIf false [d.category.colour, .bold] d.category.text) :=
    .paintIf (by simp [d.category.isSilent_colour, Sgr.isSilent_bold])
      d.category.escape_notMem_text
  have hcode : SeenAs (paintIf true [.dimmed] ("H" ++ toString d.code))
      (paintIf false [.dimmed] ("H" ++ toString d.code)) := by
    refine .paintIf (by simp [Sgr.isSilent_dimmed]) ?_
    have hnumber := escape_notMem_toString d.code.toNat
    rw [String.toList_append, List.mem_append, not_or]
    exact ⟨by decide, hnumber⟩
  have hgap : SeenAs " " " " := .of_plain (by decide)
  have hcolon : SeenAs ": " ": " := .of_plain (by decide)
  have hafter : ∀ {place place' : String}, SeenAs place place' →
      SeenAs (place ++ paintIf true [d.category.colour, .bold] d.category.text ++ " " ++
          paintIf true [.dimmed] ("H" ++ toString d.code) ++ ": " ++ d.message)
        (place' ++ paintIf false [d.category.colour, .bold] d.category.text ++ " " ++
          paintIf false [.dimmed] ("H" ++ toString d.code) ++ ": " ++ d.message) :=
    fun hplace => ((((hplace.append hcategory).append hgap).append hcode).append hcolon).append
      (.of_plain h.message)
  -- colour changes nothing about where the place is
  have hsame : d.location ⟨false, workingDir⟩ = d.location ⟨true, workingDir⟩ := rfl
  rw [line, line, hsame]
  cases hlocation : d.location ⟨true, workingDir⟩ with
  | none =>
      have hempty : SeenAs "" "" := .of_plain (by decide)
      exact hafter hempty
  | some location =>
      have hpainted : SeenAs (paintIf true [.cyan] location) (paintIf false [.cyan] location) :=
        .paintIf (by simp [Sgr.isSilent_cyan]) (escape_notMem_location h hlocation)
      exact hafter (hpainted.append (.of_plain (by decide)))

namespace Display

theorem seenAs_infoLine {message : String} (h : Sgr.escape ∉ message.toList) :
    SeenAs (infoLine true message) (infoLine false message) := by
  have hlabel : SeenAs (paintIf true [.blue, .bold] "info") (paintIf false [.blue, .bold] "info") :=
    .paintIf (by simp [Sgr.isSilent_blue, Sgr.isSilent_bold]) (by decide)
  exact (hlabel.append (.of_plain (by decide))).append (.of_plain h)

theorem seenAs_warningLine {message : String} (h : Sgr.escape ∉ message.toList) :
    SeenAs (warningLine true message) (warningLine false message) := by
  have hlabel : SeenAs (paintIf true [.yellow, .bold] "warning")
      (paintIf false [.yellow, .bold] "warning") :=
    .paintIf (by simp [Sgr.isSilent_yellow, Sgr.isSilent_bold]) (by decide)
  exact (hlabel.append (.of_plain (by decide))).append (.of_plain h)

/-! ## Operations of a display -/

/-- An operation of a display. -/
inductive Operation where
  | printAll (diagnostics : List Diagnostic)
  | conclude (count : Nat)
  | inform (message : String)
  | warn (message : String)
deriving DecidableEq, Repr

namespace Operation

/-- An operation that brings no escape character of its own. -/
def IsPlain : Operation → Prop
  | .printAll diagnostics => ∀ d ∈ diagnostics, d.IsPlain
  | .conclude _ => True
  | .inform message | .warn message => Sgr.escape ∉ message.toList

/-- The lines that the operation prints. -/
def lines (style : Style) : Operation → List String
  | .printAll diagnostics => diagnostics.map (·.line style)
  | .conclude count => concluding style count
  | .inform message => [infoLine style.color message]
  | .warn message => [warningLine style.color message]

theorem seenAs_lines {op : Operation} (h : op.IsPlain) :
    List.Forall₂ SeenAs (op.lines ⟨true, workingDir⟩) (op.lines ⟨false, workingDir⟩) := by
  cases op with
  | printAll diagnostics =>
      have hsame : List.Forall₂ (fun d d' : Diagnostic =>
          SeenAs (d.line ⟨true, workingDir⟩) (d'.line ⟨false, workingDir⟩)) diagnostics diagnostics :=
        List.forall₂_same.mpr fun d hd => Diagnostic.seenAs_line (h d hd)
      exact List.forall₂_map_left_iff.mpr (List.forall₂_map_right_iff.mpr hsame)
  | conclude count =>
      have hcount : Sgr.escape ∉ ("Suppressed errors: " ++ toString count).toList := by
        rw [String.toList_append, List.mem_append, not_or]
        exact ⟨by decide, escape_notMem_toString count⟩
      refine .cons ?_ (.cons (seenAs_infoLine (by decide)) .nil)
      split
      · exact seenAs_warningLine hcount
      · exact seenAs_infoLine (by decide)
  | inform message => exact .cons (seenAs_infoLine h) .nil
  | warn message => exact .cons (seenAs_warningLine h) .nil

end Operation

/-- Perform an operation. Only printing diagnostics is answered. -/
def perform (d : Display) : Operation → Option Nat × Display
  | .printAll diagnostics => ((d.printAll diagnostics).1, (d.printAll diagnostics).2)
  | .conclude count => (none, d.conclude count)
  | .inform message => (none, d.inform message)
  | .warn message => (none, d.warn message)

/-- Perform operations one after the other, with the answer to each. -/
def performAll (d : Display) : List Operation → List (Option Nat) × Display
  | [] => ([], d)
  | op :: ops =>
    let (answer, next) := d.perform op
    let (answers, last) := next.performAll ops
    (answer :: answers, last)

/-- An operation offers its lines to the sink and changes nothing else. -/
theorem perform_snd (d : Display) (op : Operation) :
    (d.perform op).2 = d.withSink (d.sink.offerAll (op.lines d.style)) := by
  cases op with
  | conclude count => exact d.conclude_withSink d.sink count
  | _ => rfl

theorem performAll_snd (d : Display) (ops : List Operation) :
    (d.performAll ops).2 = d.withSink (d.sink.offerAll (ops.flatMap (·.lines d.style))) := by
  induction ops generalizing d with
  | nil => rfl
  | cons op ops ih =>
      rw [performAll]
      dsimp only
      rw [ih, perform_snd, List.flatMap_cons, Sink.offerAll_append]
      rfl

/-- What operations are answered does not depend on the display. -/
theorem performAll_fst (d d' : Display) (ops : List Operation) :
    (d.performAll ops).1 = (d'.performAll ops).1 := by
  induction ops generalizing d d' with
  | nil => rfl
  | cons op ops ih =>
      have hop : (d.perform op).1 = (d'.perform op).1 := by cases op <;> rfl
      rw [performAll, performAll]
      dsimp only
      rw [hop, ih]

theorem output_performAll (style : Style) (ops : List Operation) :
    ((ofStyle style).performAll ops).2.output =
      String.join ((ops.flatMap (·.lines style)).map (· ++ "\n")) := by
  rw [performAll_snd]
  refine (Sink.text_offerAll_of_whole (fun _ => rfl) _).trans ?_
  exact String.empty_append

end Display

/-! ## Displays in colour -/

/-- Whatever operations are performed, on diagnostics and messages without escape characters and in
whatever directory, the output in colour without its sequences is the output without colour, and
the operations are answered the same. -/
theorem color_adds_only_sequences (workingDir : Option Path) {ops : List Display.Operation}
    (h : ∀ op ∈ ops, op.IsPlain) :
    let colored := (Display.ofStyle ⟨true, workingDir⟩).performAll ops
    let plain := (Display.ofStyle ⟨false, workingDir⟩).performAll ops
    Sgr.strip colored.2.output.toList = plain.2.output.toList ∧ colored.1 = plain.1 := by
  intro colored plain
  have hlines : List.Forall₂ SeenAs (ops.flatMap (·.lines ⟨true, workingDir⟩))
      (ops.flatMap (·.lines ⟨false, workingDir⟩)) := by
    induction ops with
    | nil => exact .nil
    | cons op ops ih =>
        obtain ⟨hop, hops⟩ := List.forall_mem_cons.mp h
        exact List.rel_append (Display.Operation.seenAs_lines hop) (ih hops)
  refine ⟨?_, Display.performAll_fst _ _ ops⟩
  have hseen := SeenAs.join hlines []
  rw [← Display.output_performAll, ← Display.output_performAll, List.append_nil] at hseen
  rw [hseen, Sgr.strip, List.append_nil]

/-- A diagnostic below the directory, with a message that looks like the rest of a sequence, then the
closing lines. -/
theorem color_adds_only_sequences_bracketed :
    let d : Diagnostic := ⟨.error, 2000, "[31mx", some ⟨"/p/a.ts"⟩, some ⟨1, 5⟩⟩
    let ops : List Display.Operation := [.printAll [d], .conclude 1]
    let colored := ((Display.ofStyle ⟨true, some ⟨"/p"⟩⟩).performAll ops).2.output
    (∀ op ∈ ops, op.IsPlain) ∧
      colored = "\x1b[36ma.ts:1:5\x1b[39m - \x1b[1m\x1b[31merror\x1b[39m\x1b[0m "
        ++ "\x1b[2mH2000\x1b[0m: [31mx\n"
        ++ "\x1b[1m\x1b[33mwarning\x1b[39m\x1b[0m Suppressed errors: 1\n"
        ++ "\x1b[1m\x1b[34minfo\x1b[39m\x1b[0m Compilation completed successfully.\n" ∧
      Sgr.strip colored.toList = ("a.ts:1:5 - error H2000: [31mx\n"
        ++ "warning Suppressed errors: 1\ninfo Compilation completed successfully.\n").toList := by
  intro d ops colored
  have hplain : ∀ op ∈ ops, op.IsPlain := by
    have hd : d.IsPlain := by
      refine ⟨by decide, fun f hf => ?_⟩
      obtain rfl := Option.some.inj hf
      decide
    intro op hop
    rcases List.mem_cons.mp hop with rfl | hop
    · exact fun d' hd' => List.mem_singleton.mp hd' ▸ hd
    · obtain rfl := List.mem_singleton.mp hop
      trivial
  refine ⟨hplain, by decide +kernel, ?_⟩
  exact (color_adds_only_sequences (some ⟨"/p"⟩) hplain).1.trans (by decide +kernel)

end QuietEmit
