/-
  QuietEmit.Proofs.Settings.Context

  What a chain of context makes of an error. Before the first hint, paths name the place
  of a failure to find something, and the first of them stays (`inContexts_paths`). The
  first hint leaves nothing but the text, to which all later hints are appended and no
  path is (`inContexts_custom`). So each chain has a normal form: the first path, then
  the hints in order (`contexts_in_normal_form`).
-/
import QuietEmit.Settings.Error

namespace QuietEmit

namespace ErrorContext

def isHint : ErrorContext → Bool
  | .path _ => false
  | .hint _ => true

def hint? : ErrorContext → Option String
  | .path _ => none
  | .hint text => some text

/-- The paths of a chain that come before its first hint. -/
def leadingPaths : List ErrorContext → List Path
  | .path p :: chain => p :: leadingPaths chain
  | _ => []

/-- The texts of the hints of a chain. -/
def hints (chain : List ErrorContext) : List String := chain.filterMap hint?

/-- A paragraph for each hint. -/
def paragraphs (hints : List String) : String :=
  String.join (hints.map fun text => "\n\nHint: " ++ text)

@[simp] theorem hints_nil : hints [] = [] := rfl

@[simp] theorem hints_hint (text : String) (chain : List ErrorContext) :
    hints (.hint text :: chain) = text :: hints chain := rfl

theorem hints_append (a b : List ErrorContext) : hints (a ++ b) = hints a ++ hints b :=
  List.filterMap_append

/-- Only hints have texts. -/
theorem hints_filter (chain : List ErrorContext) : hints (chain.filter isHint) = hints chain := by
  induction chain with
  | nil => rfl
  | cons c chain ih =>
      cases c with
      | path p => exact ih
      | hint text => exact congrArg (text :: ·) ih

/-- A chain is its leading paths, and what comes after them is nothing or begins with a hint. -/
theorem exists_leadingPaths (chain : List ErrorContext) :
    ∃ rest, chain = (leadingPaths chain).map .path ++ rest ∧
      (rest = [] ∨ ∃ text after, rest = .hint text :: after) := by
  induction chain with
  | nil => exact ⟨[], rfl, .inl rfl⟩
  | cons c chain ih =>
      cases c with
      | hint text => exact ⟨.hint text :: chain, rfl, .inr ⟨text, chain, rfl⟩⟩
      | path p =>
          obtain ⟨rest, hchain, hrest⟩ := ih
          exact ⟨rest, congrArg (.path p :: ·) hchain, hrest⟩

theorem hints_map_path (paths : List Path) : hints (paths.map .path) = [] := by
  induction paths with
  | nil => rfl
  | cons p paths ih => exact ih

end ErrorContext

namespace RunError

open ErrorContext (leadingPaths hints paragraphs)

/-- A failure to find something, of the run itself or of reading a project. -/
def isNotFound : RunError → Bool
  | .io cause | .setup (.unreadable _ cause) => cause.kind == .notFound
  | _ => false

/-- A failure to find something with the first of some paths; other errors stay. -/
def named (e : RunError) (paths : List Path) : RunError :=
  if e.isNotFound then paths.head?.elim e .fileNotFound else e

theorem named_of_other {e : RunError} (h : e.isNotFound = false) (paths : List Path) :
    e.named paths = e := by
  rw [named, h]
  rfl

theorem named_of_head? {e : RunError} (h : e.isNotFound = true) {paths : List Path} {p : Path}
    (hp : paths.head? = some p) : e.named paths = .fileNotFound p := by
  rw [named, if_pos h, hp]
  rfl

@[simp] theorem named_nil (e : RunError) : e.named [] = e := by
  rw [named]
  split <;> rfl

/-- A path replaces a failure to find something and nothing else. -/
theorem addPath_eq (e : RunError) (p : Path) :
    e.addPath p = if e.isNotFound then .fileNotFound p else e := by
  cases e with
  | io cause => simp [addPath, isNotFound]
  | setup cause => cases cause <;> simp [addPath, isNotFound]
  | _ => rfl

/-- Paths without a hint before them: the first one counts. -/
theorem inContexts_paths (e : RunError) (paths : List Path) :
    e.inContexts (paths.map .path) = e.named paths := by
  cases hfound : e.isNotFound with
  | false =>
      have hstays : e.inContexts (paths.map .path) = e := by
        induction paths with
        | nil => rfl
        | cons p paths ih =>
            have hstep : e.addPath p = e := by rw [addPath_eq, hfound]; rfl
            calc e.inContexts ((p :: paths).map .path)
                = (e.addPath p).inContexts (paths.map .path) := rfl
              _ = e := by rw [hstep, ih]
      rw [hstays, named_of_other hfound]
  | true =>
      cases paths with
      | nil => exact (named_nil e).symm
      | cons p paths =>
          have hkept : (fileNotFound p).inContexts (paths.map .path) = .fileNotFound p := by
            induction paths with
            | nil => rfl
            | cons q paths ih => exact ih
          calc e.inContexts ((p :: paths).map .path)
              = (e.addPath p).inContexts (paths.map .path) := rfl
            _ = .fileNotFound p := by rw [addPath_eq, hfound, if_pos rfl, hkept]
            _ = e.named (p :: paths) := (named_of_head? hfound rfl).symm

/-- Once there is only a text, hints are appended to it, and paths do nothing. -/
theorem inContexts_custom (text : String) (chain : List ErrorContext) :
    (custom text).inContexts chain = .custom (text ++ paragraphs (hints chain)) := by
  induction chain generalizing text with
  | nil => simp [inContexts, paragraphs]
  | cons c chain ih =>
      cases c with
      | path p => exact ih text
      | hint hint =>
          calc (custom text).inContexts (.hint hint :: chain)
              = (custom (text ++ "\n\nHint: " ++ hint)).inContexts chain := rfl
            _ = .custom (text ++ "\n\nHint: " ++ hint ++ paragraphs (hints chain)) := ih _
            _ = .custom (text ++ paragraphs (hints (.hint hint :: chain))) := by
                simp [paragraphs, String.append_assoc]

theorem inContexts_append (e : RunError) (a b : List ErrorContext) :
    e.inContexts (a ++ b) = (e.inContexts a).inContexts b := List.foldl_append

/-- A hint leaves the text of the error, whatever the error was. -/
theorem inContexts_hint (e : RunError) (text : String) (chain : List ErrorContext) :
    e.inContexts (.hint text :: chain) =
      .custom (e.message ++ paragraphs (hints (.hint text :: chain))) := by
  calc e.inContexts (.hint text :: chain)
      = (custom (e.message ++ "\n\nHint: " ++ text)).inContexts chain := rfl
    _ = .custom (e.message ++ "\n\nHint: " ++ text ++ paragraphs (hints chain)) :=
        inContexts_custom _ chain
    _ = .custom (e.message ++ paragraphs (hints (.hint text :: chain))) := by
        simp [paragraphs, String.append_assoc]

/-- The normal form of an error in a chain of context. -/
theorem inContexts_eq (e : RunError) (chain : List ErrorContext) :
    e.inContexts chain =
      if hints chain = [] then e.named (leadingPaths chain)
      else .custom ((e.named (leadingPaths chain)).message ++ paragraphs (hints chain)) := by
  obtain ⟨rest, hchain, hrest⟩ := ErrorContext.exists_leadingPaths chain
  have hrun : e.inContexts chain = (e.named (leadingPaths chain)).inContexts rest := by
    refine (congrArg e.inContexts hchain).trans ?_
    rw [inContexts_append, inContexts_paths]
  have hhints : hints chain = hints rest := by
    refine (congrArg hints hchain).trans ?_
    rw [ErrorContext.hints_append, ErrorContext.hints_map_path, List.nil_append]
  rw [hrun, hhints]
  rcases hrest with rfl | ⟨text, after, rfl⟩
  · rfl
  · rw [inContexts_hint, if_neg (by simp)]

/-- After a hint only the hints count. -/
theorem inContexts_after_hint (e : RunError) (before : List ErrorContext) (text : String)
    (after : List ErrorContext) :
    e.inContexts (before ++ .hint text :: after) =
      e.inContexts (before ++ .hint text :: after.filter ErrorContext.isHint) := by
  rw [inContexts_append, inContexts_append, inContexts_hint, inContexts_hint,
    ErrorContext.hints_hint, ErrorContext.hints_hint, ErrorContext.hints_filter]

end RunError

/-! ## Failed results -/

section Results

open ErrorContext (leadingPaths hints paragraphs)

variable {α : Type}

/-- Add context in order to a result that may have failed. -/
def addContexts (r : Except RunError α) (chain : List ErrorContext) : Except RunError α :=
  chain.foldl (fun r c => r.mapError (·.inContext c)) r

theorem addContexts_error (e : RunError) (chain : List ErrorContext) :
    addContexts (.error e : Except RunError α) chain = .error (e.inContexts chain) := by
  induction chain generalizing e with
  | nil => rfl
  | cons c chain ih => exact ih (e.inContext c)

/-- A failed result after a chain of context. A path before the first hint turns a failure to find
something into the error that names this path, the first one if there are several, and leaves every
other error; without hints this is the error of the result. With hints the error is the text of it
with a paragraph for each hint in order. Paths after a hint change nothing. -/
theorem contexts_in_normal_form (e : RunError) (chain : List ErrorContext) :
    let failed : Except RunError α := .error e
    let named := e.named (leadingPaths chain)
    (∀ p, (leadingPaths chain).head? = some p → e.isNotFound = true → named = .fileNotFound p) ∧
    (leadingPaths chain = [] ∨ e.isNotFound = false → named = e) ∧
    (hints chain = [] → addContexts failed chain = .error named) ∧
    (hints chain ≠ [] → addContexts failed chain =
      .error (.custom (named.message ++ paragraphs (hints chain)))) ∧
    ∀ before text after, chain = before ++ .hint text :: after →
      addContexts failed chain =
        addContexts failed (before ++ .hint text :: after.filter ErrorContext.isHint) := by
  intro failed named
  have hchain : addContexts failed chain = .error (e.inContexts chain) := addContexts_error e chain
  rw [RunError.inContexts_eq] at hchain
  refine ⟨?_, ?_, ?_, ?_, ?_⟩
  · intro p hp hfound
    exact RunError.named_of_head? hfound hp
  · rintro (hnone | hother)
    · simp only [named, hnone, RunError.named_nil]
    · exact RunError.named_of_other hother _
  · intro hnone
    rw [hchain, if_pos hnone]
  · intro hsome
    rw [hchain, if_neg hsome]
  · rintro before text after rfl
    rw [addContexts_error, addContexts_error, RunError.inContexts_after_hint]

/-- Two paths, two hints and a path between them, for a file that a project could not be read from. -/
theorem contexts_in_normal_form_unreadable :
    let e : RunError := .setup (.unreadable ⟨"/p/t.json"⟩ ⟨.notFound, "gone"⟩)
    let chain : List ErrorContext :=
      [.path ⟨"a"⟩, .path ⟨"b"⟩, .hint "x", .path ⟨"c"⟩, .hint "y"]
    (leadingPaths chain).head? = some ⟨"a"⟩ ∧ e.isNotFound = true ∧ hints chain = ["x", "y"] ∧
      addContexts (.error e : Except RunError Unit) chain =
        .error (.custom "File not found: a\n\nHint: x\n\nHint: y") ∧
      addContexts (.error e : Except RunError Unit) chain =
        addContexts (.error e) [.path ⟨"a"⟩, .path ⟨"b"⟩, .hint "x", .hint "y"] := by
  intro e chain
  obtain ⟨hfirst, -, -, hhints, hlater⟩ := contexts_in_normal_form (α := Unit) e chain
  have hnamed : e.named (leadingPaths chain) = .fileNotFound ⟨"a"⟩ := hfirst _ rfl rfl
  rw [hnamed] at hhints
  exact ⟨rfl, rfl, rfl, hhints (by decide),
    hlater [.path ⟨"a"⟩, .path ⟨"b"⟩] "x" [.path ⟨"c"⟩, .hint "y"] rfl⟩

end Results

end QuietEmit
