/-
  QuietEmit.Proofs.Project.Text

  What the text of a project file can hold beyond JSON. The text that is read is
  strict JSON (`exists_strict_of_ofText`), so what stood there before blanking out is
  that JSON with comments between its tokens and with commas before closing ones. In
  the relaxed form of JSON a comma right after an opening token and a block comment
  that is never closed have no place; both can be blanked out all the same.
-/
import QuietEmit.Project.Options
import QuietEmit.Proofs.Json.Beginnings
import QuietEmit.Proofs.Json.Relaxed
import QuietEmit.Proofs.Json.Typed
import QuietEmit.Proofs.Project.Inputs

namespace QuietEmit

open Json

/-! ## Readers of a project file -/

theorem CompilerOptions.takesFields_shape : CompilerOptions.shape.TakesFields := by
  have hpath : Reader.TakesValues
      (do return (← Reader.optional (Reader.text "path string")).map Path.mk) :=
    (Reader.takesValues_text _).optional.map _
  simp only [Reader.Shape.TakesFields, CompilerOptions.shape, List.forall_mem_cons]
  refine ⟨fun _ => hpath.map _, fun _ => hpath.map _, fun _ => hpath.map _, ?_⟩
  exact ⟨fun _ => Reader.takesValues_flag.map _, fun _ => Reader.takesValues_flag.map _,
    fun _ => Reader.takesValues_flag.map _, fun _ => Reader.takesValues_flag.map _, nofun⟩

namespace ProjectFile

theorem takesFields_shape : ProjectFile.shape.TakesFields := by
  have hnames : Reader.TakesValues (Reader.optional (Reader.list (Reader.text "a string"))) :=
    (Reader.takesValues_text _).list.optional
  simp only [Reader.Shape.TakesFields, ProjectFile.shape, List.forall_mem_cons]
  exact ⟨fun _ => (CompilerOptions.takesFields_shape.read _).map _, fun _ => hnames.map _,
    fun _ => hnames.map _, fun _ => hnames.map _, nofun⟩

/-- The text of a project file that is read is strict JSON once comments and trailing commas are
blanked out. -/
theorem exists_strict_of_ofText {text : String} {file : ProjectFile}
    (h : ProjectFile.ofText text = .ok file) :
    ∃ (strict : Layout) (v : Value), strict.isStrict = true ∧
      strict.text = withoutComments text.toList ∧ Spells false (.value v) strict.tokens :=
  Reader.exists_layout_of_run (takesFields_shape.read _) h

end ProjectFile

/-! ## Texts -/

/-- A text is written with comments between its tokens, which are the tokens `kept` with commas before
closing ones. They spell a value in the relaxed form, unless a comma comes right after an opening
token. -/
structure Extends (text : List Char) (v : Value) (kept : List Token) (l : Layout) : Prop where
  written : WrittenAs text l
  kept_eq : withoutTrailingCommas l.tokens = kept
  relaxed : Spells true (.value v) l.tokens ↔ NoLoneComma l.tokens

/-- What is strict JSON once comments and trailing commas are blanked out was that JSON with no more
than these between its tokens; so is every text that a project file is read from. -/
theorem accepted_text_extends_json (text : String) :
    (∀ {strict : Layout} {v : Value}, strict.isStrict = true →
      strict.text = withoutComments text.toList → Spells false (.value v) strict.tokens →
      ∃ l, Extends text.toList v strict.tokens l) ∧
    ∀ file, ProjectFile.ofText text = .ok file →
      ∃ v kept l, Spells false (.value v) kept ∧ Extends text.toList v kept l := by
  have hextends : ∀ {strict : Layout} {v : Value}, strict.isStrict = true →
      strict.text = withoutComments text.toList → Spells false (.value v) strict.tokens →
      ∃ l, Extends text.toList v strict.tokens l := by
    intro strict v hstrict htext hspells
    obtain ⟨l, hwritten, hkept⟩ := exists_layout_of_strict hstrict htext.symm
    exact ⟨l, hwritten, hkept, spells_relaxed_iff (hkept ▸ hspells)⟩
  refine ⟨hextends, fun file hfile => ?_⟩
  obtain ⟨strict, v, hstrict, htext, hspells⟩ := ProjectFile.exists_strict_of_ofText hfile
  obtain ⟨l, hl⟩ := hextends hstrict htext hspells
  exact ⟨v, strict.tokens, l, hspells, hl⟩

/-- Both kinds of trailing commas, both kinds of comments, and a comment that is never closed. -/
theorem accepted_text_extends_json_files :
    let text := "\x7b\"files\": [\"a.ts\", /* b */], // c\n\x7d /* d"
    ProjectFile.ofText text = .ok { files := some ["a.ts"] } ∧
      (∃ v kept l, Spells false (.value v) kept ∧ Extends text.toList v kept l) ∧
      ∃ (strict : Layout) (v : Value), strict.isStrict = true ∧
        strict.text = withoutComments text.toList ∧ Spells false (.value v) strict.tokens ∧
        ∃ l, Extends text.toList v strict.tokens l := by
  intro text
  have hfile : ProjectFile.ofText text = .ok { files := some ["a.ts"] } :=
    eq_ok_of_toOption (by decide +kernel)
  obtain ⟨hextends, haccepted⟩ := accepted_text_extends_json text
  obtain ⟨strict, v, hstrict, htext, hspells⟩ := ProjectFile.exists_strict_of_ofText hfile
  exact ⟨hfile, haccepted _ hfile, strict, v, hstrict, htext, hspells,
    hextends hstrict htext hspells⟩

/-! ## Texts that are no relaxed JSON -/

/-- A text is JSON, in the strict or the relaxed form. -/
def IsJson (relaxed : Bool) (text : List Char) : Prop :=
  ∃ (l : Layout) (v : Value), (relaxed || l.isStrict) = true ∧ l.text = text ∧
    Spells relaxed (.value v) l.tokens

theorem ProjectFile.isJson_of_ofText {text : String} {file : ProjectFile}
    (h : ProjectFile.ofText text = .ok file) : IsJson false (withoutComments text.toList) := by
  obtain ⟨strict, v, hstrict, htext, hspells⟩ := ProjectFile.exists_strict_of_ofText h
  exact ⟨strict, v, hstrict, htext, hspells⟩

/-- A comma alone in an object and a block comment that is never closed are blanked out, and what is
left is strict JSON; the texts themselves are no relaxed JSON. -/
theorem accepted_text_beyond_relaxed_json :
    (ProjectFile.ofText "\x7b,\x7d" = .ok {} ∧
      IsJson false (withoutComments "\x7b,\x7d".toList) ∧ ¬ IsJson true "\x7b,\x7d".toList) ∧
    (ProjectFile.ofText "\x7b\x7d/*" = .ok {} ∧
      IsJson false (withoutComments "\x7b\x7d/*".toList) ∧ ¬ IsJson true "\x7b\x7d/*".toList) := by
  have hcomma : ProjectFile.ofText "\x7b,\x7d" = .ok {} := eq_ok_of_toOption (by decide +kernel)
  have hopen : ProjectFile.ofText "\x7b\x7d/*" = .ok {} := eq_ok_of_toOption (by decide +kernel)
  refine ⟨⟨hcomma, ProjectFile.isJson_of_ofText hcomma, ?_⟩, hopen,
    ProjectFile.isJson_of_ofText hopen, ?_⟩
  · rintro ⟨l, v, -, htext, hspells⟩
    obtain ⟨l₁, hl, htext₁⟩ := Layout.exists_of_ofChar? rfl htext
    obtain ⟨l₂, hl₁, -⟩ := Layout.exists_of_ofChar? rfl htext₁
    have hlone := (bare_of_spells hspells).chain
    rw [hl, hl₁] at hlone
    have hcomma := (List.isChain_cons_cons.mp hlone).1 rfl
    cases hcomma
  · rintro ⟨l, v, -, htext, -⟩
    obtain ⟨l₁, -, htext₁⟩ := Layout.exists_of_ofChar? rfl htext
    obtain ⟨l₂, -, htext₂⟩ := Layout.exists_of_ofChar? rfl htext₁
    exact Layout.text_ne_unclosed (by decide) l₂ htext₂

end QuietEmit
