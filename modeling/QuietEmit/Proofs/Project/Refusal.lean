/-
  QuietEmit.Proofs.Project.Refusal

  Where the text of a project file is refused. The diagnostic has the line of the place at
  which the text cannot be read on, whatever comments stand before it. Its column is the
  number of bytes that were read of this line without its comments: the column of the last
  character that was read where none of the line takes more than one byte
  (`ReachedIn.position_eq`), and none at all at the beginning of a line.
-/
import QuietEmit.Proofs.Diagnostic.Position
import QuietEmit.Proofs.Json.Reached
import QuietEmit.Proofs.Project.Inputs

namespace QuietEmit

open Json (IsLines ReachedIn ShownAs)
open Text (utf8Length)

/-! ## Refused texts -/

/-- Only a text that is refused gives a diagnostic with a position. -/
theorem Project.exists_error_of_position {tree : FileTree} {configPath : Path} {text : String}
    {d : Diagnostic} (hd : d ∈ (ofText tree configPath text).errors) {p : Position}
    (hp : d.position = some p) :
    ∃ e, ProjectFile.ofText text = .error e ∧ d = unreadableText configPath e := by
  rw [ofText] at hd
  cases hfile : ProjectFile.ofText text with
  | error e =>
      rw [hfile] at hd
      exact ⟨e, rfl, by simpa using hd⟩
  | ok file =>
      -- no other diagnostic of a project has a position
      simp only [hfile] at hd
      cases hinputs : file.inputs tree configPath.parentOrEmpty
          (file.options.rooted configPath.parentOrEmpty) with
      | error e =>
          obtain rfl : d = faultyPattern configPath e := by simpa [hinputs] using hd
          cases hp
      | ok files =>
          simp only [hinputs, List.isEmpty_nil, Bool.and_true] at hd
          split at hd
          · obtain rfl : d = withoutInputs configPath := by simpa using hd
            cases hp
          · cases hd

/-- Where no character of the line takes more than one byte, so far as it was read, the line and the
bytes of it that were read are the position of the last character. -/
theorem Json.ReachedIn.position_eq {text above line shownAbove front : List Char} {c : Char} {n : Nat}
    (h : ReachedIn text n above line shownAbove (front ++ [c]))
    (hascii : ∀ c ∈ front, c.utf8Size = 1)
    (hbyte : n = utf8Length shownAbove + utf8Length front + 1) :
    (⟨Position.clamp (above.count '\n' + 1), Position.clamp (n - utf8Length shownAbove)⟩ : Position) =
      Position.ofOffset text (utf8Length (above ++ line.dropLast)) := by
  obtain ⟨front₀, last, rfl, hfront, hlast⟩ := Json.exists_append_of_forall₂ h.line_shown
  obtain ⟨c₀, _, -, hnil, rfl⟩ := List.forall₂_cons_right_iff.mp hlast
  obtain rfl := List.forall₂_nil_right_iff.mp hnil
  have hlength : utf8Length front = front₀.length := by
    rw [hfront.length_eq]
    clear h hlast hfront hbyte
    induction front with
    | nil => rfl
    | cons c front ih =>
        obtain ⟨hc, hfront⟩ := List.forall_mem_cons.mp hascii
        rw [Text.utf8Length_cons, hc, ih hfront, List.length_cons, Nat.add_comm]
  have honeLine : '\n' ∉ front₀ := fun hmem => h.oneLine (List.mem_append_left _ hmem)
  have hbegins : above ++ front₀ <+: text :=
    List.IsPrefix.trans (by simp [← List.append_assoc]) h.begins
  have hcolumn : n - utf8Length shownAbove = front₀.length + 1 := by omega
  rw [List.dropLast_concat, Position.ofOffset_utf8Length hbegins,
    Position.after_lines h.lines honeLine, hcolumn]

/-- A diagnostic with a position is about the fault at which reading the text without its comments
stops. Its line is that of the place in the text, and its column counts the bytes of this line that
were read: none at the beginning of the line; and where the characters before the last one take a
byte each, and one byte of the last one was read, the position is that of this character. -/
theorem refusals_placed (tree : FileTree) (configPath : Path) (text : String) :
    ∀ d ∈ (Project.ofText tree configPath text).errors, ∀ p, d.position = some p →
      ∃ cause n above line shownAbove shownLine,
        (ProjectFile.shape.read {}).stop? (Json.withoutComments text.toList) = some (cause, n) ∧
        ReachedIn text.toList n above line shownAbove shownLine ∧
        d = Project.unreadableText configPath
          ⟨cause, above.count '\n' + 1, n - utf8Length shownAbove⟩ ∧
        p = ⟨Position.clamp (above.count '\n' + 1), Position.clamp (n - utf8Length shownAbove)⟩ ∧
        1 ≤ p.line ∧ (p.column = 0 ↔ line = []) ∧
        ∀ front c, shownLine = front ++ [c] → (∀ c ∈ front, c.utf8Size = 1) →
          n = utf8Length shownAbove + utf8Length front + 1 →
            p = Position.ofOffset text.toList (utf8Length (above ++ line.dropLast)) := by
  intro d hd p hp
  obtain ⟨⟨cause, _, _⟩, herror, rfl⟩ := Project.exists_error_of_position hd hp
  obtain ⟨n, hstops, hplace⟩ := Json.Reader.run_eq_error_iff.mp herror
  obtain ⟨shownAbove, shownLine, hshown⟩ := Json.exists_reached (Json.Reader.le_of_stop? hstops)
  obtain ⟨above, line, hreached⟩ := hshown.exists_reachedIn
  have hcount := Json.count_newline_of_shownAs hreached.above_shown
  rw [hshown.lineColumn_eq, ← hcount] at hplace
  obtain ⟨rfl, rfl⟩ := Prod.mk.inj hplace
  obtain rfl := Option.some.inj hp
  refine ⟨cause, n, above, line, shownAbove, shownLine, hstops, hreached, rfl, rfl,
    Position.one_le_clamp _, ?_, ?_⟩
  · have hempty : line = [] ↔ shownLine = [] := by
      have hlength := hreached.line_shown.length_eq
      rw [← List.length_eq_zero_iff, ← List.length_eq_zero_iff, hlength]
    rw [Position.clamp_eq_zero_iff, hempty]
    rcases List.eq_nil_or_concat shownLine with rfl | ⟨front, c, rfl⟩
    · simp [hshown.fresh rfl]
    · rw [List.concat_eq_append] at hshown ⊢
      obtain ⟨hfront, -⟩ := hshown.last front c rfl
      simp
      omega
  · rintro front c rfl hascii hbyte
    exact hreached.position_eq hascii hbyte

/-- A text with a comment over two lines, before a key that is no string. -/
def commentedText : String := "/* é\n é */\x7bx\x7d"

/-- The refusal of that text. -/
def commentedError : Json.Error := ⟨.keyNotString, 2, 7⟩

/-- The position is that of the key, though the comment takes more bytes than characters. -/
theorem refusals_placed_commented :
    (Project.ofText ⟨[], []⟩ ⟨"/p/tsconfig.json"⟩ commentedText).errors =
      [Project.unreadableText ⟨"/p/tsconfig.json"⟩ commentedError] ∧
    (⟨2, 7⟩ : Position) = Position.ofOffset commentedText.toList 13 ∧
    commentedText.toList = "/* é\n é */\x7b".toList ++ "x\x7d".toList ∧
    utf8Length "/* é\n é */\x7b".toList = 13 := by
  have herrors : (Project.ofText ⟨[], []⟩ ⟨"/p/tsconfig.json"⟩ commentedText).errors =
      [Project.unreadableText ⟨"/p/tsconfig.json"⟩ commentedError] := by decide +kernel
  have hstop : (ProjectFile.shape.read {}).stop? (Json.withoutComments commentedText.toList) =
      some (.keyNotString, 12) := by decide +kernel
  have hplace : Json.Reached (Json.withoutComments commentedText.toList) 12 "    \n".toList
      ("     \x7b".toList ++ ['x']) :=
    .of_concat (by decide +kernel) (.inr (by decide +kernel)) (by decide +kernel)
      (by decide +kernel) (by decide +kernel)
  obtain ⟨cause, n, above, line, shownAbove, shownLine, hstops, hreached, -, -, -, -, hlast⟩ :=
    refusals_placed ⟨[], []⟩ ⟨"/p/tsconfig.json"⟩ commentedText _
      (by rw [herrors]; exact List.mem_singleton_self _) ⟨2, 7⟩ rfl
  obtain ⟨rfl, rfl⟩ := Prod.mk.inj (Option.some.inj (hstops.symm.trans hstop))
  obtain ⟨rfl, rfl⟩ := hreached.reached.unique hplace
  have hbytes : ∀ c ∈ "     \x7b".toList, c.utf8Size = 1 := by
    intro c hc
    obtain rfl | rfl : c = ' ' ∨ c = '\x7b' := by simpa using hc
    all_goals rfl
  have hposition := hlast _ _ rfl hbytes (by decide +kernel)
  -- eleven characters stand before the key
  have hbegins : above ++ line.dropLast <+: commentedText.toList :=
    ((List.prefix_append_right_inj above).mpr (List.dropLast_prefix line)).trans hreached.begins
  have hlength : (above ++ line.dropLast).length = 11 := by
    rw [List.length_append, List.length_dropLast, hreached.above_shown.length_eq,
      hreached.line_shown.length_eq]
    decide +kernel
  have htake : utf8Length (commentedText.toList.take 11) = 13 := by decide +kernel
  rw [List.prefix_iff_eq_take.mp hbegins, hlength, htake] at hposition
  exact ⟨herrors, hposition, by decide +kernel, by decide +kernel⟩

/-- After a character of two bytes a column is too large by one: it is 16 for a fault at the character
of column 15. At the beginning of a line the column is 0. -/
theorem refusals_misplaced :
    (Project.ofText ⟨[], []⟩ ⟨"/p/tsconfig.json"⟩ "\x7b\"files\":[\"é\",x]\x7d").errors =
      [Project.unreadableText ⟨"/p/tsconfig.json"⟩ ⟨.expectedValue, 1, 16⟩] ∧
    "\x7b\"files\":[\"é\",x]\x7d".toList = "\x7b\"files\":[\"é\",".toList ++ "x]\x7d".toList ∧
    Position.after "\x7b\"files\":[\"é\",".toList = ⟨1, 15⟩ ∧
    (Project.ofText ⟨[], []⟩ ⟨"/p/tsconfig.json"⟩ "\x7b\n").errors =
      [Project.unreadableText ⟨"/p/tsconfig.json"⟩ ⟨.endInObject, 2, 0⟩] ∧
    (Project.unreadableText ⟨"/p/tsconfig.json"⟩ ⟨.endInObject, 2, 0⟩).position = some ⟨2, 0⟩ := by
  refine ⟨by decide +kernel, by decide +kernel, by decide +kernel, by decide +kernel, rfl⟩

end QuietEmit
