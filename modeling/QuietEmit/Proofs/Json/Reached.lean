/-
  QuietEmit.Proofs.Json.Reached

  How far a text was read, told by its lines. After some bytes there are the lines that
  were gone through, and the characters of the next one of which a byte was read
  (`Reached`). A refusal tells how many lines there are, and how many bytes of the last one
  were read (`Reached.lineColumn_eq`). Since blanking out keeps every character in its
  place, the same holds of the text with its comments (`Reached.exists_reachedIn`), apart
  from the number of bytes that a character takes.
-/
import Mathlib.Data.List.Induction
import QuietEmit.Diagnostic.Basic
import QuietEmit.Json.Reader
import QuietEmit.Proofs.Json.Places
import QuietEmit.Proofs.Text.Cuts

namespace QuietEmit.Json

open Text (utf8Length)

/-! ## Where a reader stops -/

namespace Reader

variable {α : Type}

/-- Read a text to its end. -/
def whole (r : Reader α) : Reader α := do
  let a ← r
  match ← peekToken with
  | some _ => failAhead .trailingCharacters
  | none => return a

/-- The fault at which a reader of whole texts stops, and after how many bytes, at most all of
them. -/
def stop? (r : Reader α) (text : List Char) : Option (Cause × Nat) :=
  match r.whole ⟨text, 0⟩ with
  | .ok _ _ => none
  | .error f s => some (f.cause, min (f.index.getD s.index) (utf8Length text))

variable {r : Reader α} {text : List Char}

theorem le_of_stop? {cause : Cause} {n : Nat} (h : r.stop? text = some (cause, n)) :
    n ≤ utf8Length text := by
  rw [stop?] at h
  split at h
  · cases h
  · obtain ⟨-, rfl⟩ := Prod.mk.inj (Option.some.inj h)
    exact Nat.min_le_right _ _

/-- A refusal is told by the lines and the bytes of the last line that were read. -/
theorem run_eq_error_iff {e : Error} :
    r.run text = .error e ↔
      ∃ n, r.stop? text = some (e.cause, n) ∧ lineColumn text n (1, 0) = (e.line, e.column) := by
  have hrun : r.run text = match r.whole ⟨text, 0⟩ with
      | .ok a _ => .ok a
      | .error f s => .error (.ofFault text { f with index := f.index.or (some s.index) }) := rfl
  rw [hrun, stop?]
  cases r.whole ⟨text, 0⟩ with
  | ok a s => simp
  | error f s =>
      constructor
      · intro herror
        obtain rfl := Except.error.inj herror
        exact ⟨_, rfl, by simp [Error.ofFault]⟩
      · rintro ⟨n, hstop, hplace⟩
        obtain ⟨hcause, rfl⟩ := Prod.mk.inj (Option.some.inj hstop)
        simp [Error.ofFault, hplace, hcause]

end Reader

/-! ## Lines that were read -/

/-- Some lines of a text, each with its end. -/
def IsLines (text : List Char) : Prop := text = [] ∨ text.getLast? = some '\n'

/-- After `n` bytes of a text, the lines above were gone through, and of the characters of the next
line each has a byte that was read. -/
structure Reached (text : List Char) (n : Nat) (above line : List Char) : Prop where
  begins : above ++ line <+: text
  lines : IsLines above
  oneLine : '\n' ∉ line
  fresh : line = [] → n = utf8Length above
  last : ∀ front c, line = front ++ [c] →
    utf8Length above + utf8Length front < n ∧ n ≤ utf8Length above + utf8Length line

/-- A text has lines, and the beginning of another one. -/
theorem exists_lines (text : List Char) :
    ∃ above line, text = above ++ line ∧ IsLines above ∧ '\n' ∉ line := by
  induction text using List.reverseRecOn with
  | nil => exact ⟨[], [], rfl, .inl rfl, List.not_mem_nil⟩
  | append_singleton text c ih =>
      by_cases hc : c = '\n'
      · exact ⟨text ++ [c], [], by simp, .inr (by simp [hc]), List.not_mem_nil⟩
      · obtain ⟨above, line, rfl, hlines, hline⟩ := ih
        exact ⟨above, line ++ [c], by simp, hlines, by simp [hline, Ne.symm hc]⟩

/-- The characters of which one of the first `n` bytes is a part. -/
theorem exists_seen {text : List Char} {n : Nat} (h : n ≤ utf8Length text) :
    n = 0 ∨ ∃ front c, front ++ [c] <+: text ∧ utf8Length front < n ∧
      n ≤ utf8Length front + c.utf8Size := by
  induction text generalizing n with
  | nil => exact .inl (by simpa using h)
  | cons d text ih =>
      rw [Text.utf8Length_cons] at h
      obtain rfl | hpos := Nat.eq_zero_or_pos n
      · exact .inl rfl
      · by_cases hd : n ≤ d.utf8Size
        · exact .inr ⟨[], d, by simp, hpos, by simpa using hd⟩
        · -- beyond the first character
          obtain hzero | ⟨front, c, hbegins, hfront, hc⟩ := @ih (n - d.utf8Size) (by omega)
          · omega
          · refine .inr ⟨d :: front, c, by simpa using hbegins, ?_, ?_⟩ <;>
              rw [Text.utf8Length_cons] <;> omega

theorem utf8Length_lt_of_prefix {a b : List Char} (h : a <+: b) (hlt : a.length < b.length) :
    utf8Length a < utf8Length b := by
  obtain ⟨m, rfl⟩ := h
  have hm : utf8Length m ≠ 0 := by
    intro hzero
    rw [Text.eq_nil_of_utf8Length_eq_zero hzero, List.append_nil] at hlt
    exact Nat.lt_irrefl _ hlt
  rw [Text.utf8Length_append]
  omega

/-- There is one way to take whole lines off the beginning of a text. -/
theorem lines_unique {above line above' line' : List Char} (h : above ++ line = above' ++ line')
    (hlines : IsLines above) (hline : '\n' ∉ line) (hlines' : IsLines above')
    (hline' : '\n' ∉ line') : above = above' ∧ line = line' := by
  have hnone : ∀ {a m b : List Char}, IsLines (a ++ m) → '\n' ∉ m ++ b → m = [] := by
    intro a m b hends hmem
    by_contra hm
    obtain hnil | hlast := hends
    · exact hm (List.append_eq_nil_iff.mp hnil).2
    · rw [List.getLast?_append_of_ne_nil _ hm] at hlast
      exact hmem (List.mem_append_left _ (List.mem_of_getLast? hlast))
  obtain ⟨m, rfl, rfl⟩ | ⟨m, rfl, rfl⟩ := List.append_eq_append_iff.mp h
  · obtain rfl := hnone hlines' hline
    simp
  · obtain rfl := hnone hlines hline'
    simp

namespace Reached

variable {text above line above' line' : List Char} {n : Nat}

theorem le_utf8Length (h : Reached text n above line) : n ≤ utf8Length (above ++ line) := by
  rw [Text.utf8Length_append]
  rcases List.eq_nil_or_concat line with rfl | ⟨front, c, rfl⟩
  · simp [h.fresh rfl]
  · exact (h.last front c (by simp)).2

/-- No more characters are seen than have a byte that was read. -/
theorem length_le (h : Reached text n above line) (h' : Reached text n above' line') :
    (above' ++ line').length ≤ (above ++ line).length := by
  have hle := h.le_utf8Length
  by_contra hlt
  rw [not_le] at hlt
  have hbegins := List.prefix_of_prefix_length_le h.begins h'.begins hlt.le
  rcases List.eq_nil_or_concat line' with rfl | ⟨front, c, rfl⟩
  · have hbytes := utf8Length_lt_of_prefix hbegins hlt
    rw [List.append_nil, ← h'.fresh rfl] at hbytes
    omega
  · -- all of these come before the last one of the others
    rw [List.concat_eq_append] at h' hbegins hlt
    obtain ⟨hfront, -⟩ := h'.last front c rfl
    rw [← List.append_assoc, List.prefix_concat_iff] at hbegins
    obtain hsame | ⟨more, hmore⟩ := hbegins
    · simp [hsame] at hlt
    · rw [← Text.utf8Length_append, ← hmore, Text.utf8Length_append] at hfront
      omega

/-- The lines and the characters that were seen are told by the number of bytes. -/
theorem unique (h : Reached text n above line) (h' : Reached text n above' line') :
    above = above' ∧ line = line' := by
  have hlength := Nat.le_antisymm (h'.length_le h) (h.length_le h')
  have hbegins := List.prefix_of_prefix_length_le h.begins h'.begins hlength.le
  exact lines_unique (hbegins.eq_of_length hlength) h.lines h.oneLine h'.lines h'.oneLine

/-- The lines above, whole characters of the next line, and some bytes of one more. -/
theorem of_concat {front : List Char} {c : Char} (hbegins : above ++ (front ++ [c]) <+: text)
    (hlines : IsLines above) (honeLine : '\n' ∉ front ++ [c])
    (hlt : utf8Length above + utf8Length front < n)
    (hle : n ≤ utf8Length above + utf8Length (front ++ [c])) :
    Reached text n above (front ++ [c]) := by
  refine ⟨hbegins, hlines, honeLine, by simp, fun front' d hfront => ?_⟩
  obtain ⟨rfl, -⟩ := List.append_inj' hfront rfl
  exact ⟨hlt, hle⟩

end Reached

theorem exists_reached {text : List Char} {n : Nat} (h : n ≤ utf8Length text) :
    ∃ above line, Reached text n above line := by
  obtain rfl | ⟨front, c, hbegins, hfront, hc⟩ := exists_seen h
  · exact ⟨[], [], by simp, .inl rfl, List.not_mem_nil, fun _ => rfl, by simp⟩
  · obtain ⟨above, line, rfl, hlines, hline⟩ := exists_lines front
    rw [Text.utf8Length_append] at hfront hc
    by_cases hend : c = '\n'
    · -- a line end is read as a whole
      subst hend
      have hsize : '\n'.utf8Size = 1 := by decide
      refine ⟨above ++ line ++ ['\n'], [], by simpa using hbegins, .inr (by simp),
        List.not_mem_nil, fun _ => ?_, by simp⟩
      simp only [Text.utf8Length_append, Text.utf8Length_cons, Text.utf8Length_nil]
      omega
    · have honeLine : '\n' ∉ line ++ [c] := by simp [hline, Ne.symm hend]
      have hbytes : utf8Length (line ++ [c]) = utf8Length line + c.utf8Size := by simp
      exact ⟨above, line ++ [c], .of_concat (by simpa using hbegins) hlines honeLine hfront
        (by omega)⟩

/-! ## Lines and columns -/

/-- What a character adds to the lines, and to the bytes of the last one. -/
def advance (place : Nat × Nat) (c : Char) : Nat × Nat :=
  if c = '\n' then (place.1 + 1, 0) else (place.1, place.2 + c.utf8Size)

theorem lineColumn_append (seen rest : List Char) (n : Nat) (place : Nat × Nat) :
    lineColumn (seen ++ rest) (utf8Length seen + n) place =
      lineColumn rest n (seen.foldl advance place) := by
  induction seen generalizing place with
  | nil => simp
  | cons c seen ih =>
      obtain ⟨line, column⟩ := place
      rw [List.foldl_cons, ← ih, List.cons_append, lineColumn, Text.utf8Length_cons,
        if_neg (by omega), advance]
      by_cases hc : c = '\n'
      · subst hc
        have hsize : '\n'.utf8Size = 1 := by decide
        rw [if_pos (by simp), if_pos rfl, hsize]
        congr 1
        omega
      · rw [if_neg (by simpa using hc), if_neg hc]
        congr 1
        omega

theorem lineColumn_zero (text : List Char) (place : Nat × Nat) :
    lineColumn text 0 place = place := by
  cases text with
  | nil => rfl
  | cons c text => rw [lineColumn, if_pos c.utf8Size_pos, Nat.add_zero]

/-- Within a character its bytes count one by one. -/
theorem lineColumn_within {c : Char} (hc : c ≠ '\n') {b : Nat} (hb : b ≤ c.utf8Size)
    (text : List Char) (place : Nat × Nat) :
    lineColumn (c :: text) b place = (place.1, place.2 + b) := by
  obtain hlt | rfl := Nat.lt_or_eq_of_le hb
  · rw [lineColumn, if_pos hlt]
  · have hwhole := lineColumn_append [c] text 0 place
    simpa [lineColumn_zero, advance, hc] using hwhole

theorem foldl_advance_fst (text : List Char) (place : Nat × Nat) :
    (text.foldl advance place).1 = place.1 + text.count '\n' := by
  induction text generalizing place with
  | nil => rfl
  | cons c text ih =>
      rw [List.foldl_cons, ih, List.count_cons, advance]
      by_cases hc : c = '\n'
      · simp [hc, Nat.add_assoc, Nat.add_comm 1]
      · simp [hc]

theorem IsLines.foldl_advance {above : List Char} (h : IsLines above) (line : Nat) :
    above.foldl advance (line, 0) = (line + above.count '\n', 0) := by
  obtain rfl | hlast := h
  · rfl
  · obtain ⟨front, rfl⟩ := List.getLast?_eq_some_iff.mp hlast
    rw [List.foldl_append, List.foldl_cons, List.foldl_nil, advance, if_pos rfl, foldl_advance_fst,
      List.count_append, List.count_singleton_self, Nat.add_assoc]

theorem foldl_advance_line {line : List Char} (h : '\n' ∉ line) (place : Nat × Nat) :
    line.foldl advance place = (place.1, place.2 + utf8Length line) := by
  induction line generalizing place with
  | nil => rfl
  | cons c line ih =>
      obtain ⟨hc, hline⟩ : '\n' ≠ c ∧ '\n' ∉ line := by simpa using h
      rw [List.foldl_cons, ih hline, advance, if_neg (Ne.symm hc), Text.utf8Length_cons,
        Nat.add_assoc]

/-- The line is told by the lines above, and the column by the bytes of the line that were read. -/
theorem Reached.lineColumn_eq {text above line : List Char} {n : Nat}
    (h : Reached text n above line) :
    lineColumn text n (1, 0) = (above.count '\n' + 1, n - utf8Length above) := by
  obtain ⟨rest, rfl⟩ := h.begins
  rw [List.append_assoc, Nat.add_comm (above.count '\n')]
  rcases List.eq_nil_or_concat line with rfl | ⟨front, c, rfl⟩
  · rw [h.fresh rfl, List.nil_append]
    have habove := lineColumn_append above rest 0 (1, 0)
    rw [Nat.add_zero, lineColumn_zero, h.lines.foldl_advance] at habove
    rw [habove, Nat.sub_self]
  · rw [List.concat_eq_append] at h ⊢
    obtain ⟨hfront, hc⟩ := h.last front c rfl
    have honeLine := h.oneLine
    rw [List.mem_append, List.mem_singleton, not_or] at honeLine
    rw [Text.utf8Length_append, Text.utf8Length_cons, Text.utf8Length_nil] at hc
    -- whole lines, then whole characters, then some bytes of one
    obtain ⟨b, rfl⟩ : ∃ b, n = utf8Length above + (utf8Length front + b) :=
      ⟨n - (utf8Length above + utf8Length front), by omega⟩
    rw [lineColumn_append, List.append_assoc, lineColumn_append, List.singleton_append,
      lineColumn_within (Ne.symm honeLine.2) (by omega), h.lines.foldl_advance,
      foldl_advance_line honeLine.1]
    simp

/-! ## The text with its comments -/

theorem ShownAs.newline_iff {c shown : Char} (h : ShownAs c shown) : shown = '\n' ↔ c = '\n' := by
  obtain rfl | ⟨hc, rfl⟩ := h
  · exact Iff.rfl
  · simp [hc]

theorem exists_append_of_forall₂ {α β : Type} {R : α → β → Prop} {cs : List α} {a b : List β}
    (h : List.Forall₂ R cs (a ++ b)) :
    ∃ a₀ b₀, cs = a₀ ++ b₀ ∧ List.Forall₂ R a₀ a ∧ List.Forall₂ R b₀ b :=
  ⟨cs.take a.length, cs.drop a.length, (List.take_append_drop _ _).symm,
    List.forall₂_take_append _ _ _ h, List.forall₂_drop_append _ _ _ h⟩

section ShownAs

variable {cs shown : List Char} (h : List.Forall₂ ShownAs cs shown)

include h

theorem count_newline_of_shownAs : cs.count '\n' = shown.count '\n' := by
  induction h with
  | nil => rfl
  | cons hc _ ih => simp only [List.count_cons, ih, beq_iff_eq, hc.newline_iff]

theorem mem_newline_of_shownAs : '\n' ∈ cs ↔ '\n' ∈ shown := by
  rw [← List.count_pos_iff, ← List.count_pos_iff, count_newline_of_shownAs h]

theorem isLines_of_shownAs (hlines : IsLines shown) : IsLines cs := by
  obtain rfl | hlast := hlines
  · exact .inl (List.forall₂_nil_right_iff.mp h)
  · obtain ⟨front, rfl⟩ := List.getLast?_eq_some_iff.mp hlast
    obtain ⟨before, last, rfl, -, hnewline⟩ := exists_append_of_forall₂ h
    obtain ⟨c, _, hc, hnil, rfl⟩ := List.forall₂_cons_right_iff.mp hnewline
    obtain rfl := List.forall₂_nil_right_iff.mp hnil
    exact .inr (by simp [hc.newline_iff.mp rfl])

end ShownAs

/-- How far a text was read after `n` bytes of what it is without its comments: the lines above and
the characters of the next line, as they stand in the text and as they are shown. -/
structure ReachedIn (text : List Char) (n : Nat) (above line shownAbove shownLine : List Char) :
    Prop where
  begins : above ++ line <+: text
  lines : IsLines above
  oneLine : '\n' ∉ line
  above_shown : List.Forall₂ ShownAs above shownAbove
  line_shown : List.Forall₂ ShownAs line shownLine
  reached : Reached (withoutComments text) n shownAbove shownLine

/-- What was read of a text without its comments stands at the same place in the text with them. -/
theorem Reached.exists_reachedIn {text shownAbove shownLine : List Char} {n : Nat}
    (h : Reached (withoutComments text) n shownAbove shownLine) :
    ∃ above line, ReachedIn text n above line shownAbove shownLine := by
  obtain ⟨rest, hrest⟩ := h.begins
  have hshown := forall₂_blankComments .plain text
  rw [← withoutComments, ← hrest] at hshown
  obtain ⟨begins, rest₀, rfl, hbegins, -⟩ := exists_append_of_forall₂ hshown
  obtain ⟨above, line, rfl, habove, hline⟩ := exists_append_of_forall₂ hbegins
  exact ⟨above, line, List.prefix_append _ _, isLines_of_shownAs habove h.lines,
    mt (mem_newline_of_shownAs hline).mp h.oneLine, habove, hline, h⟩

end QuietEmit.Json
