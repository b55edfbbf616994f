/-
  QuietEmit.Proofs.Diagnostic.Position

  Positions and byte offsets. At an offset where the text can be cut, the position tells
  how many lines and how many characters of the next one stand before the cut
  (`Position.after_lines`), so it leads back to the offset and grows with it
  (`positions_decode`). Every other offset, inside a character or past the end, has the
  position of the end of the text. This is where positions leave the order of the
  offsets: an offset inside a character comes after each cut behind it, the end of the
  text apart (`positions_ordered`).
-/
import QuietEmit.Diagnostic.Basic
import QuietEmit.Proofs.Json.Reached

namespace QuietEmit

open Json (IsLines exists_lines)
open Text (utf8Length)

/-! ## Cuts and lines of a text -/

namespace Text

/-- An offset between two characters, or at either end. -/
def IsBoundary (text : List Char) (n : Nat) : Prop :=
  ∃ before after, text = before ++ after ∧ utf8Length before = n

/-- An offset inside a character of several bytes. -/
def IsInside (text : List Char) (n : Nat) : Prop :=
  n < utf8Length text ∧ ¬ IsBoundary text n

theorem isBoundary_iff {text : List Char} {n : Nat} :
    IsBoundary text n ↔ (splitBytes? n text).isSome = true := by
  rw [Option.isSome_iff_exists]
  constructor
  · rintro ⟨before, after, htext, hbytes⟩
    exact ⟨(before, after), splitBytes?_eq_some_iff.mpr ⟨htext, hbytes⟩⟩
  · rintro ⟨⟨before, after⟩, hsplit⟩
    exact ⟨before, after, splitBytes?_eq_some_iff.mp hsplit⟩

instance (text : List Char) (n : Nat) : Decidable (IsBoundary text n) :=
  decidable_of_iff _ isBoundary_iff.symm

instance (text : List Char) (n : Nat) : Decidable (IsInside text n) :=
  inferInstanceAs (Decidable (_ ∧ _))

theorem IsBoundary.le_utf8Length {text : List Char} {n : Nat} (h : IsBoundary text n) :
    n ≤ utf8Length text := by
  obtain ⟨before, after, rfl, rfl⟩ := h
  rw [utf8Length_append]
  exact Nat.le_add_right _ _

/-- The piece of a text between two cuts. -/
theorem IsBoundary.exists_between {text : List Char} {m n : Nat} (hm : IsBoundary text m)
    (hn : IsBoundary text n) (hle : m ≤ n) :
    ∃ before more rest, text = before ++ more ++ rest ∧ utf8Length before = m ∧
      utf8Length (before ++ more) = n := by
  obtain ⟨before, behind, rfl, rfl⟩ := hm
  obtain ⟨front, rest, hsplit, rfl⟩ := hn
  obtain ⟨more, rfl, rfl⟩ := exists_append_of_utf8Length_le hsplit hle
  exact ⟨before, more, rest, hsplit, rfl, rfl⟩

theorem isBoundary_end (text : List Char) : IsBoundary text (utf8Length text) :=
  ⟨text, [], by simp, rfl⟩

/-- The bytes of lines, with one more for the end of each. -/
def linesLength (rows : List (List Char)) : Nat := (rows.map fun row => utf8Length row + 1).sum

/-- A text has one more line than newlines, and its lines have all of its bytes. -/
theorem lines_count (text : List Char) :
    (lines text).length = text.count '\n' + 1 ∧
      linesLength (lines text) = utf8Length text + 1 := by
  induction text with
  | nil => exact ⟨rfl, rfl⟩
  | cons c text ih =>
      obtain ⟨hlength, hbytes⟩ := ih
      rw [lines] at hlength hbytes ⊢
      rw [List.splitOn_cons_eq_if_modifyHead]
      by_cases hc : c = '\n'
      · subst hc
        have hsize : ('\n' : Char).utf8Size = 1 := by decide
        rw [if_pos (by rfl), List.length_cons, hlength, List.count_cons_self, utf8Length_cons, hsize]
        refine ⟨rfl, ?_⟩
        rw [linesLength, List.map_cons, List.sum_cons, ← linesLength, hbytes, utf8Length_nil]
        omega
      · rw [if_neg (by simpa using hc), List.length_modifyHead, hlength,
          List.count_cons_of_ne hc]
        refine ⟨rfl, ?_⟩
        -- the character is one more of the first line
        cases hrows : text.splitOn '\n' with
        | nil => exact absurd hrows (List.splitOn_ne_nil _ _)
        | cons row rows =>
            rw [hrows] at hbytes
            simp only [linesLength, List.map_cons, List.sum_cons, List.modifyHead_cons,
              utf8Length_cons] at hbytes ⊢
            omega

/-- What comes after whole lines has the remaining lines of the text. -/
theorem exists_lines_append {above : List Char} (h : IsLines above) :
    ∃ rows, rows.length = above.count '\n' ∧ linesLength rows = utf8Length above ∧
      ∀ rest, lines (above ++ rest) = rows ++ lines rest := by
  obtain rfl | hlast := h
  · exact ⟨[], rfl, rfl, fun _ => rfl⟩
  · obtain ⟨before, rfl⟩ := List.getLast?_eq_some_iff.mp hlast
    obtain ⟨hlength, hbytes⟩ := lines_count before
    have hsize : ('\n' : Char).utf8Size = 1 := by decide
    refine ⟨lines before, ?_, ?_, ?_⟩
    · rw [hlength, List.count_append, List.count_singleton_self]
    · rw [hbytes, utf8Length_append, utf8Length_cons, hsize, utf8Length_nil]
    · intro rest
      rw [List.append_assoc, List.singleton_append, lines, lines, lines,
        List.splitOn_append_cons_self]

/-- A text without newlines begins the first line. -/
theorem exists_first_line {front : List Char} (h : '\n' ∉ front) (rest : List Char) :
    ∃ tail more, lines (front ++ rest) = (front ++ tail) :: more := by
  induction front with
  | nil =>
      cases hrows : lines rest with
      | nil => exact absurd hrows (List.splitOn_ne_nil _ _)
      | cons row rows => exact ⟨row, rows, hrows⟩
  | cons c front ih =>
      obtain ⟨hc, hfront⟩ := not_or.mp (mt List.mem_cons.mpr h)
      obtain ⟨tail, more, hrows⟩ := ih hfront
      refine ⟨tail, more, ?_⟩
      rw [lines] at hrows ⊢
      rw [List.cons_append, List.splitOn_cons_eq_if_modifyHead, hrows,
        if_neg (by simpa using Ne.symm hc), List.modifyHead_cons, List.cons_append]

end Text

/-! ## Counts -/

namespace Position

theorem toNat_clamp (n : Nat) : (clamp n).toNat = min n limit := by
  have hlimit : limit < UInt32.size := by decide
  exact UInt32.toNat_ofNat_of_lt' (by omega)

theorem clamp_eq_zero_iff {n : Nat} : clamp n = 0 ↔ n = 0 := by
  have hlimit : 0 < limit := by decide
  rw [← UInt32.toNat_inj, toNat_clamp, UInt32.toNat_zero]
  omega

theorem one_le_clamp (n : Nat) : 1 ≤ clamp (n + 1) := by
  have hlimit : 0 < limit := by decide
  rw [UInt32.le_iff_toNat_le, toNat_clamp, UInt32.toNat_one]
  omega

theorem clamp_le_clamp {m n : Nat} (h : m ≤ n) : clamp m ≤ clamp n := by
  rw [UInt32.le_iff_toNat_le, toNat_clamp, toNat_clamp]
  omega

/-- Below the limit, counts that differ stay different. -/
theorem clamp_lt_clamp {m n : Nat} (h : m < n) (hlimit : m < limit) : clamp m < clamp n := by
  rw [UInt32.lt_iff_toNat_lt, toNat_clamp, toNat_clamp]
  omega

/-! ## The order of positions -/

/-- A position comes before another one in an earlier line, or before it in the same line. -/
instance : LT Position where
  lt p q := p.line < q.line ∨ p.line = q.line ∧ p.column < q.column

instance : LE Position where
  le p q := p.line < q.line ∨ p.line = q.line ∧ p.column ≤ q.column

instance (p q : Position) : Decidable (p < q) := inferInstanceAs (Decidable (_ ∨ _ ∧ _))

instance (p q : Position) : Decidable (p ≤ q) := inferInstanceAs (Decidable (_ ∨ _ ∧ _))

variable {p q : Position}

theorem lt_iff : p < q ↔ p.line < q.line ∨ p.line = q.line ∧ p.column < q.column := Iff.rfl

theorem le_iff : p ≤ q ↔ p.line < q.line ∨ p.line = q.line ∧ p.column ≤ q.column := Iff.rfl

theorem le_refl (p : Position) : p ≤ p := .inr ⟨rfl, UInt32.le_refl _⟩

/-! ## Positions at a cut -/

/-- After whole lines and the beginning of another one. -/
theorem after_lines {above front : List Char} (h : IsLines above) (hfront : '\n' ∉ front) :
    after (above ++ front) =
      ⟨clamp (above.count '\n' + 1), clamp (front.length + 1)⟩ := by
  have habove : above.reverse.takeWhile (· != '\n') = [] := by
    obtain rfl | hlast := h
    · rfl
    · obtain ⟨before, rfl⟩ := List.getLast?_eq_some_iff.mp hlast
      simp
  have hline : ∀ c ∈ front.reverse, (c != '\n') = true := by
    intro c hc
    rw [bne_iff_ne]
    rintro rfl
    exact hfront (List.mem_reverse.mp hc)
  rw [after, List.count_append, List.count_eq_zero_of_not_mem hfront, Nat.add_zero,
    List.reverse_append, List.takeWhile_append_of_pos hline, habove, List.append_nil,
    List.length_reverse]

theorem ofOffset_utf8Length {text before : List Char} (h : before <+: text) :
    ofOffset text (utf8Length before) = after before := by
  obtain ⟨rest, rfl⟩ := h
  rw [ofOffset, Text.splitBytes?_append]

/-- Where the text cannot be cut, the position is that of its end. -/
theorem ofOffset_of_not_isBoundary {text : List Char} {n : Nat} (h : ¬ Text.IsBoundary text n) :
    ofOffset text n = after text := by
  rw [Text.isBoundary_iff, Bool.not_eq_true, Option.isSome_eq_false_iff,
    Option.isNone_iff_eq_none] at h
  rw [ofOffset, h]

theorem ofOffset_end (text : List Char) : ofOffset text (utf8Length text) = after text :=
  ofOffset_utf8Length (List.prefix_refl text)

/-- The lines above and the characters before take no more bytes than the text before the cut. -/
theorem count_add_length_le (above front : List Char) :
    above.count '\n' + front.length ≤ utf8Length (above ++ front) := by
  have habove : above.count '\n' ≤ above.length := List.count_le_length
  have hlength := Text.length_le_utf8Length (above ++ front)
  rw [List.length_append] at hlength
  omega

/-- Behind more text, there are more lines above, or as many and more characters before. -/
theorem exists_after_append (before : List Char) {more : List Char} (hmore : more ≠ []) :
    ∃ l c l' c', after before = ⟨clamp (l + 1), clamp (c + 1)⟩ ∧ l + c ≤ utf8Length before ∧
      after (before ++ more) = ⟨clamp (l' + 1), clamp (c' + 1)⟩ ∧
      l' + c' ≤ utf8Length (before ++ more) ∧ (l < l' ∨ l = l' ∧ c < c') := by
  obtain ⟨above, front, rfl, habove, hfront⟩ := exists_lines before
  obtain ⟨between, last, rfl, hbetween, hlast⟩ := exists_lines more
  obtain rfl | hends := hbetween
  · -- no newline: the characters are in the same line
    have hline : '\n' ∉ front ++ last := by
      rw [List.mem_append]
      exact not_or.mpr ⟨hfront, hlast⟩
    rw [List.nil_append] at hmore
    have hpos := List.length_pos_of_ne_nil hmore
    refine ⟨_, _, _, _, after_lines habove hfront, count_add_length_le above front, ?_, ?_,
      .inr ⟨rfl, Nat.lt_add_of_pos_right hpos⟩⟩
    · rw [List.nil_append, List.append_assoc, after_lines habove hline, List.length_append]
    · rw [List.nil_append, List.append_assoc, ← List.length_append]
      exact count_add_length_le above (front ++ last)
  · -- a newline: another line, whatever comes in it
    have hlines : IsLines (above ++ front ++ between) := by
      refine .inr ?_
      obtain ⟨most, rfl⟩ := List.getLast?_eq_some_iff.mp hends
      rw [← List.append_assoc, List.getLast?_concat]
    have hpos : 0 < between.count '\n' := List.count_pos_iff.mpr (List.mem_of_getLast? hends)
    have hcount : above.count '\n' < (above ++ front ++ between).count '\n' := by
      rw [List.count_append, List.count_append]
      omega
    refine ⟨_, _, _, last.length, after_lines habove hfront, count_add_length_le above front,
      ?_, ?_, .inl hcount⟩
    · rw [← List.append_assoc, after_lines hlines hlast]
    · rw [← List.append_assoc]
      exact count_add_length_le (above ++ front ++ between) last

/-- In a text below the limit, positions grow with the text before them. -/
theorem after_lt_after {before more : List Char} (hmore : more ≠ [])
    (h : utf8Length (before ++ more) < limit) : after before < after (before ++ more) := by
  obtain ⟨l, c, l', c', hbefore, hle, hall, hle', hlater⟩ := exists_after_append before hmore
  rw [hbefore, hall, lt_iff]
  rcases hlater with hl | ⟨rfl, hc⟩
  · exact .inl (clamp_lt_clamp (by omega) (by omega))
  · exact .inr ⟨rfl, clamp_lt_clamp (by omega) (by omega)⟩

/-- Beyond the limit they do not fall, as long as the text before the first of them is below it. -/
theorem after_le_after {before : List Char} (h : utf8Length before < limit) (more : List Char) :
    after before ≤ after (before ++ more) := by
  obtain rfl | hmore := eq_or_ne more []
  · rw [List.append_nil]
    exact le_refl _
  obtain ⟨l, c, l', c', hbefore, hle, hall, -, hlater⟩ := exists_after_append before hmore
  rw [hbefore, hall, le_iff]
  rcases hlater with hl | ⟨rfl, hc⟩
  · by_cases hfull : l + 1 < limit
    · exact .inl (clamp_lt_clamp (by omega) hfull)
    · -- every byte was a newline: the line is at the limit, and the column is the first
      obtain rfl : c = 0 := by omega
      have hline : clamp (l + 1) = clamp (l' + 1) := by
        rw [← UInt32.toNat_inj, toNat_clamp, toNat_clamp]
        omega
      have hcolumn : clamp (0 + 1) = 1 := by decide
      exact .inr ⟨hline, by rw [hcolumn]; exact one_le_clamp c'⟩
  · exact .inr ⟨rfl, clamp_le_clamp (by omega)⟩

/-! ## Positions of two offsets -/

theorem ofOffset_lt_ofOffset {text : List Char} {m n : Nat} (hlength : utf8Length text < limit)
    (hm : Text.IsBoundary text m) (hn : Text.IsBoundary text n) (hlt : m < n) :
    ofOffset text m < ofOffset text n := by
  obtain ⟨before, more, rest, rfl, rfl, rfl⟩ := hm.exists_between hn (Nat.le_of_lt hlt)
  have hmore : more ≠ [] := by
    rintro rfl
    simp at hlt
  rw [Text.utf8Length_append] at hlength
  rw [ofOffset_utf8Length (List.prefix_append ..), List.append_assoc,
    ofOffset_utf8Length (List.prefix_append ..)]
  exact after_lt_after hmore (Nat.lt_of_le_of_lt (Nat.le_add_right _ _) hlength)

theorem ofOffset_le_ofOffset {text : List Char} {m n : Nat} (hlimit : n ≤ limit)
    (hm : Text.IsBoundary text m) (hn : Text.IsBoundary text n) (hle : m ≤ n) :
    ofOffset text m ≤ ofOffset text n := by
  obtain rfl | hlt := Nat.eq_or_lt_of_le hle
  · exact le_refl _
  · obtain ⟨before, more, rest, rfl, rfl, rfl⟩ := hm.exists_between hn hle
    rw [ofOffset_utf8Length (List.prefix_append ..), List.append_assoc,
      ofOffset_utf8Length (List.prefix_append ..)]
    exact after_le_after (Nat.lt_of_lt_of_le hlt hlimit) more

theorem ofOffset_le_after {text : List Char} {n : Nat} (hlimit : n < limit)
    (hn : Text.IsBoundary text n) : ofOffset text n ≤ after text := by
  obtain ⟨before, rest, rfl, rfl⟩ := hn
  rw [ofOffset_utf8Length (List.prefix_append ..)]
  exact after_le_after hlimit rest

/-! ## From positions to offsets -/

/-- The offset that a position stands for: past the lines above its line, and past the characters
of this line before its column. -/
def offset? (source : List Char) (p : Position) : Option Nat :=
  match p.line.toNat, p.column.toNat with
  | l + 1, c + 1 =>
    let rows := Text.lines source
    rows[l]?.bind fun row =>
      if c ≤ row.length then some (Text.linesLength (rows.take l) + utf8Length (row.take c))
      else none
  | _, _ => none

/-- The position after a beginning of a text leads back to the end of it. -/
theorem offset?_after {before : List Char} (h : utf8Length before < limit) (rest : List Char) :
    (after before).offset? (before ++ rest) = some (utf8Length before) := by
  obtain ⟨above, front, rfl, habove, hfront⟩ := exists_lines before
  have hcount := count_add_length_le above front
  have hline : (clamp (above.count '\n' + 1)).toNat = above.count '\n' + 1 := by
    rw [toNat_clamp]
    omega
  have hcolumn : (clamp (front.length + 1)).toNat = front.length + 1 := by
    rw [toNat_clamp]
    omega
  obtain ⟨rows, hlength, hbytes, hrows⟩ := Text.exists_lines_append habove
  obtain ⟨tail, more, hrow⟩ := Text.exists_first_line hfront rest
  rw [after_lines habove hfront, offset?, hline, hcolumn, List.append_assoc]
  simp only [hrows, hrow, ← hlength, List.take_left, List.getElem?_append_right (Nat.le_refl _),
    Nat.sub_self, List.getElem?_cons_zero, Option.bind_some, List.length_append]
  rw [if_pos (Nat.le_add_right _ _), hbytes, Text.utf8Length_append]

end Position

/-! ## Positions of offsets -/

open Position (ofOffset)
open Text (IsBoundary IsInside)

/-- In a text of less than `2 ^ 32 - 1` bytes, the position of an offset at which the text can be
cut leads back to it, positions of such offsets are in the order of the offsets, and all offsets
past the end have the position of the end. -/
theorem positions_decode {source : List Char} (h : utf8Length source < 2 ^ 32 - 1) :
    (∀ n, IsBoundary source n → (ofOffset source n).offset? source = some n) ∧
      (∀ m n, IsBoundary source m → IsBoundary source n → m < n →
        ofOffset source m < ofOffset source n) ∧
      ∀ n, utf8Length source < n → ofOffset source n = ofOffset source (utf8Length source) := by
  refine ⟨?_, ?_, ?_⟩
  · rintro n ⟨before, rest, rfl, rfl⟩
    rw [Text.utf8Length_append] at h
    rw [Position.ofOffset_utf8Length (List.prefix_append ..)]
    exact Position.offset?_after (Nat.lt_of_le_of_lt (Nat.le_add_right _ _) h) rest
  · intro m n hm hn hlt
    exact Position.ofOffset_lt_ofOffset h hm hn hlt
  · intro n hn
    have hpast : ¬ IsBoundary source n := fun hb => Nat.not_le_of_lt hn hb.le_utf8Length
    rw [Position.ofOffset_of_not_isBoundary hpast, Position.ofOffset_end]

/-- After a character of two bytes, on the newline, and in the next line. -/
theorem positions_decode_twoLines :
    utf8Length "é\nb".toList < 2 ^ 32 - 1 ∧
      IsBoundary "é\nb".toList 2 ∧ IsBoundary "é\nb".toList 3 ∧
      ofOffset "é\nb".toList 2 = ⟨1, 2⟩ ∧ (⟨1, 2⟩ : Position).offset? "é\nb".toList = some 2 ∧
      ofOffset "é\nb".toList 3 = ⟨2, 1⟩ ∧ (⟨2, 1⟩ : Position).offset? "é\nb".toList = some 3 ∧
      ofOffset "é\nb".toList 2 < ofOffset "é\nb".toList 3 ∧
      ofOffset "é\nb".toList 9 = ofOffset "é\nb".toList 4 := by
  have hlength : utf8Length "é\nb".toList < 2 ^ 32 - 1 := by decide
  have hend : IsBoundary "é\nb".toList 2 := by decide +kernel
  have hnext : IsBoundary "é\nb".toList 3 := by decide +kernel
  have htwo : ofOffset "é\nb".toList 2 = ⟨1, 2⟩ := by decide +kernel
  have hthree : ofOffset "é\nb".toList 3 = ⟨2, 1⟩ := by decide +kernel
  obtain ⟨hback, hlater, hpast⟩ := positions_decode hlength
  refine ⟨hlength, hend, hnext, htwo, ?_, hthree, ?_, hlater 2 3 hend hnext (by decide),
    hpast 9 (by decide)⟩
  · rw [← htwo, hback 2 hend]
  · rw [← hthree, hback 3 hnext]

/-- The position of the earlier of two offsets is not after that of the later one, unless the
earlier one is inside a character and the text can be cut at the later one, before its end. An
offset inside a character has the position of the end, and in a text of less than `2 ^ 32 - 1`
bytes this is after the position of every cut before the end. -/
theorem positions_ordered (source : List Char) {a b : UInt32} (hab : a ≤ b) :
    (¬ (IsInside source a.toNat ∧ IsBoundary source b.toNat ∧ b.toNat < utf8Length source) →
        ofOffset source a.toNat ≤ ofOffset source b.toNat) ∧
      (IsInside source a.toNat →
        ofOffset source a.toNat = ofOffset source (utf8Length source)) ∧
      (utf8Length source < 2 ^ 32 - 1 → IsInside source a.toNat → IsBoundary source b.toNat →
        b.toNat < utf8Length source → ofOffset source b.toNat < ofOffset source a.toNat) := by
  rw [UInt32.le_iff_toNat_le] at hab
  have hlimit : b.toNat ≤ Position.limit := Nat.le_pred_of_lt b.toNat_lt
  have hinside : IsInside source a.toNat →
      ofOffset source a.toNat = ofOffset source (utf8Length source) := by
    rintro ⟨-, hcut⟩
    rw [Position.ofOffset_of_not_isBoundary hcut, Position.ofOffset_end]
  refine ⟨?_, hinside, ?_⟩
  · intro hexcept
    by_cases ha : IsBoundary source a.toNat
    · by_cases hb : IsBoundary source b.toNat
      · exact Position.ofOffset_le_ofOffset hlimit ha hb hab
      · have hne : a.toNat ≠ b.toNat := fun heq => hb (heq ▸ ha)
        rw [Position.ofOffset_of_not_isBoundary hb]
        exact Position.ofOffset_le_after (by omega) ha
    · -- the later offset has the position of the end too
      have hend : ofOffset source b.toNat = Position.after source := by
        by_cases hb : IsBoundary source b.toNat
        · have hle := hb.le_utf8Length
          have heq : b.toNat = utf8Length source := by
            by_contra hne
            exact hexcept ⟨⟨by omega, ha⟩, hb, by omega⟩
          rw [heq, Position.ofOffset_end]
        · exact Position.ofOffset_of_not_isBoundary hb
      rw [hend, Position.ofOffset_of_not_isBoundary ha]
      exact Position.le_refl _
  · intro hlength ha hb hlt
    rw [hinside ha]
    exact Position.ofOffset_lt_ofOffset hlength hb (Text.isBoundary_end source) hlt

/-- In the second of two characters, up to the end, and in the first one, up to the cut behind it. -/
theorem positions_ordered_twoCharacters :
    ofOffset "éx".toList 2 ≤ ofOffset "éx".toList 3 ∧
      IsInside "éx".toList 1 ∧ ofOffset "éx".toList 1 = ofOffset "éx".toList 3 ∧
      ofOffset "éx".toList 2 < ofOffset "éx".toList 1 := by
  have hinside : IsInside "éx".toList 1 := by decide +kernel
  have hcut : IsBoundary "éx".toList 2 := by decide +kernel
  obtain ⟨hle, -, -⟩ := positions_ordered "éx".toList (show (2 : UInt32) ≤ 3 by decide)
  obtain ⟨-, hend, hlt⟩ := positions_ordered "éx".toList (show (1 : UInt32) ≤ 2 by decide)
  exact ⟨hle fun h => h.1.2 hcut, hinside, hend hinside, hlt (by decide) hinside hcut (by decide)⟩

/-- The offset inside the first character of "éx" comes after the one behind this character. -/
theorem not_positions_ordered :
    ¬ ∀ (source : List Char) (a b : UInt32), a ≤ b →
      ofOffset source a.toNat ≤ ofOffset source b.toNat := by
  intro h
  have hbad : ¬ ofOffset "éx".toList 1 ≤ ofOffset "éx".toList 2 := by decide +kernel
  exact hbad (h "éx".toList 1 2 (by decide))

end QuietEmit
