/-
  QuietEmit.Proofs.Path.Bytes

  Paths as bytes and as texts. The UTF-8 form of a text is read as that text
  (`Bytes.lossy_ofText`), and bytes are a text just if they are such a form
  (`Bytes.text?_eq_some_iff`). Reading starts afresh at a slash, whatever comes before
  it (`Bytes.lossy_append_slash`), so the lossy text of a path is made of those of its
  parts.

  A path that is a text has the steps of the text, each spelt byte by byte
  (`OsPath.components_ofPath`). Taking paths apart and joining them leaves no characters
  but those that were there, slashes and dots, so what is spelt byte by byte stays so
  (`OsPath.spelled_clean`, `OsPath.spelled_join`).
-/
import Mathlib.Data.List.Forall2
import QuietEmit.OsPath
import QuietEmit.Proofs.Path.Extension
import QuietEmit.Proofs.Path.Join

namespace QuietEmit

/-! ## Reading bytes -/

namespace Bytes

/-- A byte is in a range. -/
def Continues (range : Nat × Nat) (b : UInt8) : Prop := range.1 ≤ b.toNat ∧ b.toNat ≤ range.2

/-- What the bytes of a character make, after others that made `value`. -/
def valueAfter (value : Nat) (bs : List UInt8) : Nat :=
  bs.foldl (fun value b => value * 64 + b.toNat % 64) value

theorem toNat_ofNat_of_lt {n : Nat} (h : n < 256) : (UInt8.ofNat n).toNat = n := by
  rw [UInt8.toNat_ofNat', Nat.mod_eq_of_lt h]

theorem continues_ofNat {range : Nat × Nat} {n : Nat} (h : range.1 ≤ n ∧ n ≤ range.2)
    (hlt : n < 256) : Continues range (UInt8.ofNat n) := by
  rwa [Continues, toNat_ofNat_of_lt hlt]

section Followers

variable {n : Nat}

theorem followers?_of_two (hlow : 0xC2 ≤ n) (hhigh : n < 0xE0) :
    followers? n = some [(0x80, 0xBF)] := by
  simp only [followers?]
  rw [if_neg (by omega), if_neg (by omega), if_pos hhigh]

theorem followers?_of_three (hlow : 0xE0 ≤ n) (hhigh : n < 0xF0) :
    followers? n = some [(if n = 0xE0 then 0xA0 else 0x80, if n = 0xED then 0x9F else 0xBF),
      (0x80, 0xBF)] := by
  simp only [followers?]
  rw [if_neg (by omega), if_neg (by omega), if_neg (by omega), if_pos hhigh]

theorem followers?_of_four (hlow : 0xF0 ≤ n) (hhigh : n < 0xF5) :
    followers? n = some [(if n = 0xF0 then 0x90 else 0x80, if n = 0xF4 then 0x8F else 0xBF),
      (0x80, 0xBF), (0x80, 0xBF)] := by
  simp only [followers?]
  rw [if_neg (by omega), if_neg (by omega), if_neg (by omega), if_neg (by omega), if_pos hhigh]

end Followers

/-- A character that has begun is complete when all its bytes have come. -/
theorem readFrom_begun {value : Nat} {next : Nat × Nat} {later : List (Nat × Nat)}
    {taken : List UInt8} (h : List.Forall₂ Continues (next :: later) taken) (bs : List UInt8) :
    readFrom (some ⟨value, next, later⟩) (taken ++ bs) =
      Char.ofNat (valueAfter value taken) :: readFrom none bs := by
  induction later generalizing value next taken with
  | nil =>
      obtain ⟨b, _, hb, hrest, rfl⟩ := List.forall₂_cons_left_iff.mp h
      obtain rfl := List.forall₂_nil_left_iff.mp hrest
      have hrange : next.1 ≤ b.toNat ∧ b.toNat ≤ next.2 := hb
      simp [readFrom, readByte, hrange, valueAfter]
  | cons second later ih =>
      obtain ⟨b, rest, hb, hrest, rfl⟩ := List.forall₂_cons_left_iff.mp h
      have hrange : next.1 ≤ b.toNat ∧ b.toNat ≤ next.2 := hb
      rw [List.cons_append, readFrom]
      simp only [readByte, if_pos hrange, List.nil_append]
      exact ih hrest

/-- A first byte and all that follow it are read as one character. -/
theorem readFrom_sequence {first : Nat} {next : Nat × Nat} {later : List (Nat × Nat)}
    {taken : List UInt8} (hlt : first < 256) (hfirst : followers? first = some (next :: later))
    (h : List.Forall₂ Continues (next :: later) taken) (bs : List UInt8) :
    readFrom none (UInt8.ofNat first :: taken ++ bs) =
      Char.ofNat (valueAfter (first % (0x20 >>> later.length)) taken) :: readFrom none bs := by
  rw [List.cons_append, readFrom]
  simp only [readByte, readFirst, toNat_ofNat_of_lt hlt, hfirst, List.nil_append]
  exact readFrom_begun h bs

/-- The UTF-8 form of a character, as numbers. -/
theorem utf8EncodeChar_eq (c : Char) :
    String.utf8EncodeChar c =
      if c.toNat ≤ 0x7F then [UInt8.ofNat c.toNat]
      else if c.toNat ≤ 0x7FF then
        [UInt8.ofNat (c.toNat / 64 % 32 + 0xC0), UInt8.ofNat (c.toNat % 64 + 0x80)]
      else if c.toNat ≤ 0xFFFF then
        [UInt8.ofNat (c.toNat / 4096 % 16 + 0xE0), UInt8.ofNat (c.toNat / 64 % 64 + 0x80),
          UInt8.ofNat (c.toNat % 64 + 0x80)]
      else
        [UInt8.ofNat (c.toNat / 262144 % 8 + 0xF0), UInt8.ofNat (c.toNat / 4096 % 64 + 0x80),
          UInt8.ofNat (c.toNat / 64 % 64 + 0x80), UInt8.ofNat (c.toNat % 64 + 0x80)] :=
  rfl

/-- A byte that is made to follow another one does follow it. -/
theorem continues_tail (n : Nat) : Continues (0x80, 0xBF) (UInt8.ofNat (n % 64 + 0x80)) :=
  continues_ofNat (by omega) (by omega)

/-- And it has the six bits that it was made of. -/
theorem toNat_tail (n : Nat) : (UInt8.ofNat (n % 64 + 0x80)).toNat % 64 = n % 64 := by
  rw [toNat_ofNat_of_lt (by omega)]
  omega

/-- The UTF-8 form of a character is read as that character. -/
theorem readFrom_utf8EncodeChar (c : Char) (bs : List UInt8) :
    readFrom none (String.utf8EncodeChar c ++ bs) = c :: readFrom none bs := by
  have hvalid : c.toNat < 0xD800 ∨ (0xDFFF < c.toNat ∧ c.toNat < 0x110000) := c.valid
  have hback : Char.ofNat c.toNat = c := Char.ofNat_toNat c
  rw [utf8EncodeChar_eq]
  generalize c.toNat = v at *
  subst hback
  -- one case for each number of bytes; the second byte has a range of its own
  split_ifs with hone htwo hthree
  · rw [List.singleton_append, readFrom, readByte, readFirst, toNat_ofNat_of_lt (by omega),
      followers?, if_pos (by omega)]
    rfl
  · rw [readFrom_sequence (by omega) (followers?_of_two (by omega) (by omega))
      (.cons (continues_tail _) .nil)]
    simp only [valueAfter, List.foldl_cons, List.foldl_nil, List.length_nil, toNat_tail,
      Nat.reduceShiftRight]
    congr 2
    omega
  · rw [readFrom_sequence (by omega) (followers?_of_three (by omega) (by omega))
      (.cons (continues_ofNat (by split_ifs <;> omega) (by omega))
        (.cons (continues_tail _) .nil))]
    simp only [valueAfter, List.foldl_cons, List.foldl_nil, List.length_cons, List.length_nil,
      toNat_tail, Nat.reduceAdd, Nat.reduceShiftRight]
    congr 2
    omega
  · rw [readFrom_sequence (by omega) (followers?_of_four (by omega) (by omega))
      (.cons (continues_ofNat (by split_ifs <;> omega) (by omega))
        (.cons (continues_tail _) (.cons (continues_tail _) .nil)))]
    simp only [valueAfter, List.foldl_cons, List.foldl_nil, List.length_cons, List.length_nil,
      toNat_tail, Nat.reduceAdd, Nat.reduceShiftRight]
    congr 2
    omega

theorem readFrom_flatMap (cs : List Char) :
    readFrom none (cs.flatMap String.utf8EncodeChar) = cs := by
  induction cs with
  | nil => rfl
  | cons c cs ih => rw [List.flatMap_cons, readFrom_utf8EncodeChar, ih]

@[simp] theorem ofText_append (s t : String) : ofText (s ++ t) = ofText s ++ ofText t := by
  simp [ofText]

/-- The UTF-8 form of a text is read as that text. -/
@[simp] theorem lossy_ofText (s : String) : lossy (ofText s) = s := by
  rw [lossy, ofText, readFrom_flatMap, String.ofList_toList]

/-- Bytes are a text just if they are its UTF-8 form. -/
theorem text?_eq_some_iff {bs : List UInt8} {s : String} : text? bs = some s ↔ bs = ofText s := by
  rw [text?]
  constructor
  · intro h
    split at h
    · next hform => rw [← Option.some.inj h, hform]
    · cases h
  · rintro rfl
    rw [lossy_ofText, if_pos rfl]

@[simp] theorem text?_ofText (s : String) : text? (ofText s) = some s := text?_eq_some_iff.mpr rfl

theorem ofText_injective {s t : String} (h : ofText s = ofText t) : s = t := by
  rw [← lossy_ofText s, h, lossy_ofText]

/-! ## Starting afresh -/

/-- Only bytes above the characters of one byte are still to come. -/
def Begun.Above (c : Begun) : Prop := ∀ range ∈ c.next :: c.later, 0x80 ≤ range.1

theorem le_of_mem_followers? {n : Nat} {ranges : List (Nat × Nat)}
    (h : followers? n = some ranges) : ∀ range ∈ ranges, 0x80 ≤ range.1 := by
  simp only [followers?] at h
  split_ifs at h <;> cases h <;> simp

theorem above_of_readFirst {b : UInt8} {c : Begun} (h : (readFirst b).2 = some c) : c.Above := by
  rw [readFirst] at h
  split at h
  · cases h
  · cases h
  · next next later hfollowers =>
      cases h
      exact le_of_mem_followers? hfollowers

/-- Reading a byte preserves it. -/
theorem above_of_readByte {begun : Option Begun} (habove : ∀ c ∈ begun, c.Above) {b : UInt8}
    {c : Begun} (h : (readByte begun b).2 = some c) : c.Above := by
  unfold readByte at h
  split at h
  · exact above_of_readFirst h
  · next d =>
      split at h
      · dsimp only at h
        split at h
        · cases h
        · next next later hlater =>
            cases h
            have hd := habove d rfl
            rw [Begun.Above, hlater] at hd
            exact fun range hrange => hd range (List.mem_cons_of_mem _ hrange)
      · exact above_of_readFirst h

/-- Nothing that has begun goes on with a slash. -/
theorem readByte_slash {c : Begun} (h : c.Above) :
    readByte (some c) 0x2F = ([replacement, '/'], none) := by
  have hnext : ¬ (c.next.1 ≤ (0x2F : UInt8).toNat ∧ (0x2F : UInt8).toNat ≤ c.next.2) := by
    have hlow := h c.next List.mem_cons_self
    have hslash : (0x2F : UInt8).toNat = 0x2F := rfl
    omega
  rw [readByte]
  dsimp only
  rw [if_neg hnext]
  rfl

/-- What comes after a slash is read as if nothing came before. -/
theorem readFrom_append_slash (begun : Option Begun) (habove : ∀ c ∈ begun, c.Above)
    (a b : List UInt8) :
    readFrom begun (a ++ 0x2F :: b) = readFrom begun a ++ '/' :: readFrom none b := by
  -- along the bytes before the slash; `habove` holds of whatever has begun when it comes
  induction a generalizing begun with
  | nil =>
      rw [List.nil_append, readFrom]
      cases begun with
      | none => rfl
      | some c =>
          rw [readByte_slash (habove c rfl)]
          rfl
  | cons first a ih =>
      rw [List.cons_append, readFrom, readFrom]
      dsimp only
      rw [ih _ fun c hc => above_of_readByte habove hc, List.append_assoc]

theorem lossy_append_slash (a b : List UInt8) :
    lossy (a ++ 0x2F :: b) = lossy a ++ "/" ++ lossy b := by
  rw [lossy, readFrom_append_slash none (by simp), ← String.toList_inj]
  simp [lossy]

/-- Bytes that have come are not left unread. -/
theorem readFrom_some_ne_nil (c : Begun) (bs : List UInt8) : readFrom (some c) bs ≠ [] := by
  induction bs generalizing c with
  | nil => simp [readFrom]
  | cons b bs ih =>
      rw [readFrom, readByte]
      split_ifs
      · dsimp only
        cases c.later with
        | nil => simp
        | cons next later => exact ih _
      · simp

theorem lossy_eq_empty_iff {bs : List UInt8} : lossy bs = "" ↔ bs = [] := by
  cases bs with
  | nil => simp [lossy, readFrom]
  | cons b bs =>
      have hne : readFrom none (b :: bs) ≠ [] := by
        rw [readFrom]
        dsimp only [readByte, readFirst]
        split
        · simp
        · simp
        · exact readFrom_some_ne_nil _ _
      simp [lossy, ← String.toList_inj, hne]

/-! ## Spelling byte by byte -/

@[simp] theorem spell_append (a b : List UInt8) : spell (a ++ b) = spell a ++ spell b := by
  rw [spell, List.map_append, String.ofList_append]
  rfl

@[simp] theorem ofSpelled_spell (bs : List UInt8) : ofSpelled (spell bs) = bs := by
  have hback : (Char.toUInt8 ∘ Char.ofUInt8) = id := by
    funext b
    exact UInt8.toUInt8_toUInt32 b
  rw [ofSpelled, spell, String.toList_ofList, List.map_map, hback, List.map_id]

theorem spell_ofSpelled {s : String} (h : ∀ c ∈ s.toList, c.toNat < 256) :
    spell (ofSpelled s) = s := by
  have hback : ∀ c ∈ s.toList, (Char.ofUInt8 ∘ Char.toUInt8) c = c := fun c hc =>
    Char.toNat_inj.mp (Nat.mod_eq_of_lt (h c hc))
  rw [spell, ofSpelled, List.map_map, List.map_congr_left hback, List.map_id', String.ofList_toList]

theorem toNat_lt_of_mem_spell {bs : List UInt8} {c : Char} (h : c ∈ (spell bs).toList) :
    c.toNat < 256 := by
  rw [spell, String.toList_ofList, List.mem_map] at h
  obtain ⟨b, -, rfl⟩ := h
  exact b.toNat_lt

/-- The bytes of a character, spelt. -/
def units (c : Char) : List Char := (String.utf8EncodeChar c).map Char.ofUInt8

/-- The UTF-8 form of a text, spelt. -/
def spelt (cs : List Char) : List Char := cs.flatMap units

theorem spell_ofText (s : String) : spell (ofText s) = String.ofList (spelt s.toList) := by
  rw [spell, ofText, List.map_flatMap]
  rfl

theorem units_of_lt {c : Char} (h : c.toNat < 0x80) : units c = [c] := by
  have hchar : Char.ofUInt8 (UInt8.ofNat c.toNat) = c :=
    Char.toNat_inj.mp (toNat_ofNat_of_lt (Nat.lt_trans h (by decide)))
  rw [units, utf8EncodeChar_eq, if_pos (Nat.le_of_lt_succ h), List.map_cons, List.map_nil, hchar]

/-- Characters of several bytes have none that is a character of one byte. -/
theorem le_of_mem_units {c d : Char} (h : 0x80 ≤ c.toNat) (hd : d ∈ units c) : 0x80 ≤ d.toNat := by
  have hbyte : ∀ n low, 0x80 ≤ low → n + low < 256 →
      0x80 ≤ (Char.ofUInt8 (UInt8.ofNat (n + low))).toNat := by
    intro n low hlow hlt
    show 0x80 ≤ (UInt8.ofNat (n + low)).toNat
    rw [toNat_ofNat_of_lt hlt]
    omega
  rw [units, utf8EncodeChar_eq, if_neg (Nat.not_le.mpr h)] at hd
  -- each byte is a remainder and a mark: 0xC0, 0xE0 or 0xF0 in front, 0x80 behind
  split_ifs at hd <;>
    simp only [List.map_cons, List.map_nil, List.mem_cons, List.not_mem_nil, or_false] at hd <;>
    rcases hd with rfl | rfl | rfl | rfl <;>
    exact hbyte _ _ (by omega) (by omega)

theorem units_ne_nil (c : Char) : units c ≠ [] := by
  rw [units, utf8EncodeChar_eq]
  split_ifs <;> simp

@[simp] theorem spelt_nil : spelt [] = [] := rfl

theorem spelt_cons (c : Char) (cs : List Char) : spelt (c :: cs) = units c ++ spelt cs := rfl

@[simp] theorem spelt_append (a b : List Char) : spelt (a ++ b) = spelt a ++ spelt b :=
  List.flatMap_append

@[simp] theorem spelt_slash (cs : List Char) : spelt ('/' :: cs) = '/' :: spelt cs := rfl

/-- Spelling leaves the characters of one byte where they are, and makes no others. -/
theorem mem_spelt_iff {cs : List Char} {c : Char} (hc : c.toNat < 0x80) :
    c ∈ spelt cs ↔ c ∈ cs := by
  rw [spelt, List.mem_flatMap]
  constructor
  · rintro ⟨d, hd, hmem⟩
    by_cases hlt : d.toNat < 0x80
    · rw [units_of_lt hlt, List.mem_singleton] at hmem
      exact hmem ▸ hd
    · have hle := le_of_mem_units (Nat.le_of_not_lt hlt) hmem
      omega
  · exact fun h => ⟨c, h, by rw [units_of_lt hc]; exact List.mem_singleton_self c⟩

theorem spelt_injective {a b : List Char} (h : spelt a = spelt b) : a = b := by
  have hspell : spell (ofText (String.ofList a)) = spell (ofText (String.ofList b)) := by
    simp only [spell_ofText, String.toList_ofList, h]
  have hbytes := congrArg ofSpelled hspell
  rw [ofSpelled_spell, ofSpelled_spell] at hbytes
  exact String.ofList_inj.mp (ofText_injective hbytes)

theorem spelt_intercalate (parts : List (List Char)) :
    spelt (['/'].intercalate parts) = ['/'].intercalate (parts.map spelt) := by
  induction parts with
  | nil => rfl
  | cons part parts ih =>
      cases parts with
      | nil => simp
      | cons next parts =>
          rw [List.intercalate_cons_cons, List.map_cons, List.map_cons, List.intercalate_cons_cons,
            spelt_append, spelt_append, ih]
          rfl

theorem splitOn_spelt (cs : List Char) : (spelt cs).splitOn '/' = (cs.splitOn '/').map spelt := by
  have hslash : ∀ part ∈ (cs.splitOn '/').map spelt, '/' ∉ part := by
    rw [List.forall_mem_map]
    intro part hpart
    rw [mem_spelt_iff (by decide)]
    exact Path.slash_notMem_of_mem_splitOn hpart
  have hne : (cs.splitOn '/').map spelt ≠ [] := by simp [List.splitOn_ne_nil]
  rw [← List.splitOn_intercalate '/' hslash hne, ← spelt_intercalate, List.intercalate_splitOn]

end Bytes

open Bytes (spelt)

/-! ## Steps of a text -/

/-- A step with its name spelt byte by byte. -/
def Component.spelled : Component → Component
  | .name s => .name (Bytes.spell (Bytes.ofText s))
  | c => c

/-- The name of a step that is a text is read as that text. -/
@[simp] theorem Component.read?_spelled (c : Component) : c.spelled.read? = some c := by
  cases c <;> simp [spelled, read?]

theorem Component.spelled_injective : Function.Injective Component.spelled := by
  intro c d h
  have hread := congrArg read? h
  rw [read?_spelled, read?_spelled] at hread
  exact Option.some.inj hread

namespace Path

theorem spelt_eq_iff {part : List Char} {c : Char} (hc : c.toNat < 0x80) :
    spelt part = [c] ↔ part = [c] := by
  have hsingle : spelt [c] = [c] := by
    rw [Bytes.spelt_cons, Bytes.units_of_lt hc, Bytes.spelt_nil]
    rfl
  constructor
  · intro h
    exact Bytes.spelt_injective (h.trans hsingle.symm)
  · rintro rfl
    exact hsingle

theorem spelt_eq_nil_iff {part : List Char} : spelt part = [] ↔ part = [] := by
  constructor
  · exact fun h => Bytes.spelt_injective (h.trans Bytes.spelt_nil.symm)
  · rintro rfl
    rfl

theorem isIdle_spelt (part : List Char) : isIdle (spelt part) = isIdle part := by
  rw [Bool.eq_iff_iff]
  simp [isIdle, spelt_eq_nil_iff, spelt_eq_iff (c := '.') (by decide)]

theorem componentOf_spelt (part : List Char) :
    componentOf (spelt part) = (componentOf part).spelled := by
  have hup : spelt part = ['.', '.'] ↔ part = ['.', '.'] :=
    ⟨fun h => Bytes.spelt_injective h, fun h => by rw [h]; rfl⟩
  have hhere : spelt part = ['.'] ↔ part = ['.'] := spelt_eq_iff (by decide)
  simp only [componentOf, beq_iff_eq, hup, hhere]
  split_ifs
  · rfl
  · rfl
  · rw [Component.spelled, Bytes.spell_ofText, String.toList_ofList]

theorem steps_spelt (parts : List (List Char)) :
    steps (parts.map spelt) = (steps parts).map Component.spelled := by
  have hidle : (fun part => !isIdle part) ∘ spelt = fun part => !isIdle part := by
    funext part
    simp [isIdle_spelt]
  rw [steps, steps, List.filter_map, hidle, List.map_map, List.map_map]
  exact List.map_congr_left fun part _ => componentOf_spelt part

theorem stepsFrom_spelt (absolute : Bool) (parts : List (List Char)) :
    stepsFrom absolute (parts.map spelt) = (stepsFrom absolute parts).map Component.spelled := by
  cases absolute with
  | true => simp [stepsFrom, steps_spelt, Component.spelled]
  | false =>
      by_cases hdot : ∃ rest, parts = ['.'] :: rest
      · obtain ⟨rest, rfl⟩ := hdot
        have hsingle : spelt ['.'] = ['.'] := rfl
        simp [stepsFrom, hsingle, steps_spelt, Component.spelled]
      · have hne : ∀ rest, parts ≠ ['.'] :: rest := fun rest h => hdot ⟨rest, h⟩
        have hne' : ∀ rest, parts.map spelt ≠ ['.'] :: rest := by
          intro rest h
          obtain ⟨first, others, rfl, hfirst, -⟩ := List.map_eq_cons_iff.mp h
          exact hne others (by rw [(spelt_eq_iff (by decide)).mp hfirst])
        rw [stepsFrom_false_of_ne hne, stepsFrom_false_of_ne hne', steps_spelt]

end Path

namespace OsPath

section Texts

variable (p q : Path)

theorem text_spelled : (p : OsPath).spelled.text.toList = spelt p.text.toList := by
  rw [spelled, ofPath, ofText, Bytes.spell_ofText, String.toList_ofList]

@[simp] theorem isAbsolute_spelled : (p : OsPath).spelled.isAbsolute = p.isAbsolute := by
  rw [Path.isAbsolute, Path.isAbsolute, text_spelled]
  cases htext : p.text.toList with
  | nil => rfl
  | cons c cs =>
      by_cases hc : c = '/'
      · subst hc
        rfl
      · have hne : (spelt (c :: cs)).head? ≠ some '/' := by
          rw [Bytes.spelt_cons, List.head?_append_of_ne_nil _ (Bytes.units_ne_nil c)]
          intro hhead
          have hmem : '/' ∈ spelt [c] := by
            simpa [Bytes.spelt_cons] using List.mem_of_head? hhead
          exact hc (by simpa [eq_comm] using (Bytes.mem_spelt_iff (by decide)).mp hmem)
        rw [List.head?_cons, beq_eq_false_iff_ne.mpr hne,
          beq_eq_false_iff_ne.mpr (by simpa using hc)]

@[simp] theorem isAbsolute_ofPath : (p : OsPath).isAbsolute = p.isAbsolute := isAbsolute_spelled p

@[simp] theorem parts_spelled : (p : OsPath).spelled.parts = p.parts.map spelt := by
  obtain ⟨cs, hcs⟩ := Path.exists_toList_eq p
  have hspelled : (p : OsPath).spelled.text.toList =
      if (p : OsPath).spelled.isAbsolute then '/' :: spelt cs else spelt cs := by
    rw [text_spelled, hcs, isAbsolute_spelled]
    split <;> simp
  rw [Path.parts_of_toList hspelled, Path.parts_of_toList hcs, Bytes.splitOn_spelt]

/-- A path that is a text has the steps of the text. -/
theorem components_ofPath : (p : OsPath).components = p.components.map Component.spelled := by
  rw [components, Path.components_eq, Path.components_eq, isAbsolute_spelled, parts_spelled,
    Path.stepsFrom_spelt]

theorem startsWith_ofPath : (p : OsPath).startsWith q = p.startsWith q := by
  rw [startsWith, Path.startsWith, Path.startsWith, Bool.eq_iff_iff, List.isPrefixOf_iff_prefix,
    List.isPrefixOf_iff_prefix]
  show (q : OsPath).components <+: (p : OsPath).components ↔ _
  rw [components_ofPath, components_ofPath,
    List.prefix_map_iff_of_injective Component.spelled_injective]

theorem fileName_spelled :
    (p : OsPath).spelled.fileName = p.fileName.map fun s => Bytes.spell (Bytes.ofText s) := by
  have hlast := congrArg List.getLast? (components_ofPath p)
  rw [components, List.getLast?_map] at hlast
  rw [Path.fileName, Path.fileName, hlast]
  cases p.components.getLast? with
  | none => rfl
  | some c => cases c <;> rfl

@[simp] theorem fileName_ofPath : (p : OsPath).fileName = p.fileName := by
  rw [fileName, fileName_spelled]
  cases p.fileName <;> simp

/-- A name is split just if it has a dot after its first character. -/
theorem isSome_splitLastDot (s : String) :
    (Path.splitLastDot s).isSome = true ↔ '.' ∈ s.toList.tail := by
  rw [Option.isSome_iff_exists]
  constructor
  · rintro ⟨⟨a, b⟩, h⟩
    obtain ⟨rfl, ha, -⟩ := Path.splitLastDot_eq_some_iff.mp h
    obtain ⟨first, rest, hfirst⟩ := List.exists_cons_of_ne_nil (l := a.toList) (by simpa using ha)
    simp [hfirst]
  · intro h
    obtain ⟨first, rest, htext⟩ : ∃ first rest, s.toList = first :: rest := by
      cases htext : s.toList with
      | nil => simp [htext] at h
      | cons first rest => exact ⟨first, rest, rfl⟩
    rw [htext, List.tail_cons, ← List.mem_reverse] at h
    obtain ⟨after, before, hrest, hlast⟩ := List.eq_append_cons_of_mem h
    refine ⟨(String.ofList (first :: before.reverse), String.ofList after.reverse),
      Path.splitLastDot_eq_some_iff.mpr ⟨?_, ?_, by simpa using hlast⟩⟩
    · rw [← String.toList_inj, htext, List.reverse_eq_iff.mp hrest]
      simp
    · simp [← String.toList_inj]

/-- A name that is spelt is split where the name is. -/
theorem splitLastDot_spell (s : String) :
    Path.splitLastDot (Bytes.spell (Bytes.ofText s)) = (Path.splitLastDot s).map fun (a, b) =>
      (Bytes.spell (Bytes.ofText a), Bytes.spell (Bytes.ofText b)) := by
  cases hsplit : Path.splitLastDot s with
  | some parts =>
      obtain ⟨a, b⟩ := parts
      obtain ⟨rfl, ha, hb⟩ := Path.splitLastDot_eq_some_iff.mp hsplit
      refine Path.splitLastDot_eq_some_iff.mpr ⟨?_, ?_, ?_⟩
      · rw [Bytes.spell_ofText, Bytes.spell_ofText, Bytes.spell_ofText, ← String.toList_inj]
        simp only [String.toList_append, String.toList_ofList, Bytes.spelt_append]
        rfl
      · intro hempty
        have hnil := congrArg String.toList hempty
        rw [Bytes.spell_ofText, String.toList_ofList] at hnil
        exact ha (String.toList_eq_nil_iff.mp (Path.spelt_eq_nil_iff.mp hnil))
      · rw [Bytes.spell_ofText, String.toList_ofList, Bytes.mem_spelt_iff (by decide)]
        exact hb
  | none =>
      -- a dot after the first unit would be one after the first character
      rw [Option.map_none, ← Option.not_isSome_iff_eq_none, isSome_splitLastDot, Bytes.spell_ofText,
        String.toList_ofList]
      have hnot : '.' ∉ s.toList.tail := by
        rw [← isSome_splitLastDot, hsplit]
        simp
      cases htext : s.toList with
      | nil => simp
      | cons first rest =>
          rw [htext, List.tail_cons] at hnot
          rw [Bytes.spelt_cons]
          by_cases hlt : first.toNat < 0x80
          · rw [Bytes.units_of_lt hlt, List.singleton_append, List.tail_cons,
              Bytes.mem_spelt_iff (by decide)]
            exact hnot
          · intro hmem
            rcases List.mem_append.mp (List.mem_of_mem_tail hmem) with hunit | hrest
            · exact absurd (Bytes.le_of_mem_units (Nat.le_of_not_lt hlt) hunit) (by decide)
            · exact hnot ((Bytes.mem_spelt_iff (by decide)).mp hrest)

@[simp] theorem extension_ofPath : (p : OsPath).extension = p.extension := by
  rw [extension, Path.extension, Path.extension, fileName_spelled]
  cases p.fileName with
  | none => rfl
  | some s =>
      rw [Option.map_some, Option.bind_some, Option.bind_some, splitLastDot_spell]
      cases Path.splitLastDot s <;> simp

end Texts

end OsPath

/-! ## Characters that stay -/

namespace Path

/-- Taking a step leaves steps taken before, apart from that one. -/
theorem mem_pushStep {taken : List Component} {step c : Component} (h : c ∈ pushStep taken step) :
    c ∈ taken ∨ c = step := by
  cases step with
  | root | name => simpa [pushStep, or_comm] using h
  | here => exact .inl h
  | up =>
      rcases taken with _ | ⟨last, before⟩
      · exact .inr (List.mem_singleton.mp h)
      · cases last with
        | root => exact .inl h
        | name s => exact .inl (List.mem_cons_of_mem _ h)
        | here | up => simpa [pushStep, or_comm, or_assoc] using h

/-- A normal form is made of steps of the path. -/
theorem mem_normalize {cs : List Component} {c : Component} (h : c ∈ normalize cs) : c ∈ cs := by
  have hfold : ∀ (cs taken : List Component), c ∈ cs.foldl pushStep taken → c ∈ taken ∨ c ∈ cs := by
    intro cs
    induction cs with
    | nil => exact fun taken hc => .inl hc
    | cons step cs ih =>
        intro taken hc
        rcases ih _ hc with hpushed | hrest
        · rcases mem_pushStep hpushed with htaken | rfl
          · exact .inl htaken
          · exact .inr List.mem_cons_self
        · exact .inr (List.mem_cons_of_mem _ hrest)
  simpa using hfold cs [] (List.mem_reverse.mp h)

/-- A name among the steps is one of the parts. -/
theorem mem_parts_of_name {p : Path} {s : String} (h : .name s ∈ p.components) :
    s.toList ∈ p.parts := by
  have hsteps : ∀ parts : List (List Char), .name s ∈ steps parts → s.toList ∈ parts := by
    intro parts hmem
    obtain ⟨part, hpart, hname⟩ := List.mem_map.mp hmem
    obtain ⟨hin, hidle⟩ := List.mem_filter.mp hpart
    obtain ⟨rfl, -⟩ := (componentOf_eq_name_iff (by simpa using hidle)).mp hname
    exact hin
  rw [components_eq] at h
  unfold stepsFrom at h
  split at h
  · exact hsteps _ (by simpa using h)
  · split at h
    · next rest hparts => exact hparts ▸ List.mem_cons_of_mem _ (hsteps rest (by simpa using h))
    · exact hsteps _ h

theorem mem_ofComponents {cs : List Component} {c : Char} (h : c ∈ (ofComponents cs).text.toList)
    (hc : c ≠ '/') : ∃ step ∈ cs, c ∈ step.text.toList := by
  have hmem : ∀ steps : List Component, c ∈ ("/".intercalate (steps.map Component.text)).toList →
      ∃ step ∈ steps, c ∈ step.text.toList := by
    intro steps hin
    rw [String.toList_intercalate] at hin
    obtain ⟨part, hpart, hin⟩ := (mem_intercalate_iff hc).mp hin
    simp only [List.map_map, List.mem_map, Function.comp_apply] at hpart
    obtain ⟨step, hstep, rfl⟩ := hpart
    exact ⟨step, hstep, hin⟩
  unfold ofComponents at h
  split at h
  · next rest =>
      rw [String.toList_append, List.mem_append] at h
      rcases h with hslash | hrest
      · exact absurd (by simpa using hslash) hc
      · obtain ⟨step, hstep, hin⟩ := hmem rest hrest
        exact ⟨step, List.mem_cons_of_mem _ hstep, hin⟩
  · exact hmem cs h

section Characters

variable {p r : Path} {c : Char}

theorem mem_of_mem_clean (h : c ∈ p.clean.text.toList) (hslash : c ≠ '/') (hdot : c ≠ '.') :
    c ∈ p.text.toList := by
  rw [clean] at h
  split at h
  · exact absurd (by simpa using h) hdot
  · obtain ⟨step, hstep, hin⟩ := mem_ofComponents h hslash
    cases step with
    | root | here | up => simp [Component.text, hslash, hdot] at hin
    | name s =>
        exact (exists_mem_parts_iff hslash).mp ⟨_, mem_parts_of_name (mem_normalize hstep), hin⟩

theorem mem_of_mem_join (h : c ∈ (p.join r).text.toList) (hslash : c ≠ '/') :
    c ∈ p.text.toList ∨ c ∈ r.text.toList := by
  rw [join] at h
  split_ifs at h
  · exact .inr h
  · simpa using h
  · simpa [hslash] using h

end Characters

end Path

namespace OsPath

/-! ## Spelt paths -/

theorem toNat_lt_of_mem_spelled (p : OsPath) {c : Char} (h : c ∈ p.spelled.text.toList) :
    c.toNat < 256 :=
  Bytes.toNat_lt_of_mem_spell h

@[simp] theorem ofSpelled_spelled (p : OsPath) : ofSpelled p.spelled = p := by
  rw [ofSpelled, spelled, Bytes.ofSpelled_spell]

theorem spelled_injective {p q : OsPath} (h : p.spelled = q.spelled) : p = q := by
  rw [← ofSpelled_spelled p, h, ofSpelled_spelled]

/-- Slashes and dots apart, the characters that a path has need to spell bytes. -/
theorem spelled_ofSpelled {p : Path}
    (h : ∀ c ∈ p.text.toList, c ≠ '/' → c ≠ '.' → c.toNat < 256) : (ofSpelled p).spelled = p := by
  have hbytes : ∀ c ∈ p.text.toList, c.toNat < 256 := by
    intro c hc
    by_cases hslash : c = '/'
    · exact hslash ▸ (by decide)
    · by_cases hdot : c = '.'
      · exact hdot ▸ (by decide)
      · exact h c hc hslash hdot
  rw [spelled, ofSpelled, Bytes.spell_ofSpelled hbytes]

@[simp] theorem spelled_clean (p : OsPath) : p.clean.spelled = p.spelled.clean :=
  spelled_ofSpelled fun _ hc hslash hdot =>
    p.toNat_lt_of_mem_spelled (Path.mem_of_mem_clean hc hslash hdot)

@[simp] theorem spelled_join (p r : OsPath) : (p.join r).spelled = p.spelled.join r.spelled :=
  spelled_ofSpelled fun _ hc hslash _ =>
    (Path.mem_of_mem_join hc hslash).elim p.toNat_lt_of_mem_spelled r.toNat_lt_of_mem_spelled

/-- What is left below a base is spelt as it is left of what is spelt. -/
theorem spelled_of_below? {p base r : OsPath} (h : p.below? base = some r) :
    p.spelled.below? base.spelled = some r.spelled := by
  rw [below?, Option.map_eq_some_iff] at h
  obtain ⟨rest, hrest, rfl⟩ := h
  rw [hrest, spelled_ofSpelled fun _ hc hslash _ =>
    p.toNat_lt_of_mem_spelled (Path.mem_of_below? hrest hslash hc)]

/-- A path whose components begin with those of a base is below it by the components that are
left. -/
theorem exists_below? {p base : OsPath} {rest : List Component}
    (h : p.components = base.components ++ rest) :
    ∃ r, p.below? base = some r ∧ r.components = rest := by
  obtain ⟨r, hr, rfl⟩ := Path.exists_below? h
  have hbelow : p.below? base = some (ofSpelled r) := by rw [below?, hr, Option.map_some]
  have hspelled : r = (ofSpelled r).spelled :=
    Option.some.inj (hr.symm.trans (spelled_of_below? hbelow))
  exact ⟨ofSpelled r, hbelow, congrArg Path.components hspelled.symm⟩

/-! ## Normal forms of texts -/

theorem text_spelled_component (c : Component) :
    c.spelled.text = Bytes.spell (Bytes.ofText c.text) := by
  cases c with
  | name s => rfl
  | root | here | up => rw [Bytes.spell_ofText]; rfl

theorem pushStep_spelled (taken : List Component) (c : Component) :
    Path.pushStep (taken.map Component.spelled) c.spelled =
      (Path.pushStep taken c).map Component.spelled := by
  cases c with
  | root | here | name => rfl
  | up =>
      cases taken with
      | nil => rfl
      | cons last before => cases last <;> rfl

theorem normalize_spelled (cs : List Component) :
    Path.normalize (cs.map Component.spelled) = (Path.normalize cs).map Component.spelled := by
  have hfold : ∀ (cs taken : List Component),
      (cs.map Component.spelled).foldl Path.pushStep (taken.map Component.spelled) =
        (cs.foldl Path.pushStep taken).map Component.spelled := by
    intro cs
    induction cs with
    | nil => exact fun _ => rfl
    | cons c cs ih =>
        intro taken
        rw [List.map_cons, List.foldl_cons, pushStep_spelled, ih, List.foldl_cons]
  have hempty := hfold cs []
  rw [List.map_nil] at hempty
  rw [Path.normalize, Path.normalize, hempty, List.map_reverse]

theorem ofComponents_spelled (cs : List Component) :
    Path.ofComponents (cs.map Component.spelled) = (Path.ofComponents cs : OsPath).spelled := by
  have hnames : ∀ steps : List Component,
      ("/".intercalate ((steps.map Component.spelled).map Component.text)).toList =
        spelt ("/".intercalate (steps.map Component.text)).toList := by
    intro steps
    have hslash : "/".toList = ['/'] := rfl
    rw [String.toList_intercalate, String.toList_intercalate, hslash, Bytes.spelt_intercalate,
      List.map_map, List.map_map, List.map_map, List.map_map]
    refine congrArg _ (List.map_congr_left fun c _ => ?_)
    rw [Function.comp_apply, Function.comp_apply, Function.comp_apply, Function.comp_apply,
      text_spelled_component, Bytes.spell_ofText, String.toList_ofList]
  have htext : (Path.ofComponents (cs.map Component.spelled)).text.toList =
      spelt (Path.ofComponents cs).text.toList := by
    cases cs with
    | nil => rfl
    | cons c cs =>
        cases c with
        | root =>
            simp only [List.map_cons, Component.spelled, Path.ofComponents, String.toList_append,
              Bytes.spelt_append, hnames]
            rfl
        | here => exact hnames (.here :: cs)
        | up => exact hnames (.up :: cs)
        | name s => exact hnames (.name s :: cs)
  rw [Path.mk.injEq, ← String.toList_inj, htext, text_spelled]

/-- The normal form of a path that is a text is that of the text. -/
@[simp] theorem clean_ofPath (p : Path) : (p : OsPath).clean = p.clean := by
  refine spelled_injective ?_
  have hsteps : Path.normalize (p : OsPath).spelled.components =
      (Path.normalize p.components).map Component.spelled := by
    rw [← normalize_spelled, ← components_ofPath]
    rfl
  rw [spelled_clean, Path.clean, Path.clean, hsteps]
  cases Path.normalize p.components with
  | nil => rfl
  | cons c cs => exact ofComponents_spelled (c :: cs)

/-! ## Lossy texts -/

/-- The slash that an absolute path starts with is read. -/
theorem isAbsolute_lossy {p : OsPath} (h : p.isAbsolute = true) : p.lossy.isAbsolute = true := by
  obtain ⟨bytes⟩ := p
  rw [isAbsolute, Path.isAbsolute, spelled, Bytes.spell, String.toList_ofList, beq_iff_eq,
    List.head?_map, Option.map_eq_some_iff] at h
  obtain ⟨first, hfirst, hslash⟩ := h
  obtain rfl : first = 0x2F := by
    rw [← UInt8.toNat_inj]
    exact congrArg Char.toNat hslash
  obtain ⟨rest, rfl⟩ := List.head?_eq_some_iff.mp hfirst
  rw [Path.isAbsolute, lossy, show (0x2F : UInt8) :: rest = [] ++ 0x2F :: rest from rfl,
    Bytes.lossy_append_slash]
  simp [Bytes.lossy, Bytes.readFrom]

/-- A path that is a text is the path with that text. -/
theorem isText_iff {p : OsPath} : p.isText = true ↔ (p.lossy : OsPath) = p := by
  rw [isText, Option.isSome_iff_exists]
  constructor
  · rintro ⟨s, hs⟩
    obtain ⟨bytes⟩ := p
    obtain rfl : bytes = Bytes.ofText s := Bytes.text?_eq_some_iff.mp hs
    simp [lossy, ofPath, ofText]
  · intro h
    exact ⟨p.lossy.text, Bytes.text?_eq_some_iff.mpr (congrArg OsPath.bytes h.symm)⟩

end OsPath

end QuietEmit
