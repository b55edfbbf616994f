/-
  QuietEmit.Proofs.Syntax.StringLiteral

  Writing and reading string literals. A text that is written as a literal is
  read back as itself (`denotes_write`): the scan meets the characters of the
  text one by one, each as it is or as one escape.

  The other way round, a literal denotes the characters between its quotes
  exactly when no escape stands among them (`denotes_inside_iff`): with its
  backslash an escape takes more units than it denotes (`escape_shrinks`), so one
  of them makes what is denoted shorter than what is written.
-/
import QuietEmit.Syntax.StringLiteral

namespace QuietEmit.StringLiteral

/-- A whole literal denotes a text. -/
def Denotes (raw : List Char) (text : String) : Prop := denoted? raw = some (units text.toList)

instance (raw : List Char) (text : String) : Decidable (Denotes raw text) :=
  inferInstanceAs (Decidable (_ = _))

/-! ## Units of texts -/

@[simp] theorem units_nil : units [] = [] := rfl

@[simp] theorem units_cons (c : Char) (cs : List Char) :
    units (c :: cs) = unitsOfChar c ++ units cs := List.flatMap_cons

@[simp] theorem units_append (a b : List Char) : units (a ++ b) = units a ++ units b :=
  List.flatMap_append

/-- A character takes one unit or two. -/
theorem length_unitsOfChar (c : Char) :
    (unitsOfChar c).length = if c.toNat < 0x10000 then 1 else 2 := by
  rw [unitsOfChar]
  by_cases h : c.toNat < 0x10000 <;> simp [h]

theorem unitsOfChar_length_pos (c : Char) : 0 < (unitsOfChar c).length := by
  rw [length_unitsOfChar]
  by_cases h : c.toNat < 0x10000 <;> simp [h]

theorem length_le_length_units (cs : List Char) : cs.length ≤ (units cs).length := by
  induction cs with
  | nil => simp
  | cons c cs ih =>
      have hc := unitsOfChar_length_pos c
      rw [units_cons, List.length_append, List.length_cons]
      omega

/-- A unit that is no half of a pair is a character. -/
theorem textOfUnits?_cons {n : Nat} (hhigh : isHigh n = false) (hlow : isLow n = false)
    (rest : List Nat) :
    textOfUnits? (n :: rest) = (textOfUnits? rest).map (Char.ofNat n :: ·) := by
  cases rest with
  | nil => simp [textOfUnits?, hhigh, hlow]
  | cons m rest => simp [textOfUnits?, hhigh, hlow]

/-- Two halves of a pair are a character. -/
theorem textOfUnits?_pair {n m : Nat} (hhigh : isHigh n = true) (hlow : isLow m = true)
    (rest : List Nat) :
    textOfUnits? (n :: m :: rest) = (textOfUnits? rest).map
      (Char.ofNat (0x10000 + (n - 0xD800) * 0x400 + (m - 0xDC00)) :: ·) := by
  simp [textOfUnits?, hhigh, hlow]

/-- The units of a character are put together to that character. -/
theorem textOfUnits?_unitsOfChar (c : Char) (rest : List Nat) :
    textOfUnits? (unitsOfChar c ++ rest) = (textOfUnits? rest).map (c :: ·) := by
  have hvalid : c.toNat < 0xD800 ∨ (0xDFFF < c.toNat ∧ c.toNat < 0x110000) := c.valid
  rw [unitsOfChar]
  by_cases h : c.toNat < 0x10000
  · have hhigh : isHigh c.toNat = false := by
      simp only [isHigh, Bool.and_eq_false_iff, decide_eq_false_iff_not]
      omega
    have hlow : isLow c.toNat = false := by
      simp only [isLow, Bool.and_eq_false_iff, decide_eq_false_iff_not]
      omega
    simp only [if_pos h, List.cons_append, List.nil_append]
    rw [textOfUnits?_cons hhigh hlow, Char.ofNat_toNat]
  · have hhigh : isHigh (0xD800 + (c.toNat - 0x10000) / 0x400) = true := by
      simp only [isHigh, Bool.and_eq_true, decide_eq_true_eq]
      omega
    have hlow : isLow (0xDC00 + (c.toNat - 0x10000) % 0x400) = true := by
      simp only [isLow, Bool.and_eq_true, decide_eq_true_eq]
      omega
    have hsum : 0x10000 + (0xD800 + (c.toNat - 0x10000) / 0x400 - 0xD800) * 0x400 +
        (0xDC00 + (c.toNat - 0x10000) % 0x400 - 0xDC00) = c.toNat := by
      omega
    simp only [if_neg h, List.cons_append, List.nil_append]
    rw [textOfUnits?_pair hhigh hlow, hsum, Char.ofNat_toNat]

/-- The units of a text are those of that text only. -/
theorem textOfUnits?_units (cs : List Char) : textOfUnits? (units cs) = some cs := by
  induction cs with
  | nil => rfl
  | cons c cs ih => rw [units_cons, textOfUnits?_unitsOfChar, ih, Option.map_some]

theorem units_injective {a b : List Char} (h : units a = units b) : a = b := by
  have htexts := congrArg textOfUnits? h
  rw [textOfUnits?_units, textOfUnits?_units] at htexts
  exact Option.some.inj htexts

/-- A literal denotes at most one text. -/
theorem Denotes.unique {raw : List Char} {a b : String} (ha : Denotes raw a)
    (hb : Denotes raw b) : a = b := by
  have hunits : units a.toList = units b.toList := Option.some.inj (ha.symm.trans hb)
  exact String.toList_inj.mp (units_injective hunits)

/-! ## Reading what was written -/

/-- A quote is none of the characters that mean something else in a literal. -/
theorem quoteChar_ne (q : Quote) : q.char ≠ '\\' ∧ q.char ≠ '\n' ∧ q.char ≠ '\r' := by
  cases q <;> decide

/-- A scan goes over a character that stands for itself. -/
theorem scanUpTo_plain {quote c : Char} (hquote : c ≠ quote) (hline : ¬ (c = '\n' ∨ c = '\r'))
    (hescape : c ≠ '\\') (rest : List Char) (fuel : Nat) :
    scanUpTo quote (fuel + 1) (c :: rest) = (scanUpTo quote fuel rest).prepend (unitsOfChar c) := by
  rw [scanUpTo, if_neg hquote, if_neg hline, if_neg hescape]

/-- A scan goes over an escape that means something. -/
theorem scanUpTo_escape {quote : Char} (hquote : '\\' ≠ quote) {cs : List Char} {e : Escape}
    (he : escape cs = some e) (hsound : e.sound = true) (fuel : Nat) :
    scanUpTo quote (fuel + 1) ('\\' :: cs) = (scanUpTo quote fuel e.rest).prepend e.units := by
  rw [scanUpTo, if_neg hquote, if_neg (by decide), if_pos rfl, he]
  simp [hsound]

/-- Scanning one character of a written text. -/
theorem scanUpTo_writeChar (q : Quote) (c : Char) (rest : List Char) (fuel : Nat) :
    scanUpTo q.char (fuel + 1) (writeChar q.char c ++ rest) =
      (scanUpTo q.char fuel rest).prepend (unitsOfChar c) := by
  have hquote : '\\' ≠ q.char := (quoteChar_ne q).1.symm
  rw [writeChar]
  by_cases h1 : c = '\\'
  · rw [if_pos h1, h1]
    exact scanUpTo_escape hquote (e := ⟨unitsOfChar '\\', true, rest⟩) rfl rfl fuel
  rw [if_neg h1]
  by_cases h2 : c = '\n'
  · rw [if_pos h2, h2]
    exact scanUpTo_escape hquote (e := ⟨unitsOfChar '\n', true, rest⟩) rfl rfl fuel
  rw [if_neg h2]
  by_cases h3 : c = '\r'
  · rw [if_pos h3, h3]
    exact scanUpTo_escape hquote (e := ⟨unitsOfChar '\r', true, rest⟩) rfl rfl fuel
  rw [if_neg h3]
  by_cases h4 : c = q.char
  · rw [if_pos h4, h4]
    refine scanUpTo_escape hquote (e := ⟨unitsOfChar q.char, true, rest⟩) ?_ rfl fuel
    cases q <;> rfl
  · rw [if_neg h4]
    exact scanUpTo_plain h4 (by simp [h2, h3]) h1 rest fuel

theorem writeChar_length_pos (quote c : Char) : 0 < (writeChar quote c).length := by
  simp only [writeChar]
  split
  · simp
  split
  · simp
  split
  · simp
  split <;> simp

/-- Scanning a written text up to its closing quote. -/
theorem scanUpTo_write (q : Quote) (text rest : List Char) {fuel : Nat}
    (hfuel : (text.flatMap (writeChar q.char)).length < fuel) :
    scanUpTo q.char fuel (text.flatMap (writeChar q.char) ++ q.char :: rest) =
      ⟨units text, 0, some rest, false⟩ := by
  obtain ⟨fuel, rfl⟩ : ∃ n, fuel = n + 1 := ⟨fuel - 1, by omega⟩
  induction text generalizing fuel with
  | nil => simp [scanUpTo]
  | cons c text ih =>
      have hc := writeChar_length_pos q.char c
      rw [List.flatMap_cons, List.length_append] at hfuel
      obtain ⟨less, rfl⟩ : ∃ n, fuel = n + 1 := ⟨fuel - 1, by omega⟩
      rw [List.flatMap_cons, List.append_assoc, scanUpTo_writeChar, ih less (by omega),
        units_cons]
      rfl

/-- A written text denotes its units. -/
theorem denoted?_write (q : Quote) (text : List Char) :
    denoted? (write q text) = some (units text) := by
  have hquote : q.char = '\'' ∨ q.char = '"' := by cases q <;> decide
  have hscan : scan q.char (text.flatMap (writeChar q.char) ++ [q.char]) =
      ⟨units text, 0, some [], false⟩ :=
    scanUpTo_write q text [] (by simp)
  rw [write, List.cons_append, denoted?, if_pos hquote, hscan]
  rfl

/-- A written text denotes itself. -/
theorem denotes_write (q : Quote) (text : String) : Denotes (write q text.toList) text :=
  denoted?_write q text.toList

/-! ## What escapes take -/

/-- Hexadecimal digits that have a value are all there. -/
theorem hexDigits_eq {n value : Nat} {cs rest : List Char} {w : Option Nat}
    (h : hexDigits n value cs = (w, rest)) :
    ∃ used, cs = used ++ rest ∧ (w.isSome → used.length = n) := by
  induction n generalizing value cs with
  | zero =>
      rw [hexDigits] at h
      cases h
      exact ⟨[], rfl, fun _ => rfl⟩
  | succ n ih =>
      cases cs with
      | nil =>
          rw [hexDigits] at h
          cases h
          exact ⟨[], rfl, fun hw => by simp at hw⟩
      | cons c cs =>
          rw [hexDigits] at h
          cases hd : Unicode.hexDigit? c with
          | none =>
              simp only [hd] at h
              cases h
              exact ⟨[], rfl, fun hw => by simp at hw⟩
          | some d =>
              simp only [hd] at h
              obtain ⟨used, hcs, hlen⟩ := ih h
              refine ⟨c :: used, by rw [hcs, List.cons_append], fun hw => ?_⟩
              rw [List.length_cons, hlen hw]

/-- Digits in braces that have a value are closed. -/
theorem bracedDigits_eq {value : Nat} {cs rest : List Char} {w : Option Nat}
    (h : bracedDigits value cs = (w, rest)) :
    ∃ used, cs = used ++ rest ∧ (w.isSome → 0 < used.length) := by
  induction cs generalizing value with
  | nil =>
      rw [bracedDigits] at h
      cases h
      exact ⟨[], rfl, fun hw => by simp at hw⟩
  | cons c cs ih =>
      rw [bracedDigits] at h
      cases hd : Unicode.hexDigit? c with
      | none =>
          simp only [hd] at h
          by_cases hc : (c == '\x7d') = true
          · rw [if_pos hc] at h
            cases h
            exact ⟨[c], rfl, fun _ => by simp⟩
          · rw [if_neg hc] at h
            cases h
            exact ⟨[], rfl, fun hw => by simp at hw⟩
      | some d =>
          simp only [hd] at h
          by_cases hlarge : value * 16 + d > 0x10FFFF
          · rw [if_pos hlarge] at h
            cases h
            exact ⟨[c], rfl, fun hw => by simp at hw⟩
          · rw [if_neg hlarge] at h
            obtain ⟨used, hcs, -⟩ := ih h
            exact ⟨c :: used, by rw [hcs, List.cons_append], fun _ => by simp⟩

/-- The code point of an escape takes at least two characters. -/
theorem codePoint_eq {cs rest : List Char} {w : Option Nat} (h : codePoint cs = (w, rest)) :
    ∃ used, cs = used ++ rest ∧ (w.isSome → 2 ≤ used.length) := by
  revert h
  fun_cases codePoint cs with
  | case1 c cs d hd =>
      intro h
      obtain ⟨used, hcs, -⟩ := bracedDigits_eq h
      exact ⟨'\x7b' :: c :: used, by rw [hcs]; rfl, fun _ => by simp⟩
  | case2 c cs hd =>
      intro h
      cases h
      exact ⟨['\x7b'], rfl, fun hw => by simp at hw⟩
  | case3 =>
      intro h
      cases h
      exact ⟨['\x7b'], rfl, fun hw => by simp at hw⟩
  | case4 cs =>
      intro h
      obtain ⟨used, hcs, hlen⟩ := hexDigits_eq h
      exact ⟨used, hcs, fun hw => by rw [hlen hw]; decide⟩

/-- An octal escape takes some of the characters after its first digit. -/
theorem octalEscape_eq (first : Char) (cs : List Char) :
    ∃ used, cs = used ++ (octalEscape first cs).2 := by
  fun_cases octalEscape first cs with
  | case1 _ b c after => exact ⟨[b, c], rfl⟩
  | case2 _ b c after => exact ⟨[b], rfl⟩
  | case3 => exact ⟨[], rfl⟩
  | case4 _ b => exact ⟨[b], rfl⟩
  | case5 => exact ⟨[], rfl⟩
  | case6 => exact ⟨[], rfl⟩

/-- A value stands for at most two units, and nothing for none. -/
theorem length_units_ofValue (w : Option Nat) (rest : List Char) :
    (Escape.ofValue (w, rest)).units.length ≤ if w.isSome then 2 else 0 := by
  cases w with
  | none => simp [Escape.ofValue]
  | some n =>
      by_cases hn : n < 0x10000
      · simp [Escape.ofValue, hn]
      · simp only [Escape.ofValue, if_neg hn, Option.isSome_some, if_true, length_unitsOfChar]
        split <;> omega

/-- An escape with a value takes as many characters as that stands for units. -/
theorem ofValue_shrinks (c : Char) {cs rest : List Char} {w : Option Nat}
    (h : ∃ used, cs = used ++ rest ∧ (w.isSome → 2 ≤ used.length)) :
    ∃ used, c :: cs = used ++ (Escape.ofValue (w, rest)).rest ∧
      (Escape.ofValue (w, rest)).units.length ≤ (units used).length := by
  obtain ⟨used, hcs, hlen⟩ := h
  have hrest : (Escape.ofValue (w, rest)).rest = rest := by cases w <;> rfl
  have hunits := length_units_ofValue w rest
  have hused := length_le_length_units (c :: used)
  refine ⟨c :: used, by rw [hrest, hcs, List.cons_append], ?_⟩
  cases hw : w.isSome with
  | false =>
      simp only [hw] at hunits
      exact Nat.le_trans hunits (Nat.zero_le _)
  | true =>
      have h2 := hlen hw
      simp only [hw, if_true] at hunits
      rw [List.length_cons] at hused
      omega

/-- A character stands for no more units in a simple escape than by itself. -/
theorem length_unitsOfChar_simpleEscape (c : Char) :
    (unitsOfChar (simpleEscape c)).length ≤ (unitsOfChar c).length := by
  fun_cases simpleEscape c <;> simp [length_unitsOfChar]

/-- An escape denotes no more units than the characters have that it takes. -/
theorem escape_shrinks {cs : List Char} {e : Escape} (h : escape cs = some e) :
    ∃ used, cs = used ++ e.rest ∧ e.units.length ≤ (units used).length := by
  revert h
  fun_cases escape cs with
  | case1 => intro h; cases h
  | case2 => intro h; cases h; exact ⟨['\r', '\n'], rfl, Nat.zero_le _⟩
  | case3 => intro h; cases h; exact ⟨['\r'], rfl, Nat.zero_le _⟩
  | case4 => intro h; cases h; exact ⟨['\n'], rfl, Nat.zero_le _⟩
  | case5 => intro h; cases h; exact ⟨['\u2028'], rfl, Nat.zero_le _⟩
  | case6 => intro h; cases h; exact ⟨['\u2029'], rfl, Nat.zero_le _⟩
  | case7 rest =>
      intro h
      cases h
      rcases hd : hexDigits 2 0 rest with ⟨w, after⟩
      obtain ⟨used, hrest, hlen⟩ := hexDigits_eq hd
      exact ofValue_shrinks 'x' ⟨used, hrest, fun hw => Nat.le_of_eq (hlen hw).symm⟩
  | case8 rest =>
      intro h
      cases h
      rcases hd : codePoint rest with ⟨w, after⟩
      exact ofValue_shrinks 'u' (codePoint_eq hd)
  | case9 c rest _ _ _ _ _ _ _ _ n after hoctal =>
      intro h
      cases h
      obtain ⟨used, hrest⟩ := octalEscape_eq c rest
      rw [hoctal] at hrest
      refine ⟨c :: used, by rw [hrest]; rfl, ?_⟩
      have hused := length_le_length_units (c :: used)
      rw [List.length_cons] at hused
      show 1 ≤ _
      omega
  | case10 c rest =>
      intro h
      cases h
      refine ⟨[c], rfl, ?_⟩
      rw [units_cons, units_nil, List.append_nil]
      exact length_unitsOfChar_simpleEscape c

/-! ## Escapes in a literal -/

/-- What a scan finds after an escape, sound or not. -/
theorem scanUpTo_after_escape {quote : Char} (hquote : '\\' ≠ quote) {cs : List Char} {e : Escape}
    (he : escape cs = some e) (fuel : Nat) :
    (scanUpTo quote (fuel + 1) ('\\' :: cs)).rest = (scanUpTo quote fuel e.rest).rest ∧
      (scanUpTo quote (fuel + 1) ('\\' :: cs)).units =
        e.units ++ (scanUpTo quote fuel e.rest).units := by
  rw [scanUpTo, if_neg hquote, if_neg (by decide), if_pos rfl, he]
  cases hsound : e.sound <;> simp [hsound, Scanned.prepend]

/-- A scan that ends at a quote goes over a text that has at least as many units as it denotes,
and just those exactly if it holds no escape. -/
theorem scanUpTo_shrinks {quote : Char} (hquote : '\\' ≠ quote) {fuel : Nat}
    {cs rest : List Char} (h : (scanUpTo quote fuel cs).rest = some rest) :
    ∃ body, cs = body ++ quote :: rest ∧
      (scanUpTo quote fuel cs).units.length ≤ (units body).length ∧
      ((scanUpTo quote fuel cs).units = units body ↔ '\\' ∉ body) := by
  induction fuel generalizing cs with
  | zero => simp [scanUpTo] at h
  | succ fuel ih =>
      cases cs with
      | nil => simp [scanUpTo] at h
      | cons c cs =>
          by_cases hend : c = quote
          · rw [scanUpTo, if_pos hend] at h ⊢
            cases h
            exact ⟨[], by rw [hend]; rfl, Nat.le_refl _, by simp⟩
          by_cases hline : c = '\n' ∨ c = '\r'
          · rw [scanUpTo, if_neg hend, if_pos hline] at h
            cases h
          by_cases hescape : c = '\\'
          · subst hescape
            cases he : escape cs with
            | none =>
                rw [scanUpTo, if_neg hend, if_neg hline, if_pos rfl, he] at h
                cases h
            | some e =>
                obtain ⟨hrest, hunits⟩ := scanUpTo_after_escape hquote he fuel
                rw [hrest] at h
                obtain ⟨body, hbody, hle, -⟩ := ih h
                obtain ⟨used, hcs, hused⟩ := escape_shrinks he
                have hlt : (scanUpTo quote (fuel + 1) ('\\' :: cs)).units.length <
                    (units ('\\' :: used ++ body)).length := by
                  have hpos := unitsOfChar_length_pos '\\'
                  simp only [hunits, List.cons_append, units_cons, units_append,
                    List.length_append]
                  omega
                refine ⟨'\\' :: used ++ body, by rw [hcs, hbody]; simp, Nat.le_of_lt hlt, ?_⟩
                refine iff_of_false (fun heq => ?_) (by simp)
                rw [heq] at hlt
                exact Nat.lt_irrefl _ hlt
          · rw [scanUpTo_plain hend hline hescape] at h ⊢
            obtain ⟨body, hbody, hle, hiff⟩ := ih h
            refine ⟨c :: body, by rw [hbody]; rfl, ?_, ?_⟩
            · simp only [Scanned.prepend, units_cons, List.length_append]
              omega
            · simp [Scanned.prepend, hiff, Ne.symm hescape]

/-- A literal denotes what the scan of it finds, which ends with it. -/
theorem scan_of_denoted? {q : Quote} {cs : List Char} {us : List Nat}
    (h : denoted? (q.char :: cs) = some us) :
    (scan q.char cs).units = us ∧ (scan q.char cs).rest = some [] := by
  have hquote : q.char = '\'' ∨ q.char = '"' := by cases q <;> decide
  rw [denoted?, if_pos hquote] at h
  split at h
  · next hscan =>
    cases h
    rw [hscan]
    exact ⟨rfl, rfl⟩
  · cases h

/-- A literal denotes what stands between its quotes exactly if no escape does. -/
theorem denotes_inside_iff {q : Quote} {body : List Char}
    (h : (denoted? (q.char :: body ++ [q.char])).isSome) :
    Denotes (q.char :: body ++ [q.char]) (String.ofList body) ↔ '\\' ∉ body := by
  obtain ⟨us, hus⟩ := Option.isSome_iff_exists.mp h
  obtain ⟨hunits, hrest⟩ := scan_of_denoted? hus
  obtain ⟨body', hbody, -, hiff⟩ := scanUpTo_shrinks (quoteChar_ne q).1.symm hrest
  obtain rfl : body = body' := List.append_inj_left' hbody rfl
  rw [Denotes, hus, String.toList_ofList, Option.some_inj, ← hunits]
  exact hiff

end QuietEmit.StringLiteral
