/-
  QuietEmit.Proofs.Text.Cuts

  Laws of cutting a text by byte offsets and at another text. A cut succeeds at `n`
  exactly when the text is the two pieces put together and the first one takes `n`
  bytes (`splitBytes?_eq_some_iff`); the characters of a span follow from two cuts
  (`slice?_eq_some_iff`). Lengths here are those of the UTF-8 form
  (`size_utf8Encode`), so an offset that a cut accepts is a valid position of the
  string (`isValid_of_append`). Searching from the left for another text gives the
  split with the shortest beginning (`splitOnce?_eq_some_iff`), and gives none only
  if there is no occurrence at all (`splitOnce?_eq_none_iff`).
-/
import QuietEmit.Text

namespace QuietEmit.Text

/-! ## Byte lengths -/

/-- The UTF-8 form has as many bytes as `utf8Length` counts. -/
theorem size_utf8Encode (cs : List Char) : cs.utf8Encode.size = utf8Length cs := by
  induction cs with
  | nil => rfl
  | cons c cs ih =>
      rw [List.utf8Encode_cons, ByteArray.size_append, ih, utf8Length_cons,
        List.utf8Encode_singleton]
      simp

/-- Every character takes a byte at least. -/
theorem length_le_utf8Length (text : List Char) : text.length ≤ utf8Length text := by
  induction text with
  | nil => exact Nat.le_refl _
  | cons c text ih =>
      have hc := c.utf8Size_pos
      rw [List.length_cons, utf8Length_cons]
      omega

/-- Only the empty text takes no bytes. -/
theorem eq_nil_of_utf8Length_eq_zero {cs : List Char} (h : utf8Length cs = 0) : cs = [] := by
  cases cs with
  | nil => rfl
  | cons c cs =>
      have hc := c.utf8Size_pos
      rw [utf8Length_cons] at h
      omega

/-- Of two beginnings of one text, the one with fewer bytes begins the other. -/
theorem exists_append_of_utf8Length_le {a b c d : List Char} (h : a ++ b = c ++ d)
    (hle : utf8Length a ≤ utf8Length c) : ∃ m, c = a ++ m ∧ b = m ++ d := by
  rcases List.append_eq_append_iff.mp h with ⟨m, hc, hb⟩ | ⟨m, ha, hd⟩
  · exact ⟨m, hc, hb⟩
  · have hm : m = [] := by
      apply eq_nil_of_utf8Length_eq_zero
      rw [ha, utf8Length_append] at hle
      omega
    subst hm
    exact ⟨[], by simpa using ha.symm, by simpa using hd.symm⟩

/-! ## Cuts -/

@[simp] theorem splitBytes?_zero (cs : List Char) : splitBytes? 0 cs = some ([], cs) := by
  rw [splitBytes?]

/-- Cutting after a whole number of characters. -/
theorem splitBytes?_append (a b : List Char) :
    splitBytes? (utf8Length a) (a ++ b) = some (a, b) := by
  induction a with
  | nil => simp
  | cons c a ih =>
      have hc := c.utf8Size_pos
      obtain ⟨n, hn⟩ : ∃ n, c.utf8Size + utf8Length a = n + 1 :=
        ⟨_, (Nat.succ_pred (by omega)).symm⟩
      rw [utf8Length_cons, hn, List.cons_append, splitBytes?, if_pos (by omega),
        show n + 1 - c.utf8Size = utf8Length a by omega, ih]
      rfl

/-- The pieces of a cut. -/
theorem splitBytes?_eq_some_iff {n : Nat} {cs a b : List Char} :
    splitBytes? n cs = some (a, b) ↔ cs = a ++ b ∧ utf8Length a = n := by
  constructor
  · intro h
    induction n, cs using splitBytes?.induct generalizing a b with
    | case1 cs =>
        rw [splitBytes?_zero] at h
        cases h
        exact ⟨rfl, rfl⟩
    | case2 n => simp [splitBytes?] at h
    | case3 n c cs hc ih =>
        rw [splitBytes?, if_pos hc, Option.map_eq_some_iff] at h
        obtain ⟨⟨x, y⟩, hxy, heq⟩ := h
        cases heq
        obtain ⟨hcs, hlen⟩ := ih hxy
        exact ⟨by rw [hcs]; rfl, by rw [utf8Length_cons]; omega⟩
    | case4 n c cs hc => simp [splitBytes?, hc] at h
  · rintro ⟨rfl, rfl⟩
    exact splitBytes?_append a b

/-- The characters of a span, with what stands around it. -/
theorem slice?_eq_some_iff {cs inside : List Char} {span : Span} :
    slice? cs span = some inside ↔
      ∃ before after, cs = before ++ inside ++ after ∧ utf8Length before = span.start ∧
        span.start + utf8Length inside = span.stop := by
  constructor
  · intro h
    rw [slice?, Option.bind_eq_bind, Option.bind_eq_some_iff] at h
    obtain ⟨⟨before, rest⟩, h1, h⟩ := h
    obtain ⟨hcs, hbefore⟩ := splitBytes?_eq_some_iff.mp h1
    by_cases hle : span.start ≤ span.stop
    · simp only [if_pos hle, Option.bind_eq_some_iff] at h
      obtain ⟨⟨mid, after⟩, h2, h3⟩ := h
      obtain ⟨hrest, hmid⟩ := splitBytes?_eq_some_iff.mp h2
      obtain rfl : mid = inside := by simpa using h3
      exact ⟨before, after, by rw [hcs, hrest, List.append_assoc], hbefore, by omega⟩
    · simp [if_neg hle] at h
  · rintro ⟨before, after, rfl, hstart, hstop⟩
    have hlen : span.stop - span.start = utf8Length inside := by omega
    rw [slice?, ← hstart, List.append_assoc, splitBytes?_append]
    simp only [Option.bind_eq_bind, Option.bind_some, hstart]
    rw [if_pos (by omega), hlen, splitBytes?_append]
    rfl

/-! ## Positions of strings -/

/-- The end of a beginning of a string is a valid position of it. -/
theorem isValid_of_append {s : String} {a b : List Char} (h : s.toList = a ++ b) :
    (⟨utf8Length a⟩ : String.Pos.Raw).IsValid s := by
  rw [String.Pos.Raw.isValid_iff_exists_append]
  refine ⟨String.ofList a, String.ofList b, ?_, ?_⟩
  · rw [← String.ofList_append, ← h, String.ofList_toList]
  · rw [← size_utf8Encode, ← String.toByteArray_ofList]
    rfl

/-- The bytes from the end of a beginning of a text up to the end of the next piece. -/
theorem extract_utf8Encode (a m b : List Char) :
    (a ++ (m ++ b)).utf8Encode.extract (utf8Length a) (utf8Length a + utf8Length m) =
      m.utf8Encode := by
  rw [List.utf8Encode_append, List.utf8Encode_append, ← size_utf8Encode, ← size_utf8Encode]
  have hdrop := ByteArray.extract_append_size_add (a := a.utf8Encode)
    (b := m.utf8Encode ++ b.utf8Encode) (i := 0) (j := m.utf8Encode.size)
  rw [Nat.add_zero] at hdrop
  rw [hdrop, ByteArray.extract_append_eq_left rfl]

/-! ## First occurrences -/

variable {sep cs a b : List Char}

/-- A split is an occurrence. -/
theorem eq_append_of_splitOnce? (h : splitOnce? sep cs = some (a, b)) : cs = a ++ sep ++ b := by
  fun_induction splitOnce? sep cs generalizing a with
  | case1 hsep =>
      obtain ⟨rfl, rfl⟩ := Prod.mk.inj (Option.some.inj h)
      simp [List.isEmpty_iff.mp hsep]
  | case2 => simp at h
  | case3 c cs hbegins =>
      obtain ⟨rfl, rfl⟩ := Prod.mk.inj (Option.some.inj h)
      obtain ⟨rest, hrest⟩ := List.isPrefixOf_iff_prefix.mp hbegins
      rw [← hrest, List.drop_left, List.nil_append]
  | case4 c cs hbegins ih =>
      obtain ⟨⟨before, after⟩, hsplit, heq⟩ := Option.map_eq_some_iff.mp h
      obtain ⟨rfl, rfl⟩ := Prod.mk.inj heq
      rw [ih hsplit]
      rfl

/-- Whatever occurs is found, and no later than there. -/
theorem exists_splitOnce?_of_append (sep before after : List Char) :
    ∃ a b, splitOnce? sep (before ++ sep ++ after) = some (a, b) ∧ a.length ≤ before.length := by
  induction before with
  | nil =>
      rw [List.nil_append]
      cases htext : sep ++ after with
      | nil => exact ⟨[], [], by simp [splitOnce?, (List.append_eq_nil_iff.mp htext).1], Nat.le_refl _⟩
      | cons c cs =>
          have hbegins : sep.isPrefixOf (c :: cs) = true := by
            rw [← htext]
            simp
          exact ⟨[], (c :: cs).drop sep.length, by rw [splitOnce?, if_pos hbegins], Nat.le_refl _⟩
  | cons c before ih =>
      obtain ⟨a, b, hsplit, hle⟩ := ih
      rw [List.cons_append, List.cons_append, splitOnce?]
      split
      · exact ⟨[], _, rfl, Nat.zero_le _⟩
      · exact ⟨c :: a, b, by rw [hsplit]; rfl, Nat.succ_le_succ hle⟩

/-- Nothing is found only where nothing occurs. -/
theorem splitOnce?_eq_none_iff :
    splitOnce? sep cs = none ↔ ∀ before after, cs ≠ before ++ sep ++ after := by
  constructor
  · rintro hnone before after rfl
    obtain ⟨a, b, hsplit, -⟩ := exists_splitOnce?_of_append sep before after
    rw [hnone] at hsplit
    cases hsplit
  · intro habsent
    cases hsplit : splitOnce? sep cs with
    | none => rfl
    | some ab => exact absurd (eq_append_of_splitOnce? hsplit) (habsent ab.1 ab.2)

/-- What is found is the first occurrence. -/
theorem splitOnce?_eq_some_iff :
    splitOnce? sep cs = some (a, b) ↔
      cs = a ++ sep ++ b ∧
        ∀ before after, cs = before ++ sep ++ after → a.length ≤ before.length := by
  constructor
  · intro h
    refine ⟨eq_append_of_splitOnce? h, ?_⟩
    rintro before after rfl
    obtain ⟨a', b', hsplit, hle⟩ := exists_splitOnce?_of_append sep before after
    rw [h] at hsplit
    obtain ⟨rfl, rfl⟩ := Prod.mk.inj (Option.some.inj hsplit)
    exact hle
  · rintro ⟨rfl, hfirst⟩
    obtain ⟨a', b', hsplit, hle⟩ := exists_splitOnce?_of_append sep a b
    have heq := eq_append_of_splitOnce? hsplit
    have hlength : a.length = a'.length := Nat.le_antisymm (hfirst a' b' heq) hle
    rw [List.append_assoc, List.append_assoc] at heq
    obtain ⟨rfl, hrest⟩ := List.append_inj heq hlength
    rw [hsplit, List.append_cancel_left hrest]

end QuietEmit.Text
