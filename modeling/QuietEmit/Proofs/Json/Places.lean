/-
  QuietEmit.Proofs.Json.Places

  Blanking out keeps every character in its place, for any text. Each character is
  shown as it is or as a blank, and line ends stay (`forall₂_blankComments`).

  What may be blanked out is told without the modes of the scan. A text is gone
  through in characters, closed strings and ended comments; a place between two of
  these is `Outside`, and there the scan is in its plain mode
  (`Outside.exists_shown`). From there a quote begins a string literal
  (`exists_literal`), all of which stays, and in a text that holds neither comments
  nor trailing commas everything stays (`withoutComments_keeps_places`).
-/
import Mathlib.Data.List.Forall2
import QuietEmit.Proofs.Json.Comments

namespace QuietEmit.Json

/-! ## Character by character -/

/-- A character as it is, or a blank in its place; line ends stay. -/
def ShownAs (c shown : Char) : Prop := shown = c ∨ c ≠ '\n' ∧ shown = ' '

theorem shownAs_blankFor (c : Char) : ShownAs c (blankFor c) := by
  unfold blankFor
  split
  · next h => exact .inl h.symm
  · next h => exact .inr ⟨h, rfl⟩

/-- Whatever the mode, one character is shown for each. -/
theorem forall₂_blankComments (mode : CommentMode) (text : List Char) :
    List.Forall₂ ShownAs text (blankComments mode text) := by
  induction text generalizing mode with
  | nil => exact .nil
  | cons c text ih =>
      refine .cons ?_ (ih _)
      split
      · exact shownAs_blankFor c
      · split
        · next hcomma =>
            refine .inr ⟨?_, rfl⟩
            rw [hcomma.2.1]
            decide
        · exact .inl rfl

/-! ## String literals -/

/-- What stands after the opening quote of a string, characters and escapes, up to its end or to a
place between two of them. -/
inductive Unquoted : List Char → Prop where
  | nil : Unquoted []
  | char {c : Char} {rest : List Char} (quote : c ≠ '"') (escape : c ≠ '\\') (h : Unquoted rest) :
      Unquoted (c :: rest)
  | escape (c : Char) {rest : List Char} (h : Unquoted rest) : Unquoted ('\\' :: c :: rest)

/-- A string literal, with what comes after it: it ends with its closing quote, or else with the
text, perhaps in the middle of an escape. -/
inductive Literal : List Char → List Char → Prop where
  | closed {inside : List Char} (h : Unquoted inside) (after : List Char) :
      Literal ('"' :: (inside ++ ['"'])) after
  | cutOff {inside : List Char} (h : Unquoted inside) : Literal ('"' :: inside) []
  | cutOffEscape {inside : List Char} (h : Unquoted inside) :
      Literal ('"' :: (inside ++ ['\\'])) []

/-- Characters and escapes go on to a quote, to the end of the text, or to a backslash there. -/
theorem exists_unquoted (rest : List Char) : ∃ inside after, rest = inside ++ after ∧
    Unquoted inside ∧ (after = [] ∨ after = ['\\'] ∨ after.head? = some '"') := by
  match rest with
  | [] => exact ⟨[], [], rfl, .nil, .inl rfl⟩
  | c :: rest =>
      by_cases hquote : c = '"'
      · exact ⟨[], c :: rest, rfl, .nil, .inr (.inr (by rw [hquote]; rfl))⟩
      · by_cases hescape : c = '\\'
        · match rest with
          | [] => exact ⟨[], [c], rfl, .nil, .inr (.inl (by rw [hescape]))⟩
          | d :: rest =>
              obtain ⟨inside, after, rfl, h, hend⟩ := exists_unquoted rest
              exact ⟨c :: d :: inside, after, rfl, hescape ▸ .escape d h, hend⟩
        · obtain ⟨inside, after, rfl, h, hend⟩ := exists_unquoted rest
          exact ⟨c :: inside, after, rfl, .char hquote hescape h, hend⟩
  termination_by rest.length

/-- A quote begins a literal, whatever comes after it. -/
theorem exists_literal (rest : List Char) :
    ∃ literal after, '"' :: rest = literal ++ after ∧ Literal literal after := by
  obtain ⟨inside, after, rfl, h, rfl | rfl | hquote⟩ := exists_unquoted rest
  · exact ⟨'"' :: inside, [], by simp, .cutOff h⟩
  · exact ⟨'"' :: (inside ++ ['\\']), [], by simp, .cutOffEscape h⟩
  · obtain ⟨after, rfl⟩ := List.head?_eq_some_iff.mp hquote
    exact ⟨'"' :: (inside ++ ['"']), after, by simp, .closed h after⟩

/-- In a string characters and escapes stay. -/
theorem blankComments_unquoted {inside : List Char} (h : Unquoted inside) (rest : List Char) :
    blankComments .string (inside ++ rest) = inside ++ blankComments .string rest := by
  induction h with
  | nil => rfl
  | char quote escape _ ih =>
      rw [List.cons_append, blankComments_inside quote escape, ih, List.cons_append]
  | escape c _ ih =>
      rw [List.cons_append, List.cons_append, blankComments_escape, ih, List.cons_append,
        List.cons_append]

/-- A quote that nothing comes before begins a string. -/
theorem blankComments_quote (rest : List Char) :
    blankComments .plain ('"' :: rest) = '"' :: blankComments .string rest := by
  simp [blankComments, CommentMode.covers, CommentMode.next]

/-- A literal stays, and what comes after it is plain. -/
theorem blankComments_literal {literal after : List Char} (h : Literal literal after) :
    blankComments .plain (literal ++ after) = literal ++ blankComments .plain after := by
  cases h with
  | closed h after =>
      rw [List.cons_append, blankComments_quote, List.append_assoc, blankComments_unquoted h]
      simp [blankComments, CommentMode.covers, CommentMode.next]
  | cutOff h =>
      have hkept := blankComments_unquoted h []
      rw [List.cons_append, blankComments_quote, hkept]
      rfl
  | cutOffEscape h =>
      have hkept := blankComments_unquoted h ['\\']
      rw [List.append_nil, blankComments_quote, hkept]
      simp [blankComments, CommentMode.covers]

/-! ## Outside of strings and comments -/

/-- Whether a comment begins here. -/
def opensComment : List Char → Bool
  | '/' :: '/' :: _ => true
  | '/' :: '*' :: _ => true
  | _ => false

/-- Whether a closing brace or bracket comes next, white space aside. -/
def closesNext (rest : List Char) : Bool :=
  (rest.dropWhile Unicode.isBlank).head?.any fun c => c == '\x7d' || c == ']'

/-- A place in a text outside of strings and comments, by what stands before and after it. -/
inductive Outside : List Char → List Char → Prop where
  | start (text : List Char) : Outside [] text
  | char {before after : List Char} {c : Char} (h : Outside before (c :: after)) (quote : c ≠ '"')
      (comment : opensComment (c :: after) = false) : Outside (before ++ [c]) after
  | string {before inside after : List Char}
      (h : Outside before ('"' :: (inside ++ ['"']) ++ after)) (unquoted : Unquoted inside) :
      Outside (before ++ '"' :: (inside ++ ['"'])) after
  /-- The line end is no part of the comment before it. -/
  | line {before body after : List Char}
      (h : Outside before (('/' :: '/' :: body) ++ '\n' :: after)) (oneLine : '\n' ∉ body) :
      Outside (before ++ '/' :: '/' :: body) ('\n' :: after)
  | block {before body after : List Char}
      (h : Outside before ('/' :: '*' :: (body ++ ['*', '/']) ++ after))
      (unclosed : ¬ ['*', '/'] <:+: body) :
      Outside (before ++ '/' :: '*' :: (body ++ ['*', '/'])) after

theorem opensComment_eq_false_iff {c : Char} {rest : List Char} :
    opensComment (c :: rest) = false ↔
      ¬ (c = '/' ∧ (rest.head? = some '/' ∨ rest.head? = some '*')) := by
  rw [opensComment.eq_def]
  split <;> simp_all
  rintro rfl
  cases rest <;> simp_all

/-- A character that begins no string and no comment is shown, unless it is a comma before a closing
brace or bracket. -/
theorem blankComments_char {c : Char} {rest : List Char} (quote : c ≠ '"')
    (comment : opensComment (c :: rest) = false) :
    blankComments .plain (c :: rest) =
      (if c = ',' ∧ closesAfter rest = true then ' ' else c) :: blankComments .plain rest := by
  rw [opensComment_eq_false_iff, not_and, not_or] at comment
  by_cases hslash : c = '/'
  · obtain ⟨hline, hblock⟩ := comment hslash
    simp [blankComments, CommentMode.covers, CommentMode.next, hslash, hline, hblock]
  · simp [blankComments, CommentMode.covers, CommentMode.next, hslash, quote]

/-- After some characters of a text, one shown for each, the scan is in its plain mode. -/
def PlainAfter (before after : List Char) : Prop :=
  ∃ shown, shown.length = before.length ∧
    withoutComments (before ++ after) = shown ++ blankComments .plain after

theorem PlainAfter.append {before taken after : List Char}
    (h : PlainAfter before (taken ++ after)) (shown : List Char)
    (hlength : shown.length = taken.length)
    (hshown : blankComments .plain (taken ++ after) = shown ++ blankComments .plain after) :
    PlainAfter (before ++ taken) after := by
  obtain ⟨front, hfront, htext⟩ := h
  refine ⟨front ++ shown, by simp [hfront, hlength], ?_⟩
  rw [List.append_assoc, htext, hshown, List.append_assoc]

/-- Outside the scan is in its plain mode. -/
theorem Outside.plainAfter {before after : List Char} (h : Outside before after) :
    PlainAfter before after := by
  induction h with
  | start text => exact ⟨[], rfl, rfl⟩
  | @char before after c _ quote comment ih =>
      have ih : PlainAfter before ([c] ++ after) := ih
      exact ih.append [if c = ',' ∧ closesAfter after = true then ' ' else c] rfl
        (blankComments_char quote comment)
  | @string before inside after _ unquoted ih =>
      exact ih.append _ rfl (blankComments_literal (.closed unquoted after))
  | @line before body after _ oneLine ih =>
      refine ih.append (('/' :: '/' :: body).map blankFor) (by simp) ?_
      have hline := blankComments_line oneLine ('\n' :: after)
      simp [blankComments, CommentMode.covers, CommentMode.next, hline]
  | @block before body after _ unclosed ih =>
      refine ih.append (('/' :: '*' :: (body ++ ['*', '/'])).map blankFor) (by simp) ?_
      have hblock := blankComments_block unclosed after
      simp [blankComments, CommentMode.covers, CommentMode.next] at hblock ⊢
      simp [hblock]

/-! ## Texts that stay -/

/-- No comment begins in a text outside of strings, and no comma there stands before a closing brace
or bracket. -/
def IsBare (text : List Char) : Prop :=
  ∀ before after, before ++ after = text → Outside before after →
    opensComment after = false ∧ (after.head? = some ',' → closesNext after.tail = false)

/-- Where no comment begins, the look ahead finds the first character that is not blank. -/
theorem closesAfter_of_isBare {text before rest : List Char} (hbare : IsBare text)
    (htext : before ++ rest = text) (h : Outside before rest) :
    closesAfter rest = closesNext rest := by
  induction rest generalizing before with
  | nil => rfl
  | cons c rest ih =>
      obtain ⟨hcomment, -⟩ := hbare before (c :: rest) htext h
      cases hblank : Unicode.isBlank c with
      | true =>
          have hquote : c ≠ '"' := by
            rintro rfl
            revert hblank
            decide
          have hslash : c ≠ '/' := by
            rintro rfl
            revert hblank
            decide
          have hrest := ih (by simpa using htext) (.char h hquote hcomment)
          rw [closesNext, List.dropWhile_cons_of_pos hblank, ← closesNext, ← hrest]
          simp [closesAfter, nextSignificant?, CommentMode.covers, CommentMode.next, hblank, hquote,
            hslash]
      | false =>
          have hcovers : CommentMode.plain.covers c rest.head? = false := by
            rw [opensComment_eq_false_iff] at hcomment
            simpa [CommentMode.covers] using hcomment
          simp [closesAfter, closesNext, nextSignificant?, hcovers, hblank]

/-- In a text without comments and trailing commas everything from an outside place on stays. -/
theorem blankComments_of_isBare {text before after : List Char} (hbare : IsBare text)
    (htext : before ++ after = text) (h : Outside before after) :
    blankComments .plain after = after := by
  induction hn : after.length using Nat.strongRecOn generalizing before after with
  | ind n ih =>
      cases after with
      | nil => rfl
      | cons c after =>
          by_cases hquote : c = '"'
          · subst hquote
            obtain ⟨literal, rest, heq, hliteral⟩ := exists_literal after
            rw [heq] at htext h hn ⊢
            rw [blankComments_literal hliteral]
            cases hliteral with
            | closed hinside =>
                have hshorter : rest.length < n := by
                  simp only [List.length_append, List.length_cons] at hn
                  omega
                rw [ih _ hshorter (by simpa using htext) (.string h hinside) rfl]
            | cutOff | cutOffEscape => rfl
          · obtain ⟨hcomment, hcomma⟩ := hbare before (c :: after) htext h
            have houtside := Outside.char h hquote hcomment
            have hafter : before ++ [c] ++ after = text := by simpa using htext
            have hkept : ¬ (c = ',' ∧ closesAfter after = true) := by
              rintro ⟨rfl, hcloses⟩
              have hopen : closesNext after = false := hcomma rfl
              rw [closesAfter_of_isBare hbare hafter houtside, hopen] at hcloses
              cases hcloses
            have hshorter : after.length < n := by
              rw [List.length_cons] at hn
              omega
            rw [blankComments_char hquote hcomment, if_neg hkept,
              ih _ hshorter hafter houtside rfl]

/-- For any text there are as many characters after blanking out as before, the line ends are where
they were, and in every other place stands the character that stood there or a blank. A string
literal that begins outside of strings and comments stays in its place, whether it is closed or not.
A text in which no comment begins outside of strings, and in which no comma there stands before a
closing brace or bracket, stays as it is. -/
theorem withoutComments_keeps_places (text : List Char) :
    (withoutComments text).length = text.length ∧
    (∀ i : Nat, (withoutComments text)[i]? = some '\n' ↔ text[i]? = some '\n') ∧
    (∀ i : Nat, (withoutComments text)[i]? = text[i]? ∨ (withoutComments text)[i]? = some ' ') ∧
    (∀ before literal after, before ++ (literal ++ after) = text →
      Outside before (literal ++ after) → Literal literal after →
        literal <+: (withoutComments text).drop before.length) ∧
    (IsBare text → withoutComments text = text) := by
  have hshown : List.Forall₂ ShownAs text (withoutComments text) := forall₂_blankComments .plain text
  have hlength : (withoutComments text).length = text.length := hshown.length_eq.symm
  have hplaces : ∀ i : Nat, (text[i]? = none ∧ (withoutComments text)[i]? = none) ∨
      ∃ c shown, text[i]? = some c ∧ (withoutComments text)[i]? = some shown ∧ ShownAs c shown := by
    intro i
    by_cases hi : i < text.length
    · have hi' : i < (withoutComments text).length := hlength ▸ hi
      exact .inr ⟨_, _, List.getElem?_eq_getElem hi, List.getElem?_eq_getElem hi',
        by simpa using hshown.get hi hi'⟩
    · exact .inl ⟨List.getElem?_eq_none (by omega), List.getElem?_eq_none (by omega)⟩
  refine ⟨hlength, fun i => ?_, fun i => ?_, ?_, fun hbare => ?_⟩
  · obtain ⟨hnone, hnone'⟩ | ⟨c, shown, hc, hs, h⟩ := hplaces i
    · rw [hnone, hnone']
    · rw [hc, hs]
      obtain rfl | ⟨hline, rfl⟩ := h
      · exact Iff.rfl
      · simp [hline]
  · obtain ⟨hnone, hnone'⟩ | ⟨c, shown, hc, hs, h⟩ := hplaces i
    · exact .inl (hnone'.trans hnone.symm)
    · rw [hc, hs]
      obtain rfl | ⟨-, rfl⟩ := h
      · exact .inl rfl
      · exact .inr rfl
  · rintro before literal after rfl houtside hliteral
    obtain ⟨front, hfront, htext⟩ := houtside.plainAfter
    rw [htext, ← hfront, List.drop_left, blankComments_literal hliteral]
    exact List.prefix_append _ _
  · exact blankComments_of_isBare hbare (List.nil_append text) (.start text)

/-- A string that the text ends in the middle of stays, though it looks like a comment and comes after
one, and a list of strings stays as a whole. -/
theorem withoutComments_keeps_places_cutOff :
    let before := "[,/*\"*/]\n".toList
    let literal := "\"//,]\\".toList
    (withoutComments (before ++ literal)).length = 15 ∧
    literal <+: (withoutComments (before ++ literal)).drop before.length ∧
    withoutComments "[\"a\"]".toList = "[\"a\"]".toList := by
  intro before literal
  have hcomma : Outside ['[', ','] ("/*\"*/]\n".toList ++ literal) :=
    .char (.char (.start _) (by decide) (by decide)) (by decide) (by decide)
  have hcomment : Outside "[,/*\"*/".toList ("]\n".toList ++ literal) :=
    @Outside.block ['[', ','] ['"'] _ hcomma (by decide)
  have houtside : Outside before (literal ++ []) :=
    .char (.char hcomment (by decide) (by decide)) (by decide) (by decide)
  have hliteral : Literal literal [] :=
    .cutOffEscape (.char (by decide) (by decide) (.char (by decide) (by decide)
      (.char (by decide) (by decide) (.char (by decide) (by decide) .nil))))
  have hbare : IsBare "[\"a\"]".toList := by
    intro front after htext _
    have hmem : ∀ c ∈ after, c ∈ "[\"a\"]".toList :=
      fun c hc => htext ▸ List.mem_append_right front hc
    constructor
    · cases after with
      | nil => rfl
      | cons c rest =>
          rw [opensComment_eq_false_iff]
          rintro ⟨rfl, -⟩
          exact absurd (hmem _ List.mem_cons_self) (by decide)
    · intro hcomma
      exact absurd (hmem _ (List.mem_of_mem_head? hcomma)) (by decide)
  obtain ⟨hlength, -, -, hstays, -⟩ := withoutComments_keeps_places (before ++ literal)
  obtain ⟨-, -, -, -, hsame⟩ := withoutComments_keeps_places "[\"a\"]".toList
  exact ⟨hlength, hstays before literal [] (by simp) houtside hliteral, hsame hbare⟩

end QuietEmit.Json
