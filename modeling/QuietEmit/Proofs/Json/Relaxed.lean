/-
  QuietEmit.Proofs.Json.Relaxed

  What a text must have been if it is strict JSON once comments and trailing commas
  are blanked out. Every text begins with a gap up to a place where no gap goes on
  (`exists_gap`), and what is shown there tells what stood there: a token shows as
  itself and as nothing else (`exists_of_blankComments_token`), so the tokens of the
  result are tokens of the text. Between them white space and comments can have been,
  and a comma where the next token closes a list or an object
  (`exists_layout_of_strict`).
-/
import QuietEmit.Proofs.Json.Places
import QuietEmit.Proofs.Json.TrailingCommas
import QuietEmit.Proofs.Text.Cuts

namespace QuietEmit.Json

/-! ## Gaps at the beginning of a text -/

/-- A comment of one line is ended by a line end or by the end of the text. -/
theorem exists_line (rest : List Char) :
    ∃ body, '\n' ∉ body ∧ (rest = body ∨ ∃ after, rest = body ++ '\n' :: after) := by
  cases hsplit : Text.splitOnce? ['\n'] rest with
  | none =>
      refine ⟨rest, fun hmem => ?_, .inl rfl⟩
      obtain ⟨before, after, hrest⟩ := List.mem_iff_append.mp hmem
      exact Text.splitOnce?_eq_none_iff.mp hsplit before after (by simpa using hrest)
  | some parts =>
      obtain ⟨hrest, hfirst⟩ := Text.splitOnce?_eq_some_iff.mp hsplit
      refine ⟨parts.1, fun hmem => ?_, .inr ⟨parts.2, by simpa using hrest⟩⟩
      obtain ⟨before, after, hbody⟩ := List.mem_iff_append.mp hmem
      have hle := hfirst before (after ++ '\n' :: parts.2) (by simpa [hbody] using hrest)
      rw [hbody, List.length_append, List.length_cons] at hle
      omega

/-- A block comment is closed at the first place where it can be, or goes on to the end of the
text. -/
theorem exists_block (rest : List Char) :
    ∃ body, ¬ ['*', '/'] <:+: body ∧ (rest = body ∨ ∃ after, rest = body ++ '*' :: '/' :: after) := by
  cases hsplit : Text.splitOnce? ['*', '/'] rest with
  | none =>
      refine ⟨rest, ?_, .inl rfl⟩
      rintro ⟨before, after, hrest⟩
      exact Text.splitOnce?_eq_none_iff.mp hsplit before after hrest.symm
  | some parts =>
      obtain ⟨hrest, hfirst⟩ := Text.splitOnce?_eq_some_iff.mp hsplit
      refine ⟨parts.1, ?_, .inr ⟨parts.2, by simpa using hrest⟩⟩
      rintro ⟨before, after, hbody⟩
      have hle := hfirst before (after ++ ['*', '/'] ++ parts.2) (by rw [hrest, ← hbody]; simp)
      rw [← hbody, List.length_append, List.length_append, List.length_cons] at hle
      omega

/-- Nothing is left of a text, or a comment that goes on to its end. -/
inductive Ending : List Char → Prop where
  | nothing : Ending []
  | line {body : List Char} (oneLine : '\n' ∉ body) : Ending ('/' :: '/' :: body)
  | block {body : List Char} (unclosed : ¬ ['*', '/'] <:+: body) : Ending ('/' :: '*' :: body)

/-- Where a gap at the beginning of a text cannot go on. -/
inductive Stops : List Char → Prop where
  | ending {rest : List Char} (h : Ending rest) : Stops rest
  | other {c : Char} {rest : List Char} (sharp : Reader.isSpace c = false)
      (comment : opensComment (c :: rest) = false) : Stops (c :: rest)

/-- At the beginning of a text there is a piece of a gap, unless a gap stops there. -/
theorem stops_or_trivia (text : List Char) :
    Stops text ∨ ∃ (t : Trivia) (after : List Char), text = t.text ++ after := by
  cases text with
  | nil => exact .inl (.ending .nothing)
  | cons c rest =>
      cases hspace : Reader.isSpace c with
      | true => exact .inr ⟨.space c hspace, rest, rfl⟩
      | false =>
          by_cases hopens : c = '/' ∧ (rest.head? = some '/' ∨ rest.head? = some '*')
          · obtain ⟨rfl, hline | hblock⟩ := hopens
            · obtain ⟨rest, rfl⟩ := List.head?_eq_some_iff.mp hline
              obtain ⟨body, honeLine, rfl | ⟨after, rfl⟩⟩ := exists_line rest
              · exact .inl (.ending (.line honeLine))
              · exact .inr ⟨.line body honeLine, after, by simp [Trivia.text]⟩
            · obtain ⟨rest, rfl⟩ := List.head?_eq_some_iff.mp hblock
              obtain ⟨body, hunclosed, rfl | ⟨after, rfl⟩⟩ := exists_block rest
              · exact .inl (.ending (.block hunclosed))
              · exact .inr ⟨.block body hunclosed, after, by simp [Trivia.text]⟩
          · exact .inl (.other hspace (opensComment_eq_false_iff.mpr hopens))

/-- Every text begins with a gap that goes as far as it can. -/
theorem exists_gap (text : List Char) : ∃ g rest, text = Gap.text g ++ rest ∧ Stops rest := by
  induction hn : text.length using Nat.strongRecOn generalizing text with
  | ind n ih =>
      rcases stops_or_trivia text with hstops | ⟨t, after, rfl⟩
      · exact ⟨[], text, rfl, hstops⟩
      · have hshorter : after.length < n := by
          have hpos : 0 < t.text.length := by cases t <;> simp [Trivia.text]
          rw [List.length_append] at hn
          omega
        obtain ⟨g, rest, rfl, hstops⟩ := ih _ hshorter after rfl
        exact ⟨t :: g, rest, (List.append_assoc ..).symm, hstops⟩

/-- What is left of an unclosed block comment does not begin to close. -/
theorem not_closes_of_cons {c : Char} {body : List Char} (h : ¬ ['*', '/'] <:+: c :: body) :
    ¬ (c = '*' ∧ body.head? = some '/') := by
  rintro ⟨rfl, hahead⟩
  obtain ⟨rest, rfl⟩ := List.head?_eq_some_iff.mp hahead
  exact h ⟨[], rest, rfl⟩

/-- An unclosed block comment is blanked out up to the end of the text. -/
theorem blankComments_unclosed {body : List Char} (h : ¬ ['*', '/'] <:+: body) :
    blankComments .plain ('/' :: '*' :: body) = ('/' :: '*' :: body).map blankFor := by
  have hbody : blankComments .block body = body.map blankFor := by
    induction body with
    | nil => rfl
    | cons c body ih =>
        have hrest : ¬ ['*', '/'] <:+: body := fun hinfix => h (List.infix_cons hinfix)
        simp [blankComments, CommentMode.covers, CommentMode.next, not_closes_of_cons h, ih hrest]
  simp [blankComments, CommentMode.covers, CommentMode.next, hbody]

/-- An unclosed block comment hides what the look ahead is for. -/
theorem closesAfter_unclosed {body : List Char} (h : ¬ ['*', '/'] <:+: body) :
    closesAfter ('/' :: '*' :: body) = false := by
  have hbody : nextSignificant? .block body = none := by
    induction body with
    | nil => rfl
    | cons c body ih =>
        have hrest : ¬ ['*', '/'] <:+: body := fun hinfix => h (List.infix_cons hinfix)
        simp [nextSignificant?, CommentMode.covers, CommentMode.next, not_closes_of_cons h, ih hrest]
  simp [closesAfter, nextSignificant?, CommentMode.covers, CommentMode.next, hbody]

/-! ## What shows as a token -/

/-- What shows as anything but white space stood there. -/
theorem exists_of_blankComments {mode : CommentMode} {c : Char} {text shown : List Char}
    (sharp : Reader.isSpace c = false) (h : blankComments mode text = c :: shown) :
    ∃ rest, text = c :: rest ∧ blankComments (mode.next c rest.head?) rest = shown := by
  have hshown := forall₂_blankComments mode text
  rw [h] at hshown
  cases hshown with
  | @cons d _ rest _ hfirst _ =>
      obtain rfl | ⟨-, rfl⟩ := hfirst
      · exact ⟨rest, rfl, (List.cons.inj h).2⟩
      · -- a blank is white space
        exact absurd sharp (by decide)

/-- Outside of strings the scan stays there, unless the character is a quote or a slash. -/
theorem exists_of_blankComments_plain {cs text shown : List Char}
    (hcs : ∀ c ∈ cs, Reader.isSpace c = false ∧ c ≠ '"' ∧ c ≠ '/')
    (h : blankComments .plain text = cs ++ shown) :
    ∃ rest, text = cs ++ rest ∧ blankComments .plain rest = shown := by
  induction cs generalizing text with
  | nil => exact ⟨text, rfl, h⟩
  | cons c cs ih =>
      obtain ⟨hsharp, hquote, hslash⟩ := hcs c List.mem_cons_self
      obtain ⟨rest, rfl, hrest⟩ := exists_of_blankComments hsharp h
      have hplain : CommentMode.plain.next c rest.head? = .plain := by
        simp [CommentMode.next, hquote, hslash]
      rw [hplain] at hrest
      obtain ⟨after, rfl, hafter⟩ := ih (fun d hd => hcs d (List.mem_cons_of_mem c hd)) hrest
      exact ⟨after, rfl, hafter⟩

/-- In a string every character shows as itself. -/
theorem exists_of_blankComments_string {c : Char} {text shown : List Char}
    (h : blankComments .string text = c :: shown) :
    ∃ rest, text = c :: rest ∧ blankComments (CommentMode.string.next c none) rest = shown := by
  cases text with
  | nil => simp [blankComments] at h
  | cons d rest =>
      rw [blankComments_string] at h
      obtain ⟨rfl, hrest⟩ := List.cons.inj h
      exact ⟨rest, rfl, hrest⟩

/-- Characters that are neither quotes nor backslashes leave the scan in the string. -/
theorem exists_of_blankComments_inside {cs text shown : List Char}
    (hcs : ∀ c ∈ cs, c ≠ '"' ∧ c ≠ '\\') (h : blankComments .string text = cs ++ shown) :
    ∃ rest, text = cs ++ rest ∧ blankComments .string rest = shown := by
  induction cs generalizing text with
  | nil => exact ⟨text, rfl, h⟩
  | cons c cs ih =>
      obtain ⟨hquote, hescape⟩ := hcs c List.mem_cons_self
      obtain ⟨rest, rfl, hrest⟩ := exists_of_blankComments_string h
      have hinside : CommentMode.string.next c none = .string := by
        simp [CommentMode.next, hquote, hescape]
      rw [hinside] at hrest
      obtain ⟨after, rfl, hafter⟩ := ih (fun d hd => hcs d (List.mem_cons_of_mem c hd)) hrest
      exact ⟨after, rfl, hafter⟩

/-- A backslash takes the character after it with it. -/
theorem exists_of_blankComments_escape {c : Char} {text shown : List Char}
    (h : blankComments .string text = '\\' :: c :: shown) :
    ∃ rest, text = '\\' :: c :: rest ∧ blankComments .string rest = shown := by
  obtain ⟨rest, rfl, hrest⟩ := exists_of_blankComments_string h
  cases rest with
  | nil => simp [blankComments] at hrest
  | cons d rest =>
      have hescaped : blankComments .escaped (d :: rest) = d :: blankComments .string rest := by
        simp [blankComments, CommentMode.covers, CommentMode.next]
      have hmode : CommentMode.string.next '\\' none = .escaped := by decide
      rw [hmode, hescaped] at hrest
      obtain ⟨rfl, hshown⟩ := List.cons.inj hrest
      exact ⟨rest, rfl, hshown⟩

/-- What shows as a piece of a string is that piece. -/
theorem exists_of_blankComments_piece {p : StringPiece} {text shown : List Char}
    (h : blankComments .string text = p.text ++ shown) :
    ∃ rest, text = p.text ++ rest ∧ blankComments .string rest = shown := by
  cases p with
  | plain c quote escape control =>
      refine exists_of_blankComments_inside (fun d hd => ?_) h
      obtain rfl := List.mem_singleton.mp hd
      exact ⟨quote, escape⟩
  | letter c known => exact exists_of_blankComments_escape h
  | unit digits four hexadecimal =>
      obtain ⟨rest, rfl, hrest⟩ := exists_of_blankComments_escape h
      obtain ⟨after, rfl, hafter⟩ :=
        exists_of_blankComments_inside (fun c hc => hexDigit_ne (hexadecimal c hc)) hrest
      exact ⟨after, rfl, hafter⟩

theorem exists_of_blankComments_pieces {ps : List StringPiece} {text shown : List Char}
    (h : blankComments .string text = ps.flatMap StringPiece.text ++ shown) :
    ∃ rest, text = ps.flatMap StringPiece.text ++ rest ∧ blankComments .string rest = shown := by
  induction ps generalizing text with
  | nil => exact ⟨text, rfl, h⟩
  | cons p ps ih =>
      rw [List.flatMap_cons, List.append_assoc] at h
      obtain ⟨rest, rfl, hrest⟩ := exists_of_blankComments_piece h
      obtain ⟨after, rfl, hafter⟩ := ih hrest
      exact ⟨after, by rw [List.flatMap_cons, List.append_assoc], hafter⟩

/-- Characters that are not blank are no white space either. -/
theorem isSpace_of_not_isBlank {c : Char} (h : Unicode.isBlank c = false) :
    Reader.isSpace c = false := by
  cases hspace : Reader.isSpace c with
  | false => rfl
  | true =>
      obtain ⟨-, -, -, hblank⟩ := plain_of_isSpace hspace
      rw [h] at hblank
      cases hblank

/-- What shows as a token is that token. -/
theorem exists_of_blankComments_token {t : Token} {text shown : List Char}
    (h : blankComments .plain text = t.text ++ shown) :
    ∃ rest, text = t.text ++ rest ∧ blankComments .plain rest = shown := by
  cases t with
  | openList | closeList | openObject | closeObject | comma | colon =>
      exact exists_of_blankComments_plain (by simp [Token.text, Reader.isSpace]) h
  | word w => cases w <;> exact exists_of_blankComments_plain (by simp [Token.text, Reader.isSpace]) h
  | number n =>
      refine exists_of_blankComments_plain (fun c hc => ?_) h
      obtain ⟨⟨hquote, hslash, -⟩, hblank, -⟩ := plain_of_isNumeric (n.isNumeric_of_mem_text hc)
      exact ⟨isSpace_of_not_isBlank hblank, hquote, hslash⟩
  | string pieces =>
      simp only [Token.text, List.cons_append, List.append_assoc] at h ⊢
      obtain ⟨rest, rfl, hrest⟩ := exists_of_blankComments (by decide) h
      have hopen : CommentMode.plain.next '"' rest.head? = .string := by simp [CommentMode.next]
      rw [hopen] at hrest
      obtain ⟨after, rfl, hafter⟩ := exists_of_blankComments_pieces hrest
      obtain ⟨last, rfl, hlast⟩ := exists_of_blankComments_string hafter
      exact ⟨last, rfl, hlast⟩

/-! ## What stood in a gap -/

/-- A text that begins with something that is not white space. -/
def IsSharp (text : List Char) : Prop :=
  ∃ c rest, text = c :: rest ∧ Reader.isSpace c = false

/-- A text of white space. -/
def IsSpaces (text : List Char) : Prop := ∀ c ∈ text, Reader.isSpace c = true

theorem Token.isSharp_append (t : Token) (rest : List Char) : IsSharp (t.text ++ rest) := by
  obtain ⟨c, cs, htext, -, hblank, -⟩ := t.exists_text_eq_cons
  exact ⟨c, cs ++ rest, by rw [htext]; rfl, isSpace_of_not_isBlank hblank⟩

theorem isSpaces_map_blankFor (cs : List Char) : IsSpaces (cs.map blankFor) := by
  intro c hc
  obtain ⟨d, -, rfl⟩ := List.mem_map.mp hc
  exact isSpace_blankFor d

theorem isSpaces_append {a b : List Char} : IsSpaces (a ++ b) ↔ IsSpaces a ∧ IsSpaces b :=
  List.forall_mem_append

theorem Gap.isSpaces_text {g : Gap} (h : g.all Trivia.isSpace = true) : IsSpaces (Gap.text g) := by
  intro c hc
  obtain ⟨t, ht, hct⟩ := List.mem_flatMap.mp hc
  have hspace := List.all_eq_true.mp h t ht
  cases t with
  | space d blank =>
      obtain rfl := List.mem_singleton.mp hct
      exact blank
  | line | block => cases hspace

theorem Gap.isSpaces_text_blanked (g : Gap) : IsSpaces (Gap.text g.blanked) :=
  Gap.isSpaces_text (Gap.all_isSpace_blanked g)

theorem not_isSpaces_append_of_isSharp {a x : List Char} (hx : IsSharp x) :
    ¬ IsSpaces (a ++ x) := by
  obtain ⟨c, rest, rfl, hsharp⟩ := hx
  intro h
  rw [h c (by simp)] at hsharp
  cases hsharp

/-- White space before something else can be told from it. -/
theorem append_inj_of_isSharp {a b x y : List Char} (ha : IsSpaces a) (hb : IsSpaces b)
    (hx : IsSharp x) (hy : IsSharp y) (h : a ++ x = b ++ y) : a = b ∧ x = y := by
  have hfront : ∀ {a x : List Char}, IsSpaces a → IsSharp x →
      (a ++ x).takeWhile Reader.isSpace = a := by
    rintro a _ ha ⟨c, rest, rfl, hsharp⟩
    rw [List.takeWhile_append_of_pos ha, List.takeWhile_cons_of_neg (by simp [hsharp]),
      List.append_nil]
  have hab : a = b := by rw [← hfront ha hx, h, hfront hb hy]
  exact ⟨hab, List.append_cancel_left (hab ▸ h)⟩

/-- An ending shows as white space. -/
theorem Ending.isSpaces {rest : List Char} (h : Ending rest) :
    IsSpaces (blankComments .plain rest) := by
  cases h with
  | nothing => simp [IsSpaces, blankComments]
  | @line body oneLine =>
      have hshown := Layout.blankComments_commentText ⟨[], [], some ⟨body, oneLine⟩⟩
      exact hshown ▸ isSpaces_map_blankFor _
  | block unclosed =>
      have hshown := blankComments_unclosed unclosed
      exact hshown ▸ isSpaces_map_blankFor _

/-- Nothing closes in an ending. -/
theorem Ending.closesAfter_eq {rest : List Char} (h : Ending rest) : closesAfter rest = false := by
  cases h with
  | nothing => rfl
  | @line body oneLine => exact Layout.closesAfter_commentText ⟨[], [], some ⟨body, oneLine⟩⟩
  | block unclosed => exact closesAfter_unclosed unclosed

/-- What is left after a gap that goes as far as it can, by what is shown of it. -/
inductive Shown : List Char → Prop where
  | ending {rest : List Char} (h : Ending rest) : Shown rest
  | sharp {rest : List Char} (h : IsSharp (blankComments .plain rest)) : Shown rest
  /-- A comma that is blanked out. -/
  | comma {rest : List Char} (closes : closesAfter rest = true) : Shown (',' :: rest)

theorem Stops.shown {rest : List Char} (h : Stops rest) : Shown rest := by
  cases h with
  | ending h => exact .ending h
  | @other c rest sharp comment =>
      by_cases hquote : c = '"'
      · subst hquote
        exact .sharp ⟨_, _, blankComments_quote rest, by decide⟩
      · by_cases hcomma : c = ',' ∧ closesAfter rest = true
        · obtain ⟨rfl, hcloses⟩ := hcomma
          exact .comma hcloses
        · refine .sharp ⟨c, blankComments .plain rest, ?_, sharp⟩
          rw [blankComments_char hquote comment, if_neg hcomma]

/-! ## Layouts of strict texts -/

/-- A text is written as a layout. Where that has no comment at its end, there may be a block comment
in the text that is never closed. -/
inductive WrittenAs (text : List Char) (l : Layout) : Prop where
  | whole (h : text = l.text)
  | unclosed (body : List Char) (unclosed : ¬ ['*', '/'] <:+: body) (bare : l.comment = none)
      (h : text = l.text ++ '/' :: '*' :: body)

theorem WrittenAs.cons {text : List Char} {l : Layout} (h : WrittenAs text l) (g : Gap) (t : Token) :
    WrittenAs (Gap.text g ++ (t.text ++ text)) (l.cons (g, t)) := by
  cases h with
  | whole h => exact .whole (by rw [h, Layout.text_cons])
  | unclosed body unclosed bare h =>
      exact .unclosed body unclosed bare (by rw [h, Layout.text_cons]; simp)

/-- The look ahead sees the first token. -/
theorem WrittenAs.closesFirst {text : List Char} {l : Layout} (h : WrittenAs text l)
    (hcloses : closesFirst l.tokens = true) : closesAfter text = true := by
  obtain ⟨rest, rfl⟩ : ∃ rest, text = l.text ++ rest := by
    cases h with
    | whole h => exact ⟨[], by rw [h, List.append_nil]⟩
    | unclosed _ _ _ h => exact ⟨_, h⟩
  induction l with
  | ending last comment => cases hcloses
  | cons g t l _ =>
      rw [Layout.text_cons, List.append_assoc, closesAfter_gap, List.append_assoc,
        closesAfter_token]
      exact hcloses

/-- After a comma that is blanked out comes a gap, and then something that is shown. -/
theorem exists_gap_of_closesAfter {rest : List Char} (h : closesAfter rest = true) :
    ∃ g after, rest = Gap.text g ++ after ∧ IsSharp (blankComments .plain after) ∧
      closesAfter after = true := by
  obtain ⟨g, after, rfl, hstops⟩ := exists_gap rest
  rw [closesAfter_gap] at h
  refine ⟨g, after, rfl, ?_, h⟩
  cases hstops.shown with
  | ending hending =>
      rw [hending.closesAfter_eq] at h
      cases h
  | sharp hsharp => exact hsharp
  | @comma rest _ =>
      -- a comma closes nothing
      have hcomma : closesAfter (',' :: rest) = false := closesAfter_token .comma rest
      rw [hcomma] at h
      cases h

/-- A text that shows as white space holds no tokens. -/
theorem exists_layout_of_isSpaces {text : List Char} (h : IsSpaces (blankComments .plain text)) :
    ∃ l, WrittenAs text l ∧ l.tokens = [] := by
  obtain ⟨g, rest, rfl, hstops⟩ := exists_gap text
  rw [blankComments_gap] at h
  cases hstops.shown with
  | sharp hsharp => exact absurd h (not_isSpaces_append_of_isSharp hsharp)
  | @comma rest closes =>
      -- whatever closes would be shown
      obtain ⟨g', after, rfl, hsharp, -⟩ := exists_gap_of_closesAfter closes
      rw [blankComments_comma, blankComments_gap, ← List.singleton_append, ← List.append_assoc,
        ← List.append_assoc] at h
      exact absurd h (not_isSpaces_append_of_isSharp hsharp)
  | ending hending =>
      cases hending with
      | nothing =>
          exact ⟨⟨[], g, none⟩, .whole (by simp [Layout.text, Layout.commentText]), rfl⟩
      | @line body oneLine =>
          exact ⟨⟨[], g, some ⟨body, oneLine⟩⟩,
            .whole (by simp [Layout.text, Layout.commentText]), rfl⟩
      | block unclosed =>
          exact ⟨⟨[], g, none⟩,
            .unclosed _ unclosed rfl (by simp [Layout.text, Layout.commentText]), rfl⟩

/-- A text that is a strict layout once comments and trailing commas are blanked out is written as a
layout with the same tokens, apart from commas before closing ones. -/
theorem exists_layout_of_strict {strict : Layout} (hstrict : strict.isStrict = true)
    {text : List Char} (h : blankComments .plain text = strict.text) :
    ∃ l, WrittenAs text l ∧ withoutTrailingCommas l.tokens = strict.tokens := by
  induction strict generalizing text with
  | ending last comment =>
      simp only [Layout.isStrict, List.all_nil, Bool.true_and, Bool.and_eq_true] at hstrict
      obtain ⟨hlast, hnone⟩ := hstrict
      obtain rfl := Option.isNone_iff_eq_none.mp hnone
      have hspaces : IsSpaces (blankComments .plain text) := by
        rw [h]
        simpa [Layout.text, Layout.commentText] using Gap.isSpaces_text hlast
      obtain ⟨l, hl, htokens⟩ := exists_layout_of_isSpaces hspaces
      exact ⟨l, hl, by rw [htokens]; rfl⟩
  | cons g t strict ih =>
      obtain ⟨hg, hrest⟩ : g.all Trivia.isSpace = true ∧ strict.isStrict = true := by
        simp only [Layout.cons, Layout.isStrict, List.all_cons, Bool.and_eq_true] at hstrict ⊢
        tauto
      rw [Layout.text_cons] at h
      have htokens : (strict.cons (g, t)).tokens = t :: strict.tokens := rfl
      obtain ⟨front, rest, rfl, hstops⟩ := exists_gap text
      rw [blankComments_gap] at h
      have hfront := Gap.isSpaces_text_blanked front
      cases hstops.shown with
      | ending hending =>
          have hspaces := isSpaces_append.mpr ⟨hfront, hending.isSpaces⟩
          rw [h] at hspaces
          exact absurd hspaces (not_isSpaces_append_of_isSharp (t.isSharp_append _))
      | sharp hsharp =>
          obtain ⟨-, hshown⟩ := append_inj_of_isSharp hfront (Gap.isSpaces_text hg) hsharp
            (t.isSharp_append _) h
          obtain ⟨after, rfl, hafter⟩ := exists_of_blankComments_token hshown
          obtain ⟨l, hl, hkept⟩ := ih hrest hafter
          refine ⟨l.cons (front, t), hl.cons front t, ?_⟩
          have hall : (l.cons (front, t)).tokens = t :: l.tokens := rfl
          rw [hall, htokens, ← hkept, withoutTrailingCommas, if_neg]
          rintro hdropped
          obtain ⟨hcomma, hfirst⟩ := Bool.and_eq_true_iff.mp hdropped
          obtain rfl := Token.eq_comma hcomma
          -- before a closing token the comma would not have been shown
          have hblank : blankComments .plain (',' :: after) = ' ' :: blankComments .plain after := by
            rw [blankComments_comma, if_pos (hl.closesFirst hfirst)]
          have hfirst := (List.cons.inj (hblank.symm.trans hshown)).1
          exact absurd hfirst (by decide)
      | @comma rest closes =>
          obtain ⟨g', after, rfl, hsharp, hcloses⟩ := exists_gap_of_closesAfter closes
          rw [blankComments_comma, if_pos closes, blankComments_gap, ← List.singleton_append,
            ← List.append_assoc, ← List.append_assoc] at h
          have hspaces : IsSpaces (Gap.text front.blanked ++ [' '] ++ Gap.text g'.blanked) :=
            isSpaces_append.mpr ⟨isSpaces_append.mpr ⟨hfront, by simp [IsSpaces, Reader.isSpace]⟩,
              Gap.isSpaces_text_blanked g'⟩
          obtain ⟨-, hshown⟩ := append_inj_of_isSharp hspaces (Gap.isSpaces_text hg) hsharp
            (t.isSharp_append _) h
          obtain ⟨after, rfl, hafter⟩ := exists_of_blankComments_token hshown
          rw [closesAfter_token] at hcloses
          obtain ⟨l, hl, hkept⟩ := ih hrest hafter
          refine ⟨(l.cons (g', t)).cons (front, .comma), (hl.cons g' t).cons front .comma, ?_⟩
          have hall : ((l.cons (g', t)).cons (front, .comma)).tokens = .comma :: t :: l.tokens := rfl
          rw [hall, withoutTrailingCommas_comma hcloses, hkept, htokens]

end QuietEmit.Json
