/-
  QuietEmit.Proofs.Json.Comments

  Blanking out comments and trailing commas keeps what a text denotes. Two scans go
  over the text: the one that shows or blanks each character, and the look ahead of
  a comma. What each does with a gap and with a token is said once
  (`blankComments_gap`, `blankComments_token`, `closesAfter_gap`,
  `closesAfter_token`), and the two are kept in step along the pieces of a layout
  (`closesAfter_text`, `text_settled`).
-/
import QuietEmit.Json.Comments
import QuietEmit.Proofs.Json.Grammar

namespace QuietEmit.Json

/-! ## Comments -/

/-- In the plain mode a character that opens nothing and is no comma stays. -/
theorem blankComments_plain {c : Char} (quote : c ≠ '"') (slash : c ≠ '/') (comma : c ≠ ',')
    (rest : List Char) : blankComments .plain (c :: rest) = c :: blankComments .plain rest := by
  simp [blankComments, CommentMode.covers, CommentMode.next, quote, slash, comma]

/-- Up to its line end a line comment is blanked out. -/
theorem blankComments_line {body : List Char} (oneLine : '\n' ∉ body) (rest : List Char) :
    blankComments .line (body ++ rest) = body.map blankFor ++ blankComments .line rest := by
  induction body with
  | nil => rfl
  | cons c body ih =>
      obtain ⟨hc, hbody⟩ : '\n' ≠ c ∧ '\n' ∉ body := by simpa using oneLine
      simp [blankComments, CommentMode.covers, CommentMode.next, hc.symm, ih hbody]

/-- The look ahead passes over a line comment. -/
theorem nextSignificant?_line {body : List Char} (oneLine : '\n' ∉ body) (rest : List Char) :
    nextSignificant? .line (body ++ rest) = nextSignificant? .line rest := by
  induction body with
  | nil => rfl
  | cons c body ih =>
      obtain ⟨hc, hbody⟩ : '\n' ≠ c ∧ '\n' ∉ body := by simpa using oneLine
      simp [nextSignificant?, CommentMode.covers, CommentMode.next, hc.symm, ih hbody]

/-- No character of a block comment closes it before its end. -/
theorem not_closes_of_unclosed {c : Char} {body : List Char}
    (unclosed : ¬ ['*', '/'] <:+: c :: body) (rest : List Char) :
    ¬ (c = '*' ∧ (body ++ '*' :: '/' :: rest).head? = some '/') := by
  rintro ⟨rfl, hahead⟩
  cases body with
  | nil => simp at hahead
  | cons d body =>
      obtain rfl : d = '/' := by simpa using hahead
      exact unclosed ⟨[], body, rfl⟩

/-- Up to its end a block comment is blanked out, and what comes after it is plain. -/
theorem blankComments_block {body : List Char} (unclosed : ¬ ['*', '/'] <:+: body)
    (rest : List Char) :
    blankComments .block (body ++ '*' :: '/' :: rest) =
      (body ++ ['*', '/']).map blankFor ++ blankComments .plain rest := by
  induction body with
  | nil => simp [blankComments, CommentMode.covers, CommentMode.next]
  | cons c body ih =>
      have hopen := not_closes_of_unclosed unclosed rest
      have hbody : ¬ ['*', '/'] <:+: body := fun h => unclosed (List.infix_cons h)
      simp only [List.cons_append, blankComments, CommentMode.covers, CommentMode.next, if_true,
        if_neg hopen, ih hbody, List.map_cons]

/-- The look ahead passes over a block comment. -/
theorem nextSignificant?_block {body : List Char} (unclosed : ¬ ['*', '/'] <:+: body)
    (rest : List Char) :
    nextSignificant? .block (body ++ '*' :: '/' :: rest) = nextSignificant? .plain rest := by
  induction body with
  | nil => simp [nextSignificant?, CommentMode.covers, CommentMode.next]
  | cons c body ih =>
      have hopen := not_closes_of_unclosed unclosed rest
      have hbody : ¬ ['*', '/'] <:+: body := fun h => unclosed (List.infix_cons h)
      simp only [List.cons_append, nextSignificant?, CommentMode.covers, CommentMode.next,
        Bool.true_or, if_true, if_neg hopen, ih hbody]

/-! ## Gaps -/

theorem isSpace_blankFor (c : Char) : Reader.isSpace (blankFor c) = true := by
  unfold blankFor
  split <;> rfl

/-- Blanks in the place of characters. -/
def Gap.blanks (cs : List Char) : Gap := cs.map fun c => .space (blankFor c) (isSpace_blankFor c)

theorem Gap.text_blanks (cs : List Char) : Gap.text (Gap.blanks cs) = cs.map blankFor := by
  induction cs with
  | nil => rfl
  | cons c cs ih =>
      have hrest := ih
      simp only [Gap.blanks, Gap.text, List.map_cons, List.flatMap_cons, Trivia.text] at hrest ⊢
      rw [hrest]
      rfl

theorem Gap.text_append (g h : Gap) : Gap.text (g ++ h) = Gap.text g ++ Gap.text h :=
  List.flatMap_append

/-- White space as it is, and comments as blanks. -/
def Trivia.blanked : Trivia → Gap
  | .space c blank => [.space c blank]
  | .line body oneLine => Gap.blanks (Trivia.line body oneLine).text
  | .block body unclosed => Gap.blanks (Trivia.block body unclosed).text

/-- A gap with its comments blanked out. -/
def Gap.blanked (g : Gap) : Gap := g.flatMap Trivia.blanked

theorem Gap.all_isSpace_blanks (cs : List Char) : (Gap.blanks cs).all Trivia.isSpace = true := by
  simp [Gap.blanks, Trivia.isSpace]

theorem Gap.all_isSpace_blanked (g : Gap) : g.blanked.all Trivia.isSpace = true := by
  rw [Gap.blanked, List.all_flatMap, List.all_eq_true]
  intro t _
  cases t with
  | space c blank => rfl
  | line body oneLine => exact Gap.all_isSpace_blanks _
  | block body unclosed => exact Gap.all_isSpace_blanks _

/-- White space opens nothing, is no comma and is blank. -/
theorem plain_of_isSpace {c : Char} (h : Reader.isSpace c = true) :
    c ≠ '"' ∧ c ≠ '/' ∧ c ≠ ',' ∧ Unicode.isBlank c = true := by
  simp only [Reader.isSpace, Bool.or_eq_true, beq_iff_eq] at h
  obtain ((rfl | rfl) | rfl) | rfl := h <;> decide

theorem blankComments_trivia (t : Trivia) (rest : List Char) :
    blankComments .plain (t.text ++ rest) = Gap.text t.blanked ++ blankComments .plain rest := by
  cases t with
  | space c blank =>
      obtain ⟨hquote, hslash, hcomma, -⟩ := plain_of_isSpace blank
      exact blankComments_plain hquote hslash hcomma rest
  | line body oneLine =>
      have hline := blankComments_line oneLine ('\n' :: rest)
      rw [Trivia.blanked, Gap.text_blanks, Trivia.text]
      simp [blankComments, CommentMode.covers, CommentMode.next, hline, blankFor]
  | block body unclosed =>
      have hblock := blankComments_block unclosed rest
      rw [Trivia.blanked, Gap.text_blanks, Trivia.text]
      simp [blankComments, CommentMode.covers, CommentMode.next] at hblock ⊢
      simp [hblock]

theorem nextSignificant?_trivia (t : Trivia) (rest : List Char) :
    nextSignificant? .plain (t.text ++ rest) = nextSignificant? .plain rest := by
  cases t with
  | space c blank =>
      obtain ⟨hquote, hslash, -, hblank⟩ := plain_of_isSpace blank
      simp [Trivia.text, nextSignificant?, CommentMode.next, hblank, hquote, hslash]
  | line body oneLine =>
      have hline := nextSignificant?_line oneLine ('\n' :: rest)
      have hblank : Unicode.isBlank '\n' = true := by decide
      simp [Trivia.text, nextSignificant?, CommentMode.covers, CommentMode.next, hline, hblank]
  | block body unclosed =>
      have hblock := nextSignificant?_block unclosed rest
      simp [Trivia.text, nextSignificant?, CommentMode.covers, CommentMode.next, hblock]

/-- Comments in a gap are blanked out. -/
theorem blankComments_gap (g : Gap) (rest : List Char) :
    blankComments .plain (Gap.text g ++ rest) =
      Gap.text g.blanked ++ blankComments .plain rest := by
  induction g with
  | nil => rfl
  | cons t g ih =>
      have hcons : Gap.text (t :: g) = t.text ++ Gap.text g := rfl
      have hblanked : Gap.blanked (t :: g) = t.blanked ++ Gap.blanked g := rfl
      rw [hcons, hblanked, Gap.text_append, List.append_assoc, blankComments_trivia, ih,
        List.append_assoc]

/-- The look ahead passes over a gap. -/
theorem closesAfter_gap (g : Gap) (rest : List Char) :
    closesAfter (Gap.text g ++ rest) = closesAfter rest := by
  suffices h : nextSignificant? .plain (Gap.text g ++ rest) = nextSignificant? .plain rest by
    simp only [closesAfter, h]
  induction g with
  | nil => rfl
  | cons t g ih =>
      have hcons : Gap.text (t :: g) = t.text ++ Gap.text g := rfl
      rw [hcons, List.append_assoc, nextSignificant?_trivia, ih]

/-! ## Tokens -/

/-- Characters that open nothing and are no commas stay. -/
theorem blankComments_plains {cs : List Char} (h : ∀ c ∈ cs, c ≠ '"' ∧ c ≠ '/' ∧ c ≠ ',')
    (rest : List Char) : blankComments .plain (cs ++ rest) = cs ++ blankComments .plain rest := by
  induction cs with
  | nil => rfl
  | cons c cs ih =>
      obtain ⟨hquote, hslash, hcomma⟩ := h c (by simp)
      rw [List.cons_append, blankComments_plain hquote hslash hcomma,
        ih fun d hd => h d (List.mem_cons_of_mem c hd), List.cons_append]

/-- In a string every character stays. -/
theorem blankComments_string (c : Char) (rest : List Char) :
    blankComments .string (c :: rest) =
      c :: blankComments (CommentMode.string.next c rest.head?) rest := by
  simp [blankComments, CommentMode.covers]

/-- In a string a character that is neither quote nor backslash leaves the scan in the string. -/
theorem blankComments_inside {c : Char} (quote : c ≠ '"') (escape : c ≠ '\\') (rest : List Char) :
    blankComments .string (c :: rest) = c :: blankComments .string rest := by
  rw [blankComments_string]
  simp [CommentMode.next, quote, escape]

/-- A backslash keeps the character after it in the string. -/
theorem blankComments_escape (c : Char) (rest : List Char) :
    blankComments .string ('\\' :: c :: rest) = '\\' :: c :: blankComments .string rest := by
  simp [blankComments, CommentMode.covers, CommentMode.next]

theorem hexDigit_ne {c : Char} (h : (Unicode.hexDigit? c).isSome) : c ≠ '"' ∧ c ≠ '\\' := by
  constructor <;> rintro rfl <;> simp [Unicode.hexDigit?] at h

/-- A piece of a string stays as it is, and the scan stays in the string. -/
theorem blankComments_piece (p : StringPiece) (rest : List Char) :
    blankComments .string (p.text ++ rest) = p.text ++ blankComments .string rest := by
  cases p with
  | plain c quote escape control => exact blankComments_inside quote escape rest
  | letter c known => exact blankComments_escape c rest
  | unit digits four hexadecimal =>
      have hdigits : blankComments .string (digits ++ rest) =
          digits ++ blankComments .string rest := by
        clear four
        induction digits with
        | nil => rfl
        | cons c digits ih =>
            obtain ⟨hquote, hescape⟩ := hexDigit_ne (hexadecimal c (by simp))
            rw [List.cons_append, blankComments_inside hquote hescape,
              ih fun d hd => hexadecimal d (List.mem_cons_of_mem c hd), List.cons_append]
      simp only [StringPiece.text, List.cons_append, blankComments_escape, hdigits]

/-- The scan passes over a string to its closing quote, and everything stays. -/
theorem blankComments_pieces (ps : List StringPiece) (rest : List Char) :
    blankComments .string (ps.flatMap StringPiece.text ++ '"' :: rest) =
      ps.flatMap StringPiece.text ++ '"' :: blankComments .plain rest := by
  induction ps with
  | nil => simp [blankComments, CommentMode.covers, CommentMode.next]
  | cons p ps ih => rw [List.flatMap_cons, List.append_assoc, blankComments_piece, ih,
      List.append_assoc]

/-- The characters of numbers. -/
def isNumeric (c : Char) : Bool :=
  c.isDigit || c == '-' || c == '+' || c == '.' || c == 'e' || c == 'E'

theorem isNumeric_of_mem_textOf {ds : List (Fin 10)} {c : Char} (h : c ∈ Digits.textOf ds) :
    isNumeric c = true := by
  obtain ⟨d, -, rfl⟩ := List.mem_map.mp h
  clear h
  revert d
  decide

theorem Exponent.isNumeric_of_mem_text {e : Exponent} {c : Char} (h : c ∈ e.text) :
    isNumeric c = true := by
  have hletter : isNumeric e.letter = true := by
    obtain h | h := e.letter_eq <;> rw [h] <;> decide
  rw [Exponent.text] at h
  cases hsign : e.sign <;> rw [hsign] at h <;> simp at h
  case absent =>
    obtain rfl | h := h
    · exact hletter
    · exact isNumeric_of_mem_textOf h
  case plus | minus =>
    obtain rfl | rfl | h := h
    · exact hletter
    · decide
    · exact isNumeric_of_mem_textOf h

theorem NumberText.isNumeric_of_mem_text {n : NumberText} {c : Char} (h : c ∈ n.text) :
    isNumeric c = true := by
  simp only [NumberText.text, List.mem_append] at h
  obtain ((hsign | hwhole) | hfraction) | hexponent := h
  · cases hneg : n.negative <;> simp [hneg] at hsign
    subst hsign
    decide
  · exact isNumeric_of_mem_textOf hwhole
  · cases hf : n.fraction with
    | none => simp [hf] at hfraction
    | some d =>
        rw [hf] at hfraction
        obtain rfl | hd := List.mem_cons.mp hfraction
        · decide
        · exact isNumeric_of_mem_textOf hd
  · cases he : n.exponent with
    | none => simp [he] at hexponent
    | some e =>
        rw [he] at hexponent
        exact e.isNumeric_of_mem_text hexponent

/-- Characters of numbers open nothing, are not blank, and are neither commas nor closing tokens. -/
theorem plain_of_isNumeric {c : Char} (h : isNumeric c = true) :
    (c ≠ '"' ∧ c ≠ '/' ∧ c ≠ ',') ∧ Unicode.isBlank c = false ∧
      (c == '\x7d' || c == ']') = false := by
  simp only [isNumeric, Bool.or_eq_true, beq_iff_eq] at h
  obtain ((((hdigit | rfl) | rfl) | rfl) | rfl) | rfl := h
  case inl =>
    have hrange : 48 ≤ c.toNat ∧ c.toNat ≤ 57 := by
      simpa [Char.isDigit, UInt32.le_iff_toNat_le] using hdigit
    have hne : ∀ d : Char, 57 < d.toNat ∨ d.toNat < 48 → c ≠ d := by
      rintro d hd rfl
      omega
    refine ⟨⟨hne _ (by decide), hne _ (by decide), hne _ (by decide)⟩, ?_, ?_⟩
    · simp only [Unicode.isBlank, Bool.or_eq_false_iff, Bool.and_eq_false_iff, beq_eq_false_iff_ne,
        decide_eq_false_iff_not]
      omega
    · simp [hne ']' (by decide), hne '\x7d' (by decide)]
  all_goals decide

/-- Everything that is not a comma stays. -/
theorem blankComments_token {t : Token} (h : t.isComma = false) (rest : List Char) :
    blankComments .plain (t.text ++ rest) = t.text ++ blankComments .plain rest := by
  cases t with
  | comma => simp [Token.isComma] at h
  | openList | closeList | openObject | closeObject | colon =>
      exact blankComments_plain (by decide) (by decide) (by decide) rest
  | word w => cases w <;> exact blankComments_plains (by simp [Token.text]) rest
  | number n =>
      exact blankComments_plains
        (fun c hc => (plain_of_isNumeric (n.isNumeric_of_mem_text hc)).1) rest
  | string pieces =>
      have hpieces := blankComments_pieces pieces rest
      simp only [Token.text, List.cons_append, List.append_assoc, List.nil_append]
      rw [← hpieces]
      simp [blankComments, CommentMode.covers, CommentMode.next]

/-- A number has a first character. -/
theorem NumberText.exists_text_eq_cons (n : NumberText) : ∃ c cs, n.text = c :: cs := by
  apply List.exists_cons_of_ne_nil
  simp [NumberText.text, Digits.textOf, Digits.toList]

/-- The first character of a token is not blank and opens no comment, and it tells whether the token
closes a list or an object. -/
theorem Token.exists_text_eq_cons (t : Token) :
    ∃ c cs, t.text = c :: cs ∧ c ≠ '/' ∧ Unicode.isBlank c = false ∧
      (c == '\x7d' || c == ']') = t.closes := by
  cases t with
  | openList | closeList | openObject | closeObject | comma | colon =>
      exact ⟨_, _, rfl, by decide, by decide, by decide⟩
  | word w => cases w <;> exact ⟨_, _, rfl, by decide, by decide, by decide⟩
  | number n =>
      obtain ⟨c, cs, hn⟩ := n.exists_text_eq_cons
      obtain ⟨⟨-, hslash, -⟩, hblank, hcloses⟩ :=
        plain_of_isNumeric (n.isNumeric_of_mem_text (hn ▸ List.mem_cons_self))
      exact ⟨c, cs, hn, hslash, hblank, hcloses⟩
  | string pieces => exact ⟨_, _, rfl, by decide, by decide, rfl⟩

/-- Before a token the look ahead tells whether it closes a list or an object. -/
theorem closesAfter_token (t : Token) (rest : List Char) :
    closesAfter (t.text ++ rest) = t.closes := by
  obtain ⟨c, cs, htext, hslash, hblank, hcloses⟩ := t.exists_text_eq_cons
  rw [htext, ← hcloses]
  simp [closesAfter, nextSignificant?, CommentMode.covers, hslash, hblank]

/-- A comma stays, or becomes a blank where a closing token is next. -/
theorem blankComments_comma (rest : List Char) :
    blankComments .plain (',' :: rest) =
      (if closesAfter rest then ' ' else ',') :: blankComments .plain rest := by
  simp [blankComments, CommentMode.covers, CommentMode.next]

/-! ## Layouts -/

namespace Layout

/-- The layout with another piece before it. -/
def cons (piece : Gap × Token) (l : Layout) : Layout := { l with pieces := piece :: l.pieces }

/-- A layout is built from what comes after its last token, piece by piece. -/
@[induction_eliminator] theorem rec_cons {P : Layout → Prop}
    (ending : ∀ last comment, P ⟨[], last, comment⟩)
    (cons : ∀ g t l, P l → P (Layout.cons (g, t) l)) (l : Layout) : P l := by
  obtain ⟨pieces, last, comment⟩ := l
  induction pieces with
  | nil => exact ending last comment
  | cons piece pieces ih => exact cons piece.1 piece.2 _ ih

/-- The layout with a gap before it. -/
def after (g : Gap) (l : Layout) : Layout :=
  match l.pieces with
  | [] => { l with last := g ++ l.last }
  | (h, t) :: pieces => { l with pieces := (g ++ h, t) :: pieces }

theorem text_cons (g : Gap) (t : Token) (l : Layout) :
    (l.cons (g, t)).text = Gap.text g ++ (t.text ++ l.text) := by
  simp [cons, text, commentText]

theorem text_after (g : Gap) (l : Layout) : (l.after g).text = Gap.text g ++ l.text := by
  obtain ⟨_ | ⟨⟨h, t⟩, pieces⟩, last, comment⟩ := l <;>
    simp [after, text, commentText, Gap.text_append]

theorem tokens_after (g : Gap) (l : Layout) : (l.after g).tokens = l.tokens := by
  obtain ⟨_ | ⟨⟨h, t⟩, pieces⟩, last, comment⟩ := l <;> rfl

theorem isStrict_cons {piece : Gap × Token} (h : piece.1.all Trivia.isSpace = true) {l : Layout}
    (hl : l.isStrict = true) : (l.cons piece).isStrict = true := by
  simp only [cons, isStrict, Bool.and_eq_true, List.all_cons] at hl ⊢
  tauto

theorem isStrict_after {g : Gap} (h : g.all Trivia.isSpace = true) {l : Layout}
    (hl : l.isStrict = true) : (l.after g).isStrict = true := by
  obtain ⟨_ | ⟨⟨k, t⟩, pieces⟩, last, comment⟩ := l <;>
    simp only [after, isStrict, Bool.and_eq_true, List.all_cons, List.all_append] at hl ⊢ <;>
    tauto

/-- A comment up to the end of the text hides nothing that closes. -/
theorem closesAfter_commentText (l : Layout) : closesAfter l.commentText = false := by
  obtain ⟨pieces, last, _ | body⟩ := l
  · rfl
  · have hbody := nextSignificant?_line body.property []
    rw [List.append_nil] at hbody
    simp [commentText, closesAfter, nextSignificant?, CommentMode.covers, CommentMode.next, hbody]

/-- A comment up to the end of the text is blanked out. -/
theorem blankComments_commentText (l : Layout) :
    blankComments .plain l.commentText = l.commentText.map blankFor := by
  obtain ⟨pieces, last, _ | body⟩ := l
  · rfl
  · have hbody := blankComments_line body.property []
    rw [List.append_nil] at hbody
    simp [commentText, blankComments, CommentMode.covers, CommentMode.next, hbody]

/-- The look ahead agrees with the tokens. -/
theorem closesAfter_text (l : Layout) : closesAfter l.text = closesFirst l.tokens := by
  induction l with
  | ending last comment => exact (closesAfter_gap last _).trans (closesAfter_commentText _)
  | cons g t l _ =>
      rw [text_cons, closesAfter_gap, closesAfter_token]
      rfl

/-- Pieces before a strict layout with their comments blanked out. A comma before a closing token
leaves a blank in the gap that comes next. -/
def settledBefore (rest : Layout) : List (Gap × Token) → Layout
  | [] => rest
  | (g, t) :: pieces =>
    if t.isComma && closesFirst (pieces.map Prod.snd) then
      (settledBefore rest pieces).after (g.blanked ++ Gap.blanks [','])
    else (settledBefore rest pieces).cons (g.blanked, t)

/-- What is left of a layout without its comments and trailing commas. -/
def settled (l : Layout) : Layout :=
  settledBefore ⟨[], l.last.blanked ++ Gap.blanks l.commentText, none⟩ l.pieces

theorem settled_cons (g : Gap) (t : Token) (l : Layout) :
    (l.cons (g, t)).settled =
      if t.isComma && closesFirst l.tokens then l.settled.after (g.blanked ++ Gap.blanks [','])
      else l.settled.cons (g.blanked, t) := rfl

/-- What is left is strict. -/
theorem isStrict_settled (l : Layout) : l.settled.isStrict = true := by
  induction l with
  | ending last comment =>
      have hlast := Gap.all_isSpace_blanked last
      have hcomment := Gap.all_isSpace_blanks (commentText ⟨[], last, comment⟩)
      simp [settled, settledBefore, isStrict, hlast, hcomment]
  | cons g t l ih =>
      have hgap := Gap.all_isSpace_blanked g
      rw [settled_cons]
      split
      · refine isStrict_after ?_ ih
        rw [List.all_append, hgap, Gap.all_isSpace_blanks]
        rfl
      · exact isStrict_cons hgap ih

/-- What is left has the tokens that mean something. -/
theorem tokens_settled (l : Layout) : l.settled.tokens = withoutTrailingCommas l.tokens := by
  induction l with
  | ending last comment => rfl
  | cons g t l ih =>
      have htokens : ∀ l : Layout, (l.cons (g, t)).tokens = t :: l.tokens := fun _ => rfl
      rw [settled_cons, htokens, withoutTrailingCommas]
      split
      · rw [tokens_after, ih]
      · exact congrArg (t :: ·) ih

/-- What is left is what the scan shows. -/
theorem text_settled (l : Layout) : l.settled.text = withoutComments l.text := by
  unfold withoutComments
  induction l with
  | ending last comment =>
      change Gap.text (last.blanked ++ Gap.blanks _) ++ [] = blankComments .plain (Gap.text last ++ _)
      rw [blankComments_gap, blankComments_commentText, Gap.text_append, Gap.text_blanks,
        List.append_nil]
  | cons g t l ih =>
      rw [settled_cons, text_cons, blankComments_gap]
      cases hcomma : t.isComma with
      | false =>
          rw [blankComments_token hcomma, ← ih]
          exact text_cons g.blanked t l.settled
      | true =>
          obtain rfl : t = .comma := by cases t <;> simp_all [Token.isComma]
          change _ = _ ++ blankComments .plain (',' :: l.text)
          -- the look ahead of the scan and the tokens decide alike
          rw [blankComments_comma, closesAfter_text, ← ih]
          cases closesFirst l.tokens with
          | false => exact text_cons g.blanked .comma l.settled
          | true =>
              change (l.settled.after _).text = _
              rw [text_after, Gap.text_append, List.append_assoc]
              rfl

end Layout

/-! ## What a text means -/

/-- A relaxed text without its comments and trailing commas is strict JSON for the same value. Only
white space is left between its tokens, and these are the tokens of the relaxed text, strings as they
were written, apart from the commas before closing ones. -/
theorem withoutComments_keeps_meaning {v : Value} {l : Layout}
    (h : Spells true (.value v) l.tokens) :
    ∃ strict : Layout, strict.isStrict = true ∧ strict.text = withoutComments l.text ∧
      strict.tokens = withoutTrailingCommas l.tokens ∧ Spells false (.value v) strict.tokens := by
  have hspells : Spells false (.value v) l.settled.tokens := by
    rw [Layout.tokens_settled]
    exact h.withoutTrailingCommas
  exact ⟨l.settled, l.isStrict_settled, l.text_settled, l.tokens_settled, hspells⟩

/-- A string that looks like comments and a comma before a closing bracket. -/
def deceivingString : List StringPiece :=
  StringPiece.plains ['/', '/', ',', ']'] (by simp) ++ [.letter '"' rfl] ++
    StringPiece.plains ['/', '*'] (by simp)

/-- The number one. -/
def NumberText.one : NumberText where whole := ⟨1, []⟩

/-- An object with comments and trailing commas around a string that looks like them. -/
def commentedObject : Layout where
  pieces :=
    [([], .openObject),
      ([.line ['a', '"'] (by decide)], .string deceivingString), ([], .colon),
      ([.block ['*', '\n', '/'] (by decide)], .openList), ([], .number .one), ([], .comma),
      ([.space '\t' rfl], .closeList), ([], .comma),
      ([.block [','] (by decide)], .closeObject)]
  last := [.space ' ' rfl]
  comment := some ⟨[','], by decide⟩

theorem withoutComments_keeps_meaning_commentedObject :
    let v := Value.object
      [(deceivingString.flatMap StringPiece.units, .list [.number NumberText.one.value])]
    Spells true (.value v) commentedObject.tokens ∧
      ∃ strict : Layout, strict.isStrict = true ∧
        strict.text = withoutComments commentedObject.text ∧
        strict.tokens = withoutTrailingCommas commentedObject.tokens ∧
        Spells false (.value v) strict.tokens := by
  intro v
  have hlist : Spells true (.value (.list [.number NumberText.one.value]))
      [.openList, .number .one, .comma, .closeList] :=
    .list (.lastElement (.number .one)) (.comma rfl)
  have hspells : Spells true (.value v) commentedObject.tokens :=
    .object (.lastMember deceivingString hlist) (.comma rfl)
  exact ⟨hspells, withoutComments_keeps_meaning hspells⟩

example : withoutComments commentedObject.text =
    "\x7b    \n\"//,]\\\"/*\":   \n   [1 \t]      \x7d    ".toList := by decide

end QuietEmit.Json
