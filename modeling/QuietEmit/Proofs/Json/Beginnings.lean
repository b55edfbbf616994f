/-
  QuietEmit.Proofs.Json.Beginnings

  What a layout begins with, read off its text. White space and slashes belong to
  the gap before the first token (`Gap.eq_nil_of_text`), and a bracket, a brace, a
  comma or a colon outside of it is that token (`Layout.exists_of_ofChar?`). A
  comment that is never closed begins no layout (`Layout.text_ne_unclosed`).
-/
import QuietEmit.Proofs.Json.Comments

namespace QuietEmit.Json

/-! ## Tokens of one character -/

/-- The token that a character is. -/
def Token.ofChar? : Char → Option Token
  | '[' => some .openList
  | ']' => some .closeList
  | '\x7b' => some .openObject
  | '\x7d' => some .closeObject
  | ',' => some .comma
  | ':' => some .colon
  | _ => none

/-- These characters belong to no gap and to no number. -/
theorem plain_of_ofChar? {c : Char} {t : Token} (h : Token.ofChar? c = some t) :
    Reader.isSpace c = false ∧ c ≠ '/' ∧ isNumeric c = false := by
  unfold Token.ofChar? at h
  split at h
  case h_7 => cases h
  all_goals exact ⟨by decide, by decide, by decide⟩

theorem Token.eq_of_ofChar? {t u : Token} {c : Char} {x rest : List Char}
    (hc : Token.ofChar? c = some u) (h : t.text ++ x = c :: rest) : t = u ∧ x = rest := by
  cases t with
  | openList | closeList | openObject | closeObject | comma | colon =>
      obtain ⟨rfl, rfl⟩ := List.cons.inj h
      exact ⟨Option.some.inj hc, rfl⟩
  | word w =>
      cases w <;>
      · obtain ⟨rfl, -⟩ := List.cons.inj h
        cases hc
  | number n =>
      obtain ⟨d, ds, hn⟩ := n.exists_text_eq_cons
      have hnumeric : isNumeric d = true := n.isNumeric_of_mem_text (hn ▸ List.mem_cons_self)
      rw [Token.text, hn] at h
      obtain rfl := (List.cons.inj h).1
      rw [(plain_of_ofChar? hc).2.2] at hnumeric
      cases hnumeric
  | string pieces =>
      obtain ⟨rfl, -⟩ := List.cons.inj h
      cases hc

/-! ## Where the gap before a token is empty -/

/-- A gap begins with white space or with the slash of a comment. -/
theorem Gap.eq_nil_of_text {g : Gap} {c : Char} {x rest : List Char}
    (h : Gap.text g ++ x = c :: rest) (sharp : Reader.isSpace c = false) (slash : c ≠ '/') :
    g = [] := by
  cases g with
  | nil => rfl
  | cons t g =>
      rw [Gap.text, List.flatMap_cons] at h
      cases t with
      | space d blank =>
          obtain rfl := (List.cons.inj h).1
          rw [blank] at sharp
          cases sharp
      | line => exact absurd (List.cons.inj h).1.symm slash
      | block => exact absurd (List.cons.inj h).1.symm slash

/-- A text that does not begin with a gap begins with a token. -/
theorem Layout.exists_token_of_text {l : Layout} {c : Char} {rest : List Char}
    (h : l.text = c :: rest) (sharp : Reader.isSpace c = false) (slash : c ≠ '/') :
    ∃ (t : Token) (l' : Layout), l.tokens = t :: l'.tokens ∧ t.text ++ l'.text = c :: rest := by
  induction l with
  | ending last comment =>
      have htext : Gap.text last ++ Layout.commentText ⟨[], last, comment⟩ = c :: rest := h
      obtain rfl := Gap.eq_nil_of_text htext sharp slash
      cases comment with
      | none => cases htext
      | some body => exact absurd (List.cons.inj htext).1.symm slash
  | cons g t l _ =>
      rw [Layout.text_cons] at h
      obtain rfl := Gap.eq_nil_of_text h sharp slash
      exact ⟨t, l, rfl, h⟩

/-- A text that begins with a bracket, a brace, a comma or a colon begins with that token. -/
theorem Layout.exists_of_ofChar? {l : Layout} {t : Token} {c : Char} {rest : List Char}
    (hc : Token.ofChar? c = some t) (h : l.text = c :: rest) :
    ∃ l' : Layout, l.tokens = t :: l'.tokens ∧ l'.text = rest := by
  obtain ⟨hsharp, hslash, -⟩ := plain_of_ofChar? hc
  obtain ⟨u, l', htokens, htext⟩ := Layout.exists_token_of_text h hsharp hslash
  obtain ⟨rfl, rfl⟩ := Token.eq_of_ofChar? hc htext
  exact ⟨l', htokens, rfl⟩

/-! ## Comments that are never closed -/

/-- A comment in a layout is closed. -/
theorem Layout.text_ne_unclosed {body : List Char} (unclosed : ¬ ['*', '/'] <:+: body) (l : Layout) :
    l.text ≠ '/' :: '*' :: body := by
  intro h
  have hgap : ∀ {t : Trivia} {g : Gap} {x : List Char},
      Gap.text (t :: g) ++ x ≠ '/' :: '*' :: body := by
    intro t g x h
    rw [Gap.text, List.flatMap_cons] at h
    cases t with
    | space c blank =>
        obtain rfl := (List.cons.inj h).1
        exact absurd blank (by decide)
    | line => exact absurd (List.cons.inj (List.cons.inj h).2).1 (by decide)
    | block inner _ =>
        have hbody := (List.cons.inj (List.cons.inj h).2).2
        exact unclosed ⟨inner, Gap.text g ++ x, by simpa [Gap.text] using hbody⟩
  induction l with
  | ending last comment =>
      cases last with
      | nil =>
          cases comment with
          | none => cases h
          | some comment => exact absurd (List.cons.inj (List.cons.inj h).2).1 (by decide)
      | cons t g => exact hgap h
  | cons g t l _ =>
      rw [Layout.text_cons] at h
      cases g with
      | nil =>
          obtain ⟨c, cs, htext, hslash, -⟩ := t.exists_text_eq_cons
          rw [htext] at h
          exact absurd (List.cons.inj h).1 hslash
      | cons u g => exact hgap h

end QuietEmit.Json
