/-
  QuietEmit.Proofs.Json.TrailingCommas

  Commas before closing tokens. Where leaving them out gives tokens that spell a
  value, the tokens spell it in the relaxed form as they stand (`recovers_of_spells`),
  unless a comma comes right after an opening token. In the relaxed form there is no
  such comma (`bare_of_spells`), so that is all there is between the two
  (`spells_relaxed_iff`).
-/
import Mathlib.Data.List.Chain
import QuietEmit.Proofs.Json.Grammar

namespace QuietEmit.Json

/-! ## Leaving them out -/

theorem Token.eq_comma {t : Token} (h : t.isComma = true) : t = .comma := by
  cases t <;> simp_all [Token.isComma]

theorem Token.isComma_of_closes {t : Token} (h : t.closes = true) : t.isComma = false := by
  cases t <;> simp_all [Token.isComma, Token.closes]

/-- A comma before a token that closes is left out. -/
theorem withoutTrailingCommas_comma {t : Token} (h : t.closes = true) (ts : List Token) :
    withoutTrailingCommas (.comma :: t :: ts) = t :: withoutTrailingCommas ts := by
  have hfirst : closesFirst (t :: ts) = true := h
  rw [withoutTrailingCommas, hfirst]
  exact withoutTrailingCommas_cons (Token.isComma_of_closes h) ts

/-- A comma is left out only before a token that closes. -/
theorem withoutTrailingCommas_cons_cases (t : Token) (ts : List Token) :
    withoutTrailingCommas (t :: ts) = t :: withoutTrailingCommas ts ∨
      ∃ close rest, close.closes = true ∧ t = .comma ∧ ts = close :: rest ∧
        withoutTrailingCommas (t :: ts) = close :: withoutTrailingCommas rest := by
  cases hdropped : t.isComma && closesFirst ts with
  | false =>
      left
      rw [withoutTrailingCommas, hdropped]
      rfl
  | true =>
      right
      obtain ⟨hcomma, hfirst⟩ := Bool.and_eq_true_iff.mp hdropped
      obtain rfl := Token.eq_comma hcomma
      cases ts with
      | nil => cases hfirst
      | cons close rest =>
          exact ⟨close, rest, hfirst, rfl, rfl, withoutTrailingCommas_comma hfirst rest⟩

/-- Not every token can be a trailing comma. -/
theorem withoutTrailingCommas_ne_nil (t : Token) (ts : List Token) :
    withoutTrailingCommas (t :: ts) ≠ [] := by
  rcases withoutTrailingCommas_cons_cases t ts with hkept | ⟨close, rest, -, -, -, hkept⟩
  · rw [hkept]
    exact List.cons_ne_nil _ _
  · rw [hkept]
    exact List.cons_ne_nil _ _

/-- The first token that is kept stands first, or after a comma if it closes. -/
theorem exists_of_withoutTrailingCommas {t : Token} {ts kept : List Token}
    (h : withoutTrailingCommas ts = t :: kept) :
    ∃ rest, withoutTrailingCommas rest = kept ∧
      (ts = t :: rest ∨ t.closes = true ∧ ts = .comma :: t :: rest) := by
  cases ts with
  | nil => cases h
  | cons u ts =>
      rcases withoutTrailingCommas_cons_cases u ts with hkept | ⟨close, rest, hcloses, rfl, rfl, hkept⟩
      · rw [hkept] at h
        obtain ⟨rfl, rfl⟩ := List.cons.inj h
        exact ⟨ts, rfl, .inl rfl⟩
      · rw [hkept] at h
        obtain ⟨rfl, rfl⟩ := List.cons.inj h
        exact ⟨rest, rfl, .inr ⟨hcloses, rfl⟩⟩

/-- A token that does not close and is kept stands first. -/
theorem exists_of_withoutTrailingCommas_of_open {t : Token} {ts kept : List Token}
    (hopen : t.closes = false) (h : withoutTrailingCommas ts = t :: kept) :
    ∃ rest, ts = t :: rest ∧ withoutTrailingCommas rest = kept := by
  obtain ⟨rest, hrest, hts | ⟨hcloses, -⟩⟩ := exists_of_withoutTrailingCommas h
  · exact ⟨rest, hts, hrest⟩
  · rw [hopen] at hcloses
    cases hcloses

/-- Before a closing token there can have been a comma. -/
theorem exists_of_withoutTrailingCommas_of_closes {close : Token} {ts kept : List Token}
    (h : withoutTrailingCommas ts = close :: kept) :
    ∃ before rest, ts = before ++ close :: rest ∧ BeforeClose true before ∧
      withoutTrailingCommas rest = kept := by
  obtain ⟨rest, hrest, rfl | ⟨-, rfl⟩⟩ := exists_of_withoutTrailingCommas h
  · exact ⟨[], rest, rfl, .nothing, hrest⟩
  · exact ⟨[.comma], rest, rfl, .comma rfl, hrest⟩

/-! ## Commas after opening tokens -/

/-- Whether the token opens a list or an object. -/
def Token.opens : Token → Bool
  | openList | openObject => Bool.true
  | _ => Bool.false

/-- No comma comes right after a token that opens a list or an object. -/
def NoLoneComma (ts : List Token) : Prop :=
  ts.IsChain fun t u => t.opens = true → u.isComma = false

theorem NoLoneComma.right {us ts : List Token} (h : NoLoneComma (us ++ ts)) : NoLoneComma ts :=
  List.IsChain.right_of_append h

theorem NoLoneComma.tail {t : Token} {ts : List Token} (h : NoLoneComma (t :: ts)) :
    NoLoneComma ts :=
  List.IsChain.tail h

/-- After tokens that do not end with an opening one everything may come. -/
theorem NoLoneComma.append {ts us : List Token} (hts : NoLoneComma ts)
    (hlast : ∀ t ∈ ts.getLast?, t.opens = false) (hus : NoLoneComma us) : NoLoneComma (ts ++ us) := by
  refine List.isChain_append.mpr ⟨hts, hus, fun t ht u _ hopens => ?_⟩
  rw [hlast t ht] at hopens
  cases hopens

/-! ## Phrases with them -/

/-- From tokens that spell a phrase once their trailing commas are left out, the phrase can be taken
in the relaxed form, unless a comma comes right after an opening token. -/
def Recovers (phrase : Phrase) (kept : List Token) : Prop :=
  ∀ {ts more : List Token}, withoutTrailingCommas ts = kept ++ more → NoLoneComma ts →
    ∃ us rest, ts = us ++ rest ∧ Spells true phrase us ∧ withoutTrailingCommas rest = more

theorem recovers_token {phrase : Phrase} {t : Token} (hopen : t.closes = false)
    (h : Spells true phrase [t]) : Recovers phrase [t] := by
  intro ts more hts _
  obtain ⟨rest, rfl, hrest⟩ := exists_of_withoutTrailingCommas_of_open hopen hts
  exact ⟨[t], rest, rfl, h, hrest⟩

/-- Right after an opening token there was none. -/
theorem recovers_empty {phrase : Phrase} {opening close : Token} (hopen : opening.closes = false)
    (hopens : opening.opens = true) (h : Spells true phrase [opening, close]) :
    Recovers phrase [opening, close] := by
  intro ts more hts hbare
  obtain ⟨rest, rfl, hrest⟩ := exists_of_withoutTrailingCommas_of_open hopen hts
  obtain ⟨before, after, rfl, hbefore, hafter⟩ := exists_of_withoutTrailingCommas_of_closes hrest
  cases hbefore with
  | nothing => exact ⟨[opening, close], after, rfl, h, hafter⟩
  | comma =>
      have hcomma := (List.isChain_cons_cons.mp hbare).1 hopens
      cases hcomma

/-- What stands between brackets or braces is taken first, then a comma that may follow it. -/
theorem recovers_enclosed {inner phrase : Phrase} {opening close : Token} {kept : List Token}
    (hopen : opening.closes = false) (hinner : Recovers inner kept)
    (h : ∀ {us before : List Token}, Spells true inner us → BeforeClose true before →
      Spells true phrase (opening :: (us ++ (before ++ [close])))) :
    Recovers phrase (opening :: (kept ++ [close])) := by
  intro ts more hts hbare
  rw [List.cons_append, List.append_assoc] at hts
  obtain ⟨rest, rfl, hrest⟩ := exists_of_withoutTrailingCommas_of_open hopen hts
  obtain ⟨us, rest, rfl, hus, hafter⟩ := hinner hrest hbare.tail
  obtain ⟨before, after, rfl, hbefore, hmore⟩ := exists_of_withoutTrailingCommas_of_closes hafter
  exact ⟨opening :: (us ++ (before ++ [close])), after, by simp, h hus hbefore, hmore⟩

/-- Tokens that spell a phrase without their trailing commas spell it in the relaxed form with them,
unless a comma comes right after an opening token. -/
theorem recovers_of_spells {phrase : Phrase} {kept : List Token} (h : Spells false phrase kept) :
    Recovers phrase kept := by
  induction h with
  | null => exact recovers_token rfl .null
  | true => exact recovers_token rfl .true
  | false => exact recovers_token rfl .false
  | number n => exact recovers_token rfl (.number n)
  | string s => exact recovers_token rfl (.string s)
  | emptyList => exact recovers_empty rfl rfl .emptyList
  | emptyObject => exact recovers_empty rfl rfl .emptyObject
  | list _ ending ih =>
      cases ending with
      | nothing => exact recovers_enclosed rfl ih fun hus hbefore => .list hus hbefore
      | comma hrelaxed => cases hrelaxed
  | object _ ending ih =>
      cases ending with
      | nothing => exact recovers_enclosed rfl ih fun hus hbefore => .object hus hbefore
      | comma hrelaxed => cases hrelaxed
  | lastElement _ ih =>
      intro ts more hts hbare
      obtain ⟨us, rest, rfl, hus, hmore⟩ := ih hts hbare
      exact ⟨us, rest, rfl, .lastElement hus, hmore⟩
  | moreElements _ _ ih ihmore =>
      intro ts more hts hbare
      rw [List.append_assoc, List.cons_append] at hts
      obtain ⟨us, afterValue, rfl, hus, hvalue⟩ := ih hts hbare
      obtain ⟨afterComma, rfl, hcomma⟩ := exists_of_withoutTrailingCommas_of_open rfl hvalue
      obtain ⟨ws, rest, rfl, hws, hmore⟩ := ihmore hcomma hbare.right.tail
      exact ⟨us ++ .comma :: ws, rest, by simp, .moreElements hus hws, hmore⟩
  | lastMember key _ ih =>
      intro ts more hts hbare
      obtain ⟨afterKey, rfl, hkey⟩ := exists_of_withoutTrailingCommas_of_open rfl hts
      obtain ⟨afterColon, rfl, hcolon⟩ := exists_of_withoutTrailingCommas_of_open rfl hkey
      obtain ⟨us, rest, rfl, hus, hmore⟩ := ih hcolon hbare.tail.tail
      exact ⟨.string key :: .colon :: us, rest, rfl, .lastMember key hus, hmore⟩
  | moreMembers key _ _ ih ihmore =>
      intro ts more hts hbare
      rw [List.cons_append, List.cons_append, List.append_assoc, List.cons_append] at hts
      obtain ⟨afterKey, rfl, hkey⟩ := exists_of_withoutTrailingCommas_of_open rfl hts
      obtain ⟨afterColon, rfl, hcolon⟩ := exists_of_withoutTrailingCommas_of_open rfl hkey
      have hbareValue : NoLoneComma afterColon := hbare.tail.tail
      obtain ⟨us, afterValue, rfl, hus, hvalue⟩ := ih hcolon hbareValue
      obtain ⟨afterComma, rfl, hcomma⟩ := exists_of_withoutTrailingCommas_of_open rfl hvalue
      obtain ⟨ws, rest, rfl, hws, hmore⟩ := ihmore hcomma hbareValue.right.tail
      exact ⟨.string key :: .colon :: (us ++ .comma :: ws), rest, by simp,
        .moreMembers key hus hws, hmore⟩

/-- Tokens that spell a value without their trailing commas spell it in the relaxed form with them,
unless a comma comes right after an opening token. -/
theorem spells_relaxed_of_withoutTrailingCommas {v : Value} {ts : List Token}
    (h : Spells false (.value v) (withoutTrailingCommas ts)) (hbare : NoLoneComma ts) :
    Spells true (.value v) ts := by
  obtain ⟨us, rest, rfl, hus, hrest⟩ := recovers_of_spells h (List.append_nil _).symm hbare
  cases rest with
  | nil => rwa [List.append_nil]
  | cons t rest => exact absurd hrest (withoutTrailingCommas_ne_nil t rest)

/-- How the tokens of a phrase begin and end, and that no comma comes right after an opening one. -/
structure Bare (ts : List Token) : Prop where
  first : ∃ t rest, ts = t :: rest ∧ t.isComma = false
  last : ∀ t ∈ ts.getLast?, t.opens = false
  chain : NoLoneComma ts

theorem bare_token {t : Token} (hcomma : t.isComma = false) (hopens : t.opens = false) : Bare [t] :=
  ⟨⟨t, [], rfl, hcomma⟩, by simpa using hopens, List.isChain_singleton t⟩

namespace Bare

variable {ts us : List Token}

theorem cons (h : Bare ts) {t : Token} (hcomma : t.isComma = false) : Bare (t :: ts) := by
  obtain ⟨⟨u, rest, rfl, hfirst⟩, hlast, hchain⟩ := h
  refine ⟨⟨t, _, rfl, hcomma⟩, ?_, List.isChain_cons_cons.mpr ⟨fun _ => hfirst, hchain⟩⟩
  rwa [List.getLast?_cons_cons]

theorem enclosed (h : Bare ts) {relaxed : Bool} {before : List Token}
    (ending : BeforeClose relaxed before) {opening close : Token}
    (hopening : opening.isComma = false) (hclose : close.opens = false) :
    Bare (opening :: (ts ++ (before ++ [close]))) := by
  have hafter : NoLoneComma (before ++ [close]) := by
    cases ending with
    | nothing => exact List.isChain_singleton close
    | comma _ => exact List.isChain_cons_cons.mpr ⟨nofun, List.isChain_singleton close⟩
  apply cons _ hopening
  obtain ⟨⟨t, rest, rfl, hfirst⟩, hlast, hchain⟩ := h
  refine ⟨⟨t, _, rfl, hfirst⟩, ?_, hchain.append hlast hafter⟩
  rw [← List.append_assoc, List.getLast?_concat]
  simpa using hclose

theorem separated (hts : Bare ts) (hus : Bare us) : Bare (ts ++ .comma :: us) := by
  obtain ⟨⟨t, rest, rfl, hfirst⟩, hlast, hchain⟩ := hts
  obtain ⟨⟨u, more, rfl, -⟩, hlast', hchain'⟩ := hus
  have hcomma : NoLoneComma (.comma :: u :: more) := List.isChain_cons_cons.mpr ⟨nofun, hchain'⟩
  refine ⟨⟨t, _, rfl, hfirst⟩, ?_, hchain.append hlast hcomma⟩
  rwa [List.getLast?_append_of_ne_nil _ (List.cons_ne_nil _ _), List.getLast?_cons_cons]

end Bare

theorem bare_of_spells {relaxed : Bool} {phrase : Phrase} {ts : List Token}
    (h : Spells relaxed phrase ts) : Bare ts := by
  induction h with
  | null | true | false | number | string => exact bare_token rfl rfl
  | emptyList | emptyObject => exact (bare_token rfl rfl).cons rfl
  | list _ ending ih | object _ ending ih => exact ih.enclosed ending rfl rfl
  | lastElement _ ih => exact ih
  | moreElements _ _ ih ihmore => exact ih.separated ihmore
  | lastMember _ _ ih => exact (ih.cons rfl).cons rfl
  | moreMembers _ _ _ ih ihmore => exact ((ih.separated ihmore).cons rfl).cons rfl

/-- What tokens spell without their trailing commas they spell in the relaxed form with them, just if
no comma comes right after an opening token. -/
theorem spells_relaxed_iff {v : Value} {ts : List Token}
    (h : Spells false (.value v) (withoutTrailingCommas ts)) :
    Spells true (.value v) ts ↔ NoLoneComma ts :=
  ⟨fun hrelaxed => (bare_of_spells hrelaxed).chain, spells_relaxed_of_withoutTrailingCommas h⟩

end QuietEmit.Json
