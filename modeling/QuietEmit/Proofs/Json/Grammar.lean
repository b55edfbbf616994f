/-
  QuietEmit.Proofs.Json.Grammar

  What a JSON text denotes, by its grammar. A text is a list of tokens with gaps
  around them (`Layout`), and tokens spell a value (`Spells`). Tokens and gaps
  carry what makes them well-formed, so a layout is never faulty; only the order
  of its tokens can be.

  Strict JSON has white space in its gaps. The relaxed form has comments as well,
  and a comma may stand after the last element of a list and the last member of an
  object; without these commas its tokens spell the same value
  (`Spells.withoutTrailingCommas`).
-/
import Mathlib.Algebra.Field.Rat
import QuietEmit.Json.Reader
import QuietEmit.Syntax.StringLiteral

namespace QuietEmit.Json

/-! ## Values -/

/-- A value. Texts are sequences of UTF-16 units, since escapes can spell halves of surrogate pairs,
and an object is the list of its members. -/
inductive Value where
  | null
  | bool (b : Bool)
  | number (x : ℚ)
  | string (units : List Nat)
  | list (elements : List Value)
  | object (members : List (List Nat × Value))

/-! ## Numbers as written -/

/-- Digits, at least one. -/
structure Digits where
  first : Fin 10
  more : List (Fin 10) := []

namespace Digits

def toList (d : Digits) : List (Fin 10) := d.first :: d.more

/-- How digits are written. -/
def textOf (ds : List (Fin 10)) : List Char := ds.map fun d => Char.ofNat (48 + d.val)

/-- The number that digits stand for. -/
def valueOf (ds : List (Fin 10)) : Nat := ds.foldl (fun n d => n * 10 + d.val) 0

end Digits

/-- The sign of an exponent, which can be left out. -/
inductive ExponentSign where
  | absent
  | plus
  | minus

/-- An exponent. -/
structure Exponent where
  letter : Char
  letter_eq : letter = 'e' ∨ letter = 'E' := by decide
  sign : ExponentSign
  digits : Digits

namespace Exponent

def text (e : Exponent) : List Char :=
  let sign := match e.sign with
    | .absent => []
    | .plus => ['+']
    | .minus => ['-']
  e.letter :: sign ++ Digits.textOf e.digits.toList

def value (e : Exponent) : ℤ :=
  match e.sign with
  | .minus => -(Digits.valueOf e.digits.toList : ℤ)
  | _ => Digits.valueOf e.digits.toList

end Exponent

/-- A number as written: only a zero that stands alone comes first. -/
structure NumberText where
  negative : Bool := false
  whole : Digits
  leading : whole.first = 0 → whole.more = [] := by decide
  fraction : Option Digits := none
  exponent : Option Exponent := none

namespace NumberText

def text (n : NumberText) : List Char :=
  (if n.negative then ['-'] else []) ++ Digits.textOf n.whole.toList ++
    (n.fraction.elim [] fun d => '.' :: Digits.textOf d.toList) ++
    n.exponent.elim [] Exponent.text

/-- The digits before and after the point, shifted by the exponent. -/
def value (n : NumberText) : ℚ :=
  let after := n.fraction.elim [] Digits.toList
  let size : ℚ := Digits.valueOf (n.whole.toList ++ after) *
    10 ^ (n.exponent.elim 0 Exponent.value - (after.length : ℤ))
  if n.negative then -size else size

end NumberText

/-! ## Strings as written -/

/-- A piece of a string. -/
inductive StringPiece where
  /-- A character that stands for itself. -/
  | plain (c : Char) (quote : c ≠ '"') (escape : c ≠ '\\') (control : 32 ≤ c.toNat)
  /-- A backslash with one letter. -/
  | letter (c : Char) (known : (Reader.plainEscape? c).isSome)
  /-- A backslash, `u` and four hexadecimal digits. -/
  | unit (digits : List Char) (four : digits.length = 4)
    (hexadecimal : ∀ c ∈ digits, (Unicode.hexDigit? c).isSome)

namespace StringPiece

def text : StringPiece → List Char
  | plain c _ _ _ => [c]
  | letter c _ => ['\\', c]
  | unit digits _ _ => '\\' :: 'u' :: digits

def units : StringPiece → List Nat
  | plain c _ _ _ => StringLiteral.unitsOfChar c
  | letter c known => StringLiteral.unitsOfChar ((Reader.plainEscape? c).get known)
  | unit digits _ _ => [Unicode.hexValue digits]

/-- Characters that stand for themselves. -/
def plains (cs : List Char) (h : ∀ c ∈ cs, c ≠ '"' ∧ c ≠ '\\' ∧ 32 ≤ c.toNat) : List StringPiece :=
  cs.pmap (fun c h => plain c h.1 h.2.1 h.2.2) h

end StringPiece

/-! ## Tokens -/

/-- The words of the language. -/
inductive Word where
  | null
  | true
  | false

/-- A token as written. -/
inductive Token where
  | openList
  | closeList
  | openObject
  | closeObject
  | comma
  | colon
  | word (w : Word)
  | number (n : NumberText)
  | string (pieces : List StringPiece)

namespace Token

def text : Token → List Char
  | openList => ['[']
  | closeList => [']']
  | openObject => ['\x7b']
  | closeObject => ['\x7d']
  | comma => [',']
  | colon => [':']
  | word .null => ['n', 'u', 'l', 'l']
  | word .true => ['t', 'r', 'u', 'e']
  | word .false => ['f', 'a', 'l', 's', 'e']
  | number n => n.text
  | string pieces => '"' :: pieces.flatMap StringPiece.text ++ ['"']

def isComma : Token → Bool
  | comma => Bool.true
  | _ => Bool.false

/-- Whether the token closes a list or an object. -/
def closes : Token → Bool
  | closeList | closeObject => Bool.true
  | _ => Bool.false

end Token

/-- Whether the first of some tokens closes a list or an object. -/
def closesFirst (ts : List Token) : Bool := ts.head?.any Token.closes

/-- The tokens without the commas that come before a closing one. -/
def withoutTrailingCommas : List Token → List Token
  | [] => []
  | t :: ts =>
    if t.isComma && closesFirst ts then withoutTrailingCommas ts
    else t :: withoutTrailingCommas ts

theorem withoutTrailingCommas_cons {t : Token} (h : t.isComma = false) (ts : List Token) :
    withoutTrailingCommas (t :: ts) = t :: withoutTrailingCommas ts := by
  simp [withoutTrailingCommas, h]

/-! ## Tokens that spell a value -/

/-- What tokens can spell. -/
inductive Phrase where
  | value (v : Value)
  /-- Elements with commas between them, at least one. -/
  | elements (vs : List Value)
  /-- Members with commas between them, at least one. -/
  | members (ms : List (List Nat × Value))

/-- What may stand between the last element or member and the closing token. -/
inductive BeforeClose (relaxed : Bool) : List Token → Prop where
  | nothing : BeforeClose relaxed []
  | comma (h : relaxed = true) : BeforeClose relaxed [.comma]

/-- Tokens spell a phrase, in the strict or in the relaxed form. -/
inductive Spells (relaxed : Bool) : Phrase → List Token → Prop where
  | null : Spells relaxed (.value .null) [.word .null]
  | true : Spells relaxed (.value (.bool Bool.true)) [.word .true]
  | false : Spells relaxed (.value (.bool Bool.false)) [.word .false]
  | number (n : NumberText) : Spells relaxed (.value (.number n.value)) [.number n]
  | string (s : List StringPiece) :
      Spells relaxed (.value (.string (s.flatMap StringPiece.units))) [.string s]
  | emptyList : Spells relaxed (.value (.list [])) [.openList, .closeList]
  | list {vs : List Value} {ts before : List Token} (elements : Spells relaxed (.elements vs) ts)
      (ending : BeforeClose relaxed before) :
      Spells relaxed (.value (.list vs)) (.openList :: (ts ++ (before ++ [.closeList])))
  | emptyObject : Spells relaxed (.value (.object [])) [.openObject, .closeObject]
  | object {ms : List (List Nat × Value)} {ts before : List Token}
      (members : Spells relaxed (.members ms) ts) (ending : BeforeClose relaxed before) :
      Spells relaxed (.value (.object ms)) (.openObject :: (ts ++ (before ++ [.closeObject])))
  | lastElement {v : Value} {ts : List Token} (value : Spells relaxed (.value v) ts) :
      Spells relaxed (.elements [v]) ts
  | moreElements {v : Value} {vs : List Value} {ts us : List Token}
      (value : Spells relaxed (.value v) ts) (more : Spells relaxed (.elements vs) us) :
      Spells relaxed (.elements (v :: vs)) (ts ++ .comma :: us)
  | lastMember (key : List StringPiece) {v : Value} {ts : List Token}
      (value : Spells relaxed (.value v) ts) :
      Spells relaxed (.members [(key.flatMap StringPiece.units, v)])
        (.string key :: .colon :: ts)
  | moreMembers (key : List StringPiece) {v : Value} {ms : List (List Nat × Value)}
      {ts us : List Token} (value : Spells relaxed (.value v) ts)
      (more : Spells relaxed (.members ms) us) :
      Spells relaxed (.members ((key.flatMap StringPiece.units, v) :: ms))
        (.string key :: .colon :: (ts ++ .comma :: us))

/-- Tokens that spell a phrase do not begin with a closing one, and without the commas before closing
tokens they spell the same phrase in the strict form, whatever comes after them. -/
theorem Spells.settles {relaxed : Bool} {phrase : Phrase} {ts : List Token}
    (h : Spells relaxed phrase ts) :
    (∀ rest, closesFirst (ts ++ rest) = Bool.false) ∧
    ∃ us, Spells Bool.false phrase us ∧
      ∀ rest, withoutTrailingCommas (ts ++ rest) = us ++ withoutTrailingCommas rest := by
  induction h with
  | null => exact ⟨fun _ => rfl, _, .null, fun _ => rfl⟩
  | true => exact ⟨fun _ => rfl, _, .true, fun _ => rfl⟩
  | false => exact ⟨fun _ => rfl, _, .false, fun _ => rfl⟩
  | number n => exact ⟨fun _ => rfl, _, .number n, fun _ => rfl⟩
  | string s => exact ⟨fun _ => rfl, _, .string s, fun _ => rfl⟩
  | emptyList => exact ⟨fun _ => rfl, _, .emptyList, fun _ => rfl⟩
  | emptyObject => exact ⟨fun _ => rfl, _, .emptyObject, fun _ => rfl⟩
  | @list vs ts before _ ending ih =>
      obtain ⟨-, us, hus, hdrop⟩ := ih
      refine ⟨fun _ => rfl, _, .list hus .nothing, fun rest => ?_⟩
      have hclose : withoutTrailingCommas (before ++ .closeList :: rest) =
          .closeList :: withoutTrailingCommas rest := by
        cases ending with
        | nothing => rfl
        | comma _ => rfl
      rw [List.cons_append, withoutTrailingCommas_cons rfl, List.append_assoc, hdrop,
        List.append_assoc, List.singleton_append, hclose]
      simp
  | @object ms ts before _ ending ih =>
      obtain ⟨-, us, hus, hdrop⟩ := ih
      refine ⟨fun _ => rfl, _, .object hus .nothing, fun rest => ?_⟩
      have hclose : withoutTrailingCommas (before ++ .closeObject :: rest) =
          .closeObject :: withoutTrailingCommas rest := by
        cases ending with
        | nothing => rfl
        | comma _ => rfl
      rw [List.cons_append, withoutTrailingCommas_cons rfl, List.append_assoc, hdrop,
        List.append_assoc, List.singleton_append, hclose]
      simp
  | lastElement _ ih =>
      obtain ⟨hfirst, us, hus, hdrop⟩ := ih
      exact ⟨hfirst, us, .lastElement hus, hdrop⟩
  | @moreElements v vs ts us _ _ ih ihmore =>
      obtain ⟨hfirst, ts', hts', hdrop⟩ := ih
      obtain ⟨hnext, us', hus', hdropmore⟩ := ihmore
      refine ⟨fun rest => ?_, _, .moreElements hts' hus', fun rest => ?_⟩
      · rw [List.append_assoc]
        exact hfirst _
      · -- the comma stays, for what comes next does not close
        simp [hdrop, withoutTrailingCommas, Token.isComma, hnext, hdropmore]
  | lastMember key _ ih =>
      obtain ⟨-, us, hus, hdrop⟩ := ih
      refine ⟨fun _ => rfl, _, .lastMember key hus, fun rest => ?_⟩
      rw [List.cons_append, List.cons_append, withoutTrailingCommas_cons rfl,
        withoutTrailingCommas_cons rfl, hdrop, List.cons_append, List.cons_append]
  | @moreMembers key v ms ts us _ _ ih ihmore =>
      obtain ⟨-, ts', hts', hdrop⟩ := ih
      obtain ⟨hnext, us', hus', hdropmore⟩ := ihmore
      refine ⟨fun _ => rfl, _, .moreMembers key hts' hus', fun rest => ?_⟩
      simp [hdrop, withoutTrailingCommas, Token.isComma, hnext, hdropmore]

/-- Commas before closing tokens mean nothing. -/
theorem Spells.withoutTrailingCommas {relaxed : Bool} {phrase : Phrase} {ts : List Token}
    (h : Spells relaxed phrase ts) : Spells Bool.false phrase (withoutTrailingCommas ts) := by
  obtain ⟨-, us, hus, hdrop⟩ := h.settles
  have heq := hdrop []
  rw [List.append_nil] at heq
  rw [heq]
  simpa [Json.withoutTrailingCommas] using hus

/-! ## Gaps and layouts -/

/-- A piece of a gap between tokens. -/
inductive Trivia where
  | space (c : Char) (blank : Reader.isSpace c = true)
  /-- A comment up to the end of a line, that included. -/
  | line (body : List Char) (oneLine : '\n' ∉ body)
  /-- A comment that is closed where its body ends. -/
  | block (body : List Char) (unclosed : ¬ ['*', '/'] <:+: body)

namespace Trivia

def text : Trivia → List Char
  | space c _ => [c]
  | line body _ => '/' :: '/' :: (body ++ ['\n'])
  | block body _ => '/' :: '*' :: (body ++ ['*', '/'])

def isSpace : Trivia → Bool
  | space _ _ => Bool.true
  | _ => Bool.false

end Trivia

/-- What stands between two tokens. -/
abbrev Gap := List Trivia

/-- How a gap is written. -/
def Gap.text (gap : Gap) : List Char := gap.flatMap Trivia.text

/-- Tokens with gaps before, between and after them. A comment up to the end of the text may come
last. -/
structure Layout where
  pieces : List (Gap × Token)
  last : Gap
  comment : Option { body : List Char // '\n' ∉ body } := none

namespace Layout

def tokens (l : Layout) : List Token := l.pieces.map Prod.snd

/-- How the comment at the end of the text is written. -/
def commentText (l : Layout) : List Char := l.comment.elim [] fun body => '/' :: '/' :: body.val

def text (l : Layout) : List Char :=
  (l.pieces.flatMap fun piece => Gap.text piece.1 ++ piece.2.text) ++
    (Gap.text l.last ++ l.commentText)

/-- Whether there is only white space in the gaps. -/
def isStrict (l : Layout) : Bool :=
  l.pieces.all (fun piece => piece.1.all Trivia.isSpace) && l.last.all Trivia.isSpace &&
    l.comment.isNone

end Layout

end QuietEmit.Json
