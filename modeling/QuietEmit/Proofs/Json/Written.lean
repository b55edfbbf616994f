/-
  QuietEmit.Proofs.Json.Written

  Reading what was written. `Succeeds` says that a reader gives a value and what holds of
  it; like `Ensures` it follows the steps of a reader one by one. A reader `Reads` a text
  as a value if it takes exactly this text and gives the value, whatever comes after it.
  Written strings are read back whatever characters they hold (`reads_text`), and so are
  numbers (`reads_word32`), truth values (`reads_flag`) and the names of a choice
  (`reads_variant`).
-/
import QuietEmit.Json.Printer
import QuietEmit.Json.Reader
import QuietEmit.Proofs.Text.Cuts

namespace QuietEmit.Json

namespace Reader

variable {α β : Type}

/-! ## When a reader has to succeed -/

/-- From the cursor the reader gives something, and this has a property. -/
def Succeeds (r : Reader α) (s : Cursor) (P : α → Cursor → Prop) : Prop :=
  ∃ a s', r s = .ok a s' ∧ P a s'

section

variable {s : Cursor}

theorem Succeeds.mono {r : Reader α} {P Q : α → Cursor → Prop} (h : Succeeds r s P)
    (hPQ : ∀ a s', P a s' → Q a s') : Succeeds r s Q := by
  obtain ⟨a, s', hr, ha⟩ := h
  exact ⟨a, s', hr, hPQ a s' ha⟩

@[simp] theorem succeeds_pure {a : α} {P : α → Cursor → Prop} :
    Succeeds (pure a) s P ↔ P a s := by
  constructor
  · rintro ⟨_, _, ⟨⟩, h⟩
    exact h
  · intro h
    exact ⟨a, s, rfl, h⟩

@[simp] theorem succeeds_bind {r : Reader α} {f : α → Reader β} {P : β → Cursor → Prop} :
    Succeeds (r >>= f) s P ↔ Succeeds r s fun a s₁ => Succeeds (f a) s₁ P := by
  constructor
  · rintro ⟨b, s', hrun, hb⟩
    simp only [bind, EStateM.bind] at hrun
    split at hrun
    · next hr => exact ⟨_, _, hr, b, s', hrun, hb⟩
    · cases hrun
  · rintro ⟨a, s₁, hr, b, s', hf, hb⟩
    refine ⟨b, s', ?_, hb⟩
    simp only [bind, EStateM.bind, hr]
    exact hf

theorem Succeeds.bind {r : Reader α} {f : α → Reader β} {Q : α → Cursor → Prop}
    {P : β → Cursor → Prop} (h : Succeeds r s Q) (hf : ∀ a s', Q a s' → Succeeds (f a) s' P) :
    Succeeds (r >>= f) s P :=
  succeeds_bind.mpr (h.mono hf)

@[simp] theorem succeeds_get {P : Cursor → Cursor → Prop} : Succeeds get s P ↔ P s s := by
  constructor
  · rintro ⟨_, _, ⟨⟩, h⟩
    exact h
  · intro h
    exact ⟨s, s, rfl, h⟩

@[simp] theorem succeeds_set {s₁ : Cursor} {P : PUnit → Cursor → Prop} :
    Succeeds (set s₁) s P ↔ P ⟨⟩ s₁ := by
  constructor
  · rintro ⟨_, _, ⟨⟩, h⟩
    exact h
  · intro h
    exact ⟨⟨⟩, s₁, rfl, h⟩

@[simp] theorem succeeds_peek {P : Option Char → Cursor → Prop} :
    Succeeds peek s P ↔ P s.rest.head? s := by
  constructor
  · rintro ⟨_, _, ⟨⟩, h⟩
    exact h
  · intro h
    exact ⟨_, s, rfl, h⟩

variable {c : Char} {rest : List Char} {i : Nat}

@[simp] theorem succeeds_eat {P : Unit → Cursor → Prop} :
    Succeeds eat ⟨c :: rest, i⟩ P ↔ P () ⟨rest, i + c.utf8Size⟩ := by
  constructor
  · rintro ⟨_, _, ⟨⟩, h⟩
    exact h
  · intro h
    exact ⟨_, _, rfl, h⟩

@[simp] theorem succeeds_next {P : Option Char → Cursor → Prop} :
    Succeeds next ⟨c :: rest, i⟩ P ↔ P (some c) ⟨rest, i + c.utf8Size⟩ := by
  constructor
  · rintro ⟨_, _, ⟨⟩, h⟩
    exact h
  · intro h
    exact ⟨_, _, rfl, h⟩

/-- A character that is no white space is the next token. -/
theorem succeeds_peekToken (hc : isSpace c = false) {P : Option Char → Cursor → Prop} :
    Succeeds peekToken ⟨c :: rest, i⟩ P ↔ P (some c) ⟨c :: rest, i⟩ := by
  have hblank : (c :: rest).takeWhile isSpace = [] := List.takeWhile_cons_of_neg (by simp [hc])
  have hrun : peekToken ⟨c :: rest, i⟩ =
      .ok ((c :: rest).drop ((c :: rest).takeWhile isSpace).length).head?
        ⟨(c :: rest).drop ((c :: rest).takeWhile isSpace).length,
          i + ((c :: rest).takeWhile isSpace).length⟩ := rfl
  rw [hblank] at hrun
  constructor
  · rintro ⟨_, _, h, hP⟩
    rw [hrun] at h
    cases h
    exact hP
  · intro h
    exact ⟨_, _, hrun, h⟩

theorem succeeds_valueToken (hc : isSpace c = false) {P : Char → Cursor → Prop} :
    Succeeds valueToken ⟨c :: rest, i⟩ P ↔ P c ⟨c :: rest, i⟩ := by
  rw [valueToken, succeeds_bind, succeeds_peekToken hc]
  exact succeeds_pure

theorem Succeeds.placed {r : Reader α} {P : α → Cursor → Prop} (h : Succeeds r s P) :
    Succeeds (placed r) s P := by
  obtain ⟨a, s', hr, ha⟩ := h
  refine ⟨a, s', ?_, ha⟩
  simp only [Reader.placed, hr]

theorem Succeeds.followedBy {r : Reader α} {close : Reader Unit} {P : α → Cursor → Prop}
    (h : Succeeds r s fun a s₁ => Succeeds close s₁ fun _ s' => P a s') :
    Succeeds (followedBy r close) s P := by
  obtain ⟨a, s₁, hr, _, s', hclose, ha⟩ := h
  refine ⟨a, s', ?_, ha⟩
  simp only [Reader.followedBy, hr, hclose]

end

/-! ## Values in a text -/

/-- What may come after a value: a comma, or what closes a list or an object, or nothing. -/
def EndsValue (rest : List Char) : Prop :=
  ∀ c, rest.head? = some c → c = ',' ∨ c = ']' ∨ c = '\x7d'

/-- The reader takes exactly this text as the value, whatever comes after it. -/
def Reads (r : Reader α) (text : List Char) (a : α) : Prop :=
  ∀ rest i, EndsValue rest → Succeeds r ⟨text ++ rest, i⟩ fun a' s' => a' = a ∧ s'.rest = rest

theorem endsValue_nil : EndsValue [] := nofun

theorem endsValue_comma (rest : List Char) : EndsValue (',' :: rest) := by
  rintro c ⟨⟩
  exact .inl rfl

theorem endsValue_brace (rest : List Char) : EndsValue ('\x7d' :: rest) := by
  rintro c ⟨⟩
  exact .inr (.inr rfl)

/-- What is made of the value is made of what is read. -/
theorem Reads.map {r : Reader α} {text : List Char} {a : α} (h : Reads r text a) (f : α → β) :
    Reads (do return f (← r)) text (f a) := by
  intro rest i hrest
  refine (h rest i hrest).bind ?_
  rintro _ s₁ ⟨rfl, hs₁⟩
  exact succeeds_pure.mpr ⟨rfl, hs₁⟩

/-- A value that does not begin like `null` is read as one that is there. -/
theorem Reads.optional {r : Reader α} {c : Char} {text : List Char} {a : α}
    (h : Reads r (c :: text) a) (hspace : isSpace c = false) (hnull : c ≠ 'n') :
    Reads (optional r) (c :: text) (some a) := by
  intro rest i hrest
  rw [Reader.optional, List.cons_append, succeeds_bind, succeeds_peekToken hspace,
    if_neg (by simpa using hnull)]
  exact h.map some rest i hrest

theorem reads_null {r : Reader α} : Reads (optional r) "null".toList none := by
  intro rest i _
  have hnull : "null".toList = ['n', 'u', 'l', 'l'] := by decide
  rw [hnull, optional, List.cons_append, succeeds_bind, succeeds_peekToken (by decide), if_pos (by rfl)]
  simp [word]

/-- The text of a value, or `null` if there is none. -/
def orNull (text? : Option String) : String := text?.getD "null"

/-- What may be absent is read back from `null` or from a value, if no value begins like that. -/
theorem reads_optional {r : Reader α} {write : α → String} (h : ∀ a, Reads r (write a).toList a)
    (hhead : ∀ a, ∃ c cs, (write a).toList = c :: cs ∧ isSpace c = false ∧ c ≠ 'n')
    (value : Option α) : Reads (optional r) (orNull (value.map write)).toList value := by
  cases value with
  | none => exact reads_null
  | some a =>
      obtain ⟨c, cs, htext, hspace, hnull⟩ := hhead a
      have hread := h a
      rw [Option.map_some, orNull, Option.getD_some]
      rw [htext] at hread ⊢
      exact hread.optional hspace hnull

/-- A whole text that is read. -/
theorem Reads.run {r : Reader α} {text : List Char} {a : α} (h : Reads r text a) :
    r.run text = .ok a := by
  obtain ⟨_, ⟨_, j⟩, hrun, rfl, rfl⟩ := h [] 0 endsValue_nil
  rw [List.append_nil] at hrun
  simp only [Reader.run, bind, EStateM.bind, hrun]
  rfl

/-! ## Strings -/

theorem succeeds_hexEscape {digits : List Char} (four : digits.length = 4)
    (hall : (digits.all fun c => (Unicode.hexDigit? c).isSome) = true) {more : List Char} {i : Nat}
    {P : Nat → Cursor → Prop} (hP : P (Unicode.hexValue digits) ⟨more, i + 4⟩) :
    Succeeds hexEscape ⟨digits ++ more, i⟩ P := by
  have hlength : 4 ≤ Text.utf8Length (digits ++ more) := by
    have hle := Text.length_le_utf8Length digits
    rw [Text.utf8Length_append]
    omega
  have htake : (digits ++ more).take 4 = digits := by rw [← four, List.take_left]
  have hdrop : (digits ++ more).drop 4 = more := by rw [← four, List.drop_left]
  simp only [hexEscape, succeeds_bind, succeeds_get, if_neg (Nat.not_lt.mpr hlength), htake, hdrop,
    hall, if_true, succeeds_set, succeeds_pure]
  exact hP

/-- A control character is spelt by the last two of four digits. -/
theorem hexValue_control : ∀ n < 32,
    Unicode.hexValue ['0', '0', hexChar (n / 16), hexChar (n % 16)] = n ∧
      (['0', '0', hexChar (n / 16), hexChar (n % 16)].all fun c => (Unicode.hexDigit? c).isSome) =
        true := by
  decide

theorem succeeds_unicodeEscape {c : Char} (hc : c.toNat < 32) {more : List Char} {i : Nat}
    {P : Char → Cursor → Prop} (hP : ∀ j, P c ⟨more, j⟩) :
    Succeeds unicodeEscape
      ⟨['0', '0', hexChar (c.toNat / 16), hexChar (c.toNat % 16)] ++ more, i⟩ P := by
  obtain ⟨hvalue, hdigits⟩ := hexValue_control c.toNat hc
  have hlow : ¬ 0xDC00 ≤ c.toNat := by omega
  have hhigh : c.toNat < 0xD800 := by omega
  rw [unicodeEscape, succeeds_bind]
  refine succeeds_hexEscape rfl hdigits ?_
  rw [hvalue]
  simp [hlow, hhigh, Char.ofNat_toNat, hP]

/-- One character of a string, as it is written. -/
theorem succeeds_stringBody {fuel : Nat} {seen : List Char} {c : Char} {more : List Char}
    {i : Nat} {P : List Char → Cursor → Prop}
    (h : ∀ j, Succeeds (stringBody fuel (c :: seen)) ⟨more, j⟩ P) :
    Succeeds (stringBody (fuel + 1) seen) ⟨escapeChar c ++ more, i⟩ P := by
  rw [escapeChar.eq_def]
  split
  -- seven characters have a letter of their own, the other control characters have a number
  iterate 7 simp [stringBody, escape, plainEscape?, h]
  next =>
    split
    · next hcontrol =>
      simp only [List.cons_append, stringBody, succeeds_bind, succeeds_peek, List.head?_cons,
        succeeds_eat, escape, succeeds_next]
      exact succeeds_unicodeEscape hcontrol h
    · next hcontrol =>
      simp [stringBody, hcontrol, h]

/-- A written string is read back, whatever characters it holds. -/
theorem succeeds_stringBody_quoted {fuel : Nat} {s : List Char} (hfuel : s.length < fuel)
    {seen rest : List Char} {i : Nat} {P : List Char → Cursor → Prop}
    (h : ∀ j, P (seen.reverse ++ s) ⟨rest, j⟩) :
    Succeeds (stringBody fuel seen) ⟨s.flatMap escapeChar ++ '"' :: rest, i⟩ P := by
  induction s generalizing fuel seen i with
  | nil =>
      obtain ⟨fuel, rfl⟩ := Nat.exists_eq_add_one_of_ne_zero (Nat.ne_of_gt hfuel)
      rw [List.append_nil] at h
      simp only [List.flatMap_nil, List.nil_append, stringBody, succeeds_bind, succeeds_peek,
        List.head?_cons, succeeds_eat, succeeds_pure]
      exact h _
  | cons c s ih =>
      obtain ⟨fuel, rfl⟩ := Nat.exists_eq_add_one_of_ne_zero (Nat.ne_of_gt (Nat.zero_lt_of_lt hfuel))
      rw [List.flatMap_cons, List.append_assoc]
      refine succeeds_stringBody fun j => ?_
      refine ih (Nat.lt_of_succ_lt_succ hfuel) fun j => ?_
      rw [List.reverse_cons, List.append_assoc]
      exact h j

theorem length_le_flatMap_escapeChar (s : List Char) : s.length ≤ (s.flatMap escapeChar).length := by
  induction s with
  | nil => exact Nat.le_refl _
  | cons c s ih =>
      have hne : 0 < (escapeChar c).length := by
        rw [escapeChar.eq_def]
        split
        iterate 7 decide
        split <;> exact Nat.zero_lt_succ _
      rw [List.flatMap_cons, List.length_append, List.length_cons]
      omega

theorem toList_quoted (s : String) (rest : List Char) :
    (quoted s).toList ++ rest = '"' :: (s.toList.flatMap escapeChar ++ '"' :: rest) := by
  rw [quoted, String.toList_ofList]
  simp

theorem succeeds_stringToken {s : String} {rest : List Char} {i : Nat} {P : String → Cursor → Prop}
    (h : ∀ j, P s ⟨rest, j⟩) : Succeeds stringToken ⟨(quoted s).toList ++ rest, i⟩ P := by
  have hlength : s.toList.length < (s.toList.flatMap escapeChar ++ '"' :: rest).length + 1 := by
    have hle := length_le_flatMap_escapeChar s.toList
    rw [List.length_append]
    omega
  rw [toList_quoted]
  simp only [stringToken, succeeds_bind, succeeds_eat, succeeds_get, succeeds_pure]
  refine succeeds_stringBody_quoted hlength fun j => ?_
  rw [List.reverse_nil, List.nil_append, String.ofList_toList]
  exact h j

theorem reads_text (expected s : String) : Reads (text expected) (quoted s).toList s := by
  intro rest i _
  have hquote := toList_quoted s rest
  rw [text, succeeds_bind, hquote, succeeds_valueToken (by decide), if_pos (by rfl), ← hquote]
  exact succeeds_stringToken fun j => ⟨rfl, rfl⟩

/-- A string that may be absent is read back. -/
theorem reads_optional_text (expected : String) (value : Option String) :
    Reads (optional (text expected)) (orNull (value.map quoted)).toList value := by
  refine reads_optional (reads_text expected) (fun s => ?_) value
  have hquote := toList_quoted s []
  rw [List.append_nil] at hquote
  exact ⟨'"', _, hquote, by decide, by decide⟩

/-! ## Numbers -/

/-- Digits in front of what may come after a value. -/
theorem succeeds_digits {ds rest : List Char} (hds : ∀ c ∈ ds, c.isDigit = true)
    (hrest : EndsValue rest) {i : Nat} {P : List Char → Cursor → Prop} (h : ∀ j, P ds ⟨rest, j⟩) :
    Succeeds digits ⟨ds ++ rest, i⟩ P := by
  have hnone : rest.takeWhile Char.isDigit = [] := by
    cases rest with
    | nil => rfl
    | cons c rest =>
        rcases hrest c rfl with rfl | rfl | rfl
        all_goals rfl
  have htake : (ds ++ rest).takeWhile Char.isDigit = ds := by
    rw [List.takeWhile_append_of_pos hds, hnone, List.append_nil]
  have hrun : digits ⟨ds ++ rest, i⟩ = .ok ((ds ++ rest).takeWhile Char.isDigit)
      ⟨(ds ++ rest).drop ((ds ++ rest).takeWhile Char.isDigit).length,
        i + ((ds ++ rest).takeWhile Char.isDigit).length⟩ := rfl
  rw [htake, List.drop_left] at hrun
  exact ⟨_, _, hrun, h _⟩

theorem eq_zero_of_digitChar : ∀ n < 10, n.digitChar = '0' → n = 0 := by
  decide

/-- Only zero begins with a zero. -/
theorem eq_zero_of_toDigits {n : Nat} {ds : List Char} (h : Nat.toDigits 10 n = '0' :: ds) :
    n = 0 := by
  induction n using Nat.strongRecOn generalizing ds with
  | _ n ih =>
    rw [Nat.toDigits_eq_if (by decide)] at h
    split at h
    · next hlt => exact eq_zero_of_digitChar n hlt (List.cons.inj h).1
    · next hge =>
      cases hhigh : Nat.toDigits 10 (n / 10) with
      | nil => exact absurd hhigh Nat.toDigits_ne_nil
      | cons d more =>
          rw [hhigh, List.cons_append] at h
          obtain ⟨rfl, -⟩ := List.cons.inj h
          have hquotient := ih (n / 10) (by omega) hhigh
          omega

theorem isSpace_of_isDigit {c : Char} (h : c.isDigit = true) : isSpace c = false := by
  rw [Bool.eq_false_iff]
  intro hspace
  simp only [isSpace, Bool.or_eq_true, beq_iff_eq] at hspace
  rcases hspace with ((rfl | rfl) | rfl) | rfl
  all_goals exact absurd h (by decide)

theorem ne_minus_of_isDigit {c : Char} (h : c.isDigit = true) : (c == '-') = false := by
  rw [beq_eq_false_iff_ne]
  rintro rfl
  exact absurd h (by decide)

theorem EndsValue.not_isDigit {rest : List Char} (h : EndsValue rest) {c : Char}
    (hc : rest.head? = some c) : c.isDigit = false := by
  rcases h c hc with rfl | rfl | rfl
  all_goals decide

theorem succeeds_integerDigits (n : Nat) {rest : List Char} (hrest : EndsValue rest) {i : Nat}
    {P : List Char → Cursor → Prop} (h : ∀ j, P (Nat.toDigits 10 n) ⟨rest, j⟩) :
    Succeeds integerDigits ⟨Nat.toDigits 10 n ++ rest, i⟩ P := by
  have hdigit : ∀ c ∈ Nat.toDigits 10 n, c.isDigit = true :=
    fun _ => Nat.isDigit_of_mem_toDigits (by decide) (by decide)
  cases hds : Nat.toDigits 10 n with
  | nil => exact absurd hds Nat.toDigits_ne_nil
  | cons d ds =>
      rw [hds] at h hdigit
      obtain ⟨hd, hmore⟩ := List.forall_mem_cons.mp hdigit
      rw [List.cons_append, integerDigits, succeeds_bind, succeeds_next]
      by_cases hzero : d = '0'
      -- a zero has to stand alone, and nothing else is written with one in front
      · subst hzero
        obtain rfl := eq_zero_of_toDigits hds
        obtain rfl : ds = [] := (List.cons.inj hds).2.symm
        simp only [succeeds_bind, succeeds_peek, List.nil_append]
        split
        · next c hc =>
          rw [hrest.not_isDigit hc]
          exact succeeds_pure.mpr (h _)
        · exact succeeds_pure.mpr (h _)
      · split
        · next heq => cases heq
        · next heq => exact absurd (Option.some.inj heq) hzero
        · next heq =>
          obtain rfl := Option.some.inj heq
          rw [if_pos hd, succeeds_bind]
          refine succeeds_digits hmore hrest fun j => ?_
          exact succeeds_pure.mpr (h j)

theorem le_ofDigitChars (ds : List Char) (n : Nat) : n ≤ Nat.ofDigitChars 10 ds n := by
  induction ds generalizing n with
  | nil => exact Nat.le_of_eq Nat.ofDigitChars_nil.symm
  | cons d ds ih =>
      have hle := ih (10 * n + (d.toNat - '0'.toNat))
      rw [Nat.ofDigitChars_cons]
      omega

theorem significand_cons {n : Nat} {d : Char} {ds : List Char}
    (hfits : n * 10 + digitValue d < UInt64.size) :
    significand n (d :: ds) = significand (n * 10 + digitValue d) ds := by
  simp only [significand, List.foldl_cons, hfits, beq_self_eq_true, decide_true, Bool.and_self,
    if_true]

/-- Digits of a number that fits are all kept. -/
theorem significand_eq {ds : List Char} {n : Nat} (h : Nat.ofDigitChars 10 ds n < UInt64.size) :
    significand n ds = (Nat.ofDigitChars 10 ds n, 0) := by
  induction ds generalizing n with
  | nil => rfl
  | cons d ds ih =>
      have hstep : n * 10 + digitValue d = 10 * n + (d.toNat - '0'.toNat) := by
        rw [digitValue, Nat.mul_comm]
        rfl
      rw [Nat.ofDigitChars_cons, ← hstep] at h ⊢
      rw [significand_cons (Nat.lt_of_le_of_lt (le_ofDigitChars ds _) h)]
      exact ih h

/-- A natural number of 64 bits is read back. -/
theorem succeeds_number {n : Nat} (hn : n < UInt64.size) {rest : List Char} (hrest : EndsValue rest)
    {i : Nat} {P : Number → Cursor → Prop} (h : ∀ j, P (.integer n) ⟨rest, j⟩) :
    Succeeds (number false) ⟨Nat.toDigits 10 n ++ rest, i⟩ P := by
  have hpoint : (rest.head? == some '.') = false := by
    cases hhead : rest.head? with
    | none => rfl
    | some c =>
        rcases hrest c hhead with rfl | rfl | rfl
        all_goals rfl
  rw [number, succeeds_bind]
  refine succeeds_integerDigits n hrest fun j => ?_
  have hwhole : significand 0 (Nat.toDigits 10 n) = (n, 0) := by
    rw [significand_eq (by rwa [Nat.ofDigitChars_ten_toDigits]), Nat.ofDigitChars_ten_toDigits]
  have hexponent : ∀ {Q : Option Int → Cursor → Prop}, Q none ⟨rest, j⟩ →
      Succeeds (exponentPart (n == 0)) ⟨rest, j⟩ Q := by
    intro Q hQ
    rw [exponentPart, succeeds_bind, succeeds_peek]
    cases hhead : rest.head? with
    | none => exact succeeds_pure.mpr hQ
    | some c =>
        rcases hrest c hhead with rfl | rfl | rfl
        all_goals exact succeeds_pure.mpr hQ
  simp only [fractionDigits, succeeds_bind, succeeds_peek, hpoint, hwhole]
  rw [if_neg (by decide), succeeds_pure]
  refine hexponent ?_
  exact succeeds_pure.mpr (h j)

/-- A written number is read back. -/
theorem reads_word32 (n : UInt32) : Reads word32 (toString n).toList n := by
  intro rest i hrest
  have htext : (toString n).toList = Nat.toDigits 10 n.toNat := Nat.toList_repr
  have hn : n.toNat < UInt32.size := n.toNat_lt_size
  rw [htext]
  cases hds : Nat.toDigits 10 n.toNat with
  | nil => exact absurd hds Nat.toDigits_ne_nil
  | cons d ds =>
      have hfirst : d ∈ Nat.toDigits 10 n.toNat := hds ▸ List.mem_cons_self
      have hd : d.isDigit = true := Nat.isDigit_of_mem_toDigits (by decide) (by decide) hfirst
      have hspace := isSpace_of_isDigit hd
      have hsign := ne_minus_of_isDigit hd
      refine Succeeds.placed ?_
      rw [List.cons_append, succeeds_bind, succeeds_valueToken hspace, ← List.cons_append, ← hds]
      simp only [hd, hsign, Bool.not_true, Bool.and_false, Bool.false_eq_true, if_false,
        succeeds_bind]
      refine succeeds_number (Nat.lt_trans hn (by decide)) hrest fun j => ?_
      have hrange : (decide (0 ≤ (n.toNat : Int)) && decide ((n.toNat : Int) < UInt32.size)) = true := by
        rw [decide_eq_true (Int.natCast_nonneg _), decide_eq_true (Int.ofNat_lt.mpr hn)]
        rfl
      simp only [hrange, if_true, succeeds_pure]
      exact ⟨UInt32.ofNat_toNat, trivial⟩

/-! ## Truth values and names -/

/-- A written truth value is read back. -/
theorem reads_flag (b : Bool) : Reads flag (toString b).toList b := by
  have hfalse : (toString false).toList = ['f', 'a', 'l', 's', 'e'] := by decide
  have htrue : (toString true).toList = ['t', 'r', 'u', 'e'] := by decide
  intro rest i _
  rw [flag, succeeds_bind]
  cases b with
  | false =>
      rw [hfalse, List.cons_append, succeeds_valueToken (by decide)]
      simp [word]
  | true =>
      rw [htrue, List.cons_append, succeeds_valueToken (by decide)]
      simp [word]

/-- One of the names, written as a string, is read back. -/
theorem reads_variant {names : List String} {name : String} (h : name ∈ names) :
    Reads (variant names) (quoted name).toList name := by
  intro rest i _
  have hquote := toList_quoted name rest
  rw [variant, succeeds_bind, hquote, succeeds_peekToken (by decide)]
  simp only [succeeds_bind]
  rw [succeeds_valueToken (by decide), if_neg (by decide), ← hquote]
  refine Succeeds.placed (succeeds_bind.mpr (succeeds_stringToken fun j => ?_))
  rw [if_pos (List.contains_iff_mem.mpr h)]
  exact succeeds_pure.mpr ⟨rfl, rfl⟩

end Reader

end QuietEmit.Json
