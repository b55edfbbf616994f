/-
  QuietEmit.Proofs.Json.Lexemes

  What the readers of single tokens take from a text. `Ensures` says what holds
  whenever a reader succeeds; it follows the steps of a reader one by one, and the
  simp lemmas beside it run the small ones. A reader of words, strings or numbers
  then has one theorem: the text it stepped over is that of a token.
-/
import Mathlib.Data.List.TakeWhile
import QuietEmit.Proofs.Json.Grammar

namespace QuietEmit.Json

namespace Reader

/-! ## When a reader succeeds -/

/-- Whatever a reader gives from a cursor has a property, unless it fails. -/
def Ensures {α : Type} (r : Reader α) (s : Cursor) (P : α → Cursor → Prop) : Prop :=
  ∀ a s', r s = .ok a s' → P a s'

section

variable {α β : Type} {s : Cursor}

theorem Ensures.mono {r : Reader α} {P Q : α → Cursor → Prop} (h : Ensures r s P)
    (hPQ : ∀ a s', P a s' → Q a s') : Ensures r s Q :=
  fun a s' hr => hPQ a s' (h a s' hr)

theorem Ensures.elim {r : Reader α} {P : α → Cursor → Prop} {a : α} {s' : Cursor}
    (hrun : r s = .ok a s') (h : Ensures r s P) : P a s' :=
  h a s' hrun

@[simp] theorem ensures_pure {a : α} {P : α → Cursor → Prop} :
    Ensures (pure a) s P ↔ P a s := by
  constructor
  · intro h
    exact h a s rfl
  · rintro h _ _ ⟨⟩
    exact h

@[simp] theorem ensures_bind {r : Reader α} {f : α → Reader β} {P : β → Cursor → Prop} :
    Ensures (r >>= f) s P ↔ Ensures r s fun a s₁ => Ensures (f a) s₁ P := by
  constructor
  · intro h a s₁ hr b s' hf
    apply h b s'
    simp only [bind, EStateM.bind, hr]
    exact hf
  · intro h b s' hrun
    simp only [bind, EStateM.bind] at hrun
    split at hrun
    · exact h _ _ ‹_› b s' hrun
    · cases hrun

theorem Ensures.bind {r : Reader α} {f : α → Reader β} {Q : α → Cursor → Prop}
    {P : β → Cursor → Prop} (h : Ensures r s Q) (hf : ∀ a s', Q a s' → Ensures (f a) s' P) :
    Ensures (r >>= f) s P :=
  ensures_bind.mpr (h.mono hf)

@[simp] theorem ensures_discard {r : Reader α} {P : Unit → Cursor → Prop} :
    Ensures (discard r) s P ↔ Ensures r s fun _ s' => P () s' := by
  have hdiscard : discard r = r >>= fun _ => pure () := rfl
  rw [hdiscard, ensures_bind]
  simp only [ensures_pure]

@[simp] theorem ensures_get {P : Cursor → Cursor → Prop} : Ensures get s P ↔ P s s :=
  ⟨fun h => h s s rfl, fun h => by rintro _ _ ⟨⟩; exact h⟩

@[simp] theorem ensures_set {s₁ : Cursor} {P : PUnit → Cursor → Prop} :
    Ensures (set s₁) s P ↔ P ⟨⟩ s₁ :=
  ⟨fun h => h ⟨⟩ s₁ rfl, fun h => by rintro _ _ ⟨⟩; exact h⟩

@[simp] theorem ensures_throw {e : Fault} {P : α → Cursor → Prop} :
    Ensures (throw e) s P ↔ True :=
  iff_true_intro fun _ _ h => by cases h

@[simp] theorem ensures_failHere {cause : Cause} {P : α → Cursor → Prop} :
    Ensures (failHere cause) s P ↔ True :=
  iff_true_intro fun _ _ h => by cases h

theorem ensures_failHere_bind {cause : Cause} {f : α → Reader β} {P : β → Cursor → Prop} :
    Ensures (failHere cause >>= f) s P ↔ True := by
  rw [ensures_bind, ensures_failHere]

@[simp] theorem ensures_failAhead {cause : Cause} {P : α → Cursor → Prop} :
    Ensures (failAhead cause) s P ↔ True :=
  iff_true_intro fun _ _ h => by cases h

@[simp] theorem ensures_failLater {cause : Cause} {P : α → Cursor → Prop} :
    Ensures (failLater cause) s P ↔ True :=
  iff_true_intro fun _ _ h => by cases h

@[simp] theorem ensures_peek {P : Option Char → Cursor → Prop} :
    Ensures peek s P ↔ P s.rest.head? s :=
  ⟨fun h => h _ s rfl, fun h => by rintro _ _ ⟨⟩; exact h⟩

@[simp] theorem ensures_eat {c : Char} {rest : List Char} {i : Nat} {P : Unit → Cursor → Prop} :
    Ensures eat ⟨c :: rest, i⟩ P ↔ P () ⟨rest, i + c.utf8Size⟩ :=
  ⟨fun h => h _ _ rfl, fun h => by rintro _ _ ⟨⟩; exact h⟩

@[simp] theorem ensures_next {c : Char} {rest : List Char} {i : Nat}
    {P : Option Char → Cursor → Prop} :
    Ensures next ⟨c :: rest, i⟩ P ↔ P (some c) ⟨rest, i + c.utf8Size⟩ :=
  ⟨fun h => h _ _ rfl, fun h => by rintro _ _ ⟨⟩; exact h⟩

@[simp] theorem ensures_next_nil {i : Nat} {P : Option Char → Cursor → Prop} :
    Ensures next ⟨[], i⟩ P ↔ P none ⟨[], i⟩ :=
  ⟨fun h => h _ _ rfl, fun h => by rintro _ _ ⟨⟩; exact h⟩

theorem ensures_ite {c : Prop} [Decidable c] {r r' : Reader α} {P : α → Cursor → Prop} :
    Ensures (if c then r else r') s P ↔ (c → Ensures r s P) ∧ (¬ c → Ensures r' s P) := by
  split <;> simp [*]

end

/-! ## Words -/

theorem ensures_word (cs : List Char) (s : Cursor) :
    Ensures (word cs) s fun _ s' => s.rest = cs ++ s'.rest := by
  induction cs generalizing s with
  | nil => simp [word]
  | cons c cs ih =>
      obtain ⟨_ | ⟨d, rest⟩, i⟩ := s
      · simp [word]
      · simp only [word, ensures_bind, ensures_next]
        split
        · rename_i heq
          obtain rfl := eq_of_beq heq
          refine (ih _).mono fun _ s' hrest => ?_
          exact congrArg _ hrest
        · simp

/-! ## Strings -/

/-- What is left of a text after the rest of a string. -/
def ClosesString (text rest : List Char) : Prop :=
  ∃ ps : List StringPiece, text = ps.flatMap StringPiece.text ++ '"' :: rest

theorem ClosesString.nil (rest : List Char) : ClosesString ('"' :: rest) rest := ⟨[], rfl⟩

theorem ClosesString.append {text rest : List Char} (h : ClosesString text rest)
    (ps : List StringPiece) : ClosesString (ps.flatMap StringPiece.text ++ text) rest := by
  obtain ⟨qs, rfl⟩ := h
  exact ⟨ps ++ qs, by rw [List.flatMap_append, List.append_assoc]⟩

theorem utf8Size_of_hexDigit {c : Char} (h : (Unicode.hexDigit? c).isSome) : c.utf8Size = 1 := by
  have hle : c.val ≤ 127 := by
    simp only [Unicode.hexDigit?, Char.le_def, UInt32.le_iff_toNat_le, Bool.and_eq_true,
      decide_eq_true_eq] at h ⊢
    split at h
    · next hdigit => exact hdigit.2.trans (by decide)
    · split at h
      · next hlower => exact hlower.2.trans (by decide)
      · split at h
        · next hupper => exact hupper.2.trans (by decide)
        · cases h
  exact Char.utf8Size_eq_one_iff.mpr hle

theorem utf8Length_of_hexDigits {cs : List Char} (h : ∀ c ∈ cs, (Unicode.hexDigit? c).isSome) :
    Text.utf8Length cs = cs.length := by
  induction cs with
  | nil => rfl
  | cons c cs ih =>
      obtain ⟨hc, hcs⟩ := List.forall_mem_cons.mp h
      rw [Text.utf8Length_cons, utf8Size_of_hexDigit hc, ih hcs, List.length_cons, Nat.add_comm]

theorem ensures_hexEscape (s : Cursor) : Ensures hexEscape s fun _ s' =>
    ∃ digits : List Char, digits.length = 4 ∧ (∀ c ∈ digits, (Unicode.hexDigit? c).isSome) ∧
      s.rest = digits ++ s'.rest := by
  simp only [hexEscape, ensures_bind, ensures_get]
  split
  · simp
  · next hlong =>
    split
    · next hall =>
      simp only [ensures_bind, ensures_set, ensures_pure]
      have hhex : ∀ c ∈ s.rest.take 4, (Unicode.hexDigit? c).isSome := by simpa using hall
      refine ⟨s.rest.take 4, ?_, hhex, (List.take_append_drop 4 s.rest).symm⟩
      -- a shorter text of such digits has too few bytes
      by_contra hshort
      have htake : s.rest.take 4 = s.rest := by
        apply List.take_of_length_le
        rw [List.length_take] at hshort
        omega
      rw [htake] at hhex
      rw [utf8Length_of_hexDigits hhex] at hlong
      rw [List.length_take] at hshort
      omega
    · simp

/-- The second half of a pair of escapes has to begin as an escape does. -/
theorem ensures_expect (wanted : Char) (s : Cursor) :
    Ensures (do
      match ← peek with
      | none => failHere .endInString
      | some c =>
        eat
        if c != wanted then failHere .endOfHexEscape) s fun _ s' => s.rest = wanted :: s'.rest := by
  obtain ⟨_ | ⟨c, rest⟩, i⟩ := s
  · simp
  · simp only [ensures_bind, ensures_peek, List.head?_cons, ensures_eat, ensures_ite,
      ensures_failHere, ensures_pure, implies_true, true_and]
    intro hsame
    rw [show c = wanted by simpa using hsame]

theorem ensures_unicodeEscape (s : Cursor) : Ensures unicodeEscape s fun _ s' =>
    ∃ ps : List StringPiece, '\\' :: 'u' :: s.rest = ps.flatMap StringPiece.text ++ s'.rest := by
  refine (ensures_hexEscape s).bind ?_
  rintro n s₁ ⟨digits, four, hexadecimal, hrest⟩
  simp only [ensures_ite, ensures_failHere_bind, ensures_pure, implies_true, true_and]
  intro _
  constructor
  · intro _
    exact ⟨[.unit digits four hexadecimal], by simp [StringPiece.text, hrest]⟩
  · -- half a pair of surrogates
    intro _
    refine (ensures_expect '\\' s₁).bind fun _ s₂ hbackslash => ?_
    refine (ensures_expect 'u' s₂).bind fun _ s₃ hletter => ?_
    refine (ensures_hexEscape s₃).bind ?_
    rintro m s₄ ⟨low, lowFour, lowHexadecimal, hlow⟩
    simp only [ensures_ite, ensures_failHere_bind, ensures_pure, implies_true, true_and]
    intro _
    refine ⟨[.unit digits four hexadecimal, .unit low lowFour lowHexadecimal], ?_⟩
    simp [StringPiece.text, hrest, hbackslash, hletter, hlow]

theorem ensures_escape (s : Cursor) : Ensures escape s fun _ s' =>
    ∃ ps : List StringPiece, '\\' :: s.rest = ps.flatMap StringPiece.text ++ s'.rest := by
  obtain ⟨_ | ⟨c, rest⟩, i⟩ := s
  · simp [escape]
  · simp only [escape, ensures_bind, ensures_next]
    split
    · next heq => cases heq
    · next heq =>
      obtain rfl := Option.some.inj heq
      exact ensures_unicodeEscape _
    · next heq =>
      obtain rfl := Option.some.inj heq
      split
      · next hknown =>
        rw [ensures_pure]
        exact ⟨[.letter c (by simp [hknown])], rfl⟩
      · simp

theorem ensures_stringBody (fuel : Nat) (seen : List Char) (s : Cursor) :
    Ensures (stringBody fuel seen) s fun _ s' => ClosesString s.rest s'.rest := by
  induction fuel generalizing seen s with
  | zero => simp [stringBody]
  | succ fuel ih =>
      obtain ⟨_ | ⟨c, rest⟩, i⟩ := s
      · simp [stringBody]
      · simp only [stringBody, ensures_bind, ensures_peek, List.head?_cons]
        split
        · next heq => cases heq
        · next heq =>
          obtain rfl := Option.some.inj heq
          simp only [ensures_bind, ensures_eat, ensures_pure]
          exact .nil rest
        · next heq =>
          obtain rfl := Option.some.inj heq
          simp only [ensures_bind, ensures_eat]
          refine (ensures_escape _).mono ?_
          rintro c s₁ ⟨ps, hpiece⟩
          refine (ih _ s₁).mono fun _ s₂ hclose => ?_
          show ClosesString ('\\' :: rest) s₂.rest
          rw [hpiece]
          exact hclose.append ps
        · next hquote hescape heq =>
          obtain rfl := Option.some.inj heq
          simp only [ensures_bind, ensures_eat, ensures_ite, ensures_failHere, implies_true,
            true_and]
          intro hcontrol
          refine (ih _ _).mono fun _ s₁ hclose => ?_
          exact hclose.append [.plain c hquote hescape (by omega)]

theorem ensures_stringToken (rest : List Char) (i : Nat) :
    Ensures stringToken ⟨'"' :: rest, i⟩ fun _ s' => ClosesString rest s'.rest := by
  simp only [stringToken, ensures_bind, ensures_eat, ensures_get, ensures_pure]
  exact ensures_stringBody _ _ _

theorem ensures_skipString (fuel : Nat) (s : Cursor) :
    Ensures (skipString fuel) s fun _ s' => ClosesString s.rest s'.rest := by
  induction fuel generalizing s with
  | zero => simp [skipString]
  | succ fuel ih =>
      obtain ⟨_ | ⟨c, rest⟩, i⟩ := s
      · simp [skipString]
      · simp only [skipString, ensures_bind, ensures_peek, List.head?_cons]
        split
        · next heq => cases heq
        · next heq =>
          obtain rfl := Option.some.inj heq
          rw [ensures_eat]
          exact .nil rest
        · next heq =>
          obtain rfl := Option.some.inj heq
          simp only [ensures_bind, ensures_eat]
          obtain _ | ⟨c, rest⟩ := rest
          · simp
          · simp only [ensures_next]
            split
            · next heq => cases heq
            · next heq =>
              obtain rfl := Option.some.inj heq
              simp only [ensures_bind, ensures_discard]
              refine (ensures_hexEscape _).mono ?_
              rintro _ s₁ ⟨digits, four, hexadecimal, hrest⟩
              refine (ih s₁).mono fun _ s₂ hclose => ?_
              have hpiece := hclose.append [.unit digits four hexadecimal]
              rw [show rest = digits ++ s₁.rest from hrest]
              simpa [StringPiece.text] using hpiece
            · next heq =>
              obtain rfl := Option.some.inj heq
              simp only [ensures_ite, ensures_failHere_bind, implies_true, true_and]
              intro hknown
              refine (ih _).mono fun _ s₁ hclose => ?_
              exact hclose.append [.letter c (Option.isSome_iff_ne_none.mpr (by simpa using hknown))]
        · next hquote hescape heq =>
          obtain rfl := Option.some.inj heq
          simp only [ensures_ite, ensures_bind, ensures_eat, ensures_failHere, implies_true,
            true_and]
          intro hcontrol
          refine (ih _).mono fun _ s₁ hclose => ?_
          exact hclose.append [.plain c hquote hescape (by omega)]

/-! ## Numbers -/

theorem exists_of_isDigit {c : Char} (h : c.isDigit = true) :
    ∃ d : Fin 10, c = Char.ofNat (48 + d.val) := by
  have hbounds : 48 ≤ c.toNat ∧ c.toNat ≤ 57 := by
    simpa [Char.isDigit, UInt32.le_iff_toNat_le] using h
  refine ⟨⟨c.toNat - 48, by omega⟩, ?_⟩
  rw [show 48 + (c.toNat - 48) = c.toNat by omega, Char.ofNat_toNat]

theorem exists_of_forall_isDigit {cs : List Char} (h : ∀ c ∈ cs, c.isDigit = true) :
    ∃ ds : List (Fin 10), cs = Digits.textOf ds := by
  induction cs with
  | nil => exact ⟨[], rfl⟩
  | cons c cs ih =>
      obtain ⟨hc, hcs⟩ := List.forall_mem_cons.mp h
      obtain ⟨d, rfl⟩ := exists_of_isDigit hc
      obtain ⟨ds, rfl⟩ := ih hcs
      exact ⟨d :: ds, rfl⟩

theorem ensures_digits (s : Cursor) : Ensures digits s fun run s' =>
    ∃ ds : List (Fin 10), run = Digits.textOf ds ∧ s.rest = Digits.textOf ds ++ s'.rest := by
  rintro _ _ ⟨⟩
  obtain ⟨ds, hds⟩ := exists_of_forall_isDigit
    fun c (hc : c ∈ s.rest.takeWhile Char.isDigit) => List.mem_takeWhile_imp hc
  refine ⟨ds, hds, ?_⟩
  rw [← hds]
  exact (List.prefix_iff_eq_append.mp (List.takeWhile_prefix _)).symm

/-- Of an integer a zero is the first digit only where it is the last one. -/
theorem ensures_integerDigits (s : Cursor) : Ensures integerDigits s fun _ s' =>
    ∃ whole : Digits, (whole.first = 0 → whole.more = []) ∧
      s.rest = Digits.textOf whole.toList ++ s'.rest := by
  obtain ⟨_ | ⟨c, rest⟩, i⟩ := s
  · simp [integerDigits]
  · simp only [integerDigits, ensures_bind, ensures_next]
    split
    · next heq => cases heq
    · next heq =>
      obtain rfl := Option.some.inj heq
      have hzero : ∃ whole : Digits, (whole.first = 0 → whole.more = []) ∧
          '0' :: rest = Digits.textOf whole.toList ++ rest := ⟨⟨0, []⟩, fun _ => rfl, rfl⟩
      simp only [ensures_bind, ensures_peek]
      split
      · simpa [ensures_ite] using fun _ => hzero
      · simpa using hzero
    · next hzero heq =>
      obtain rfl := Option.some.inj heq
      simp only [ensures_ite, ensures_bind, ensures_pure, ensures_failHere, implies_true, and_true]
      intro hdigit
      obtain ⟨d, rfl⟩ := exists_of_isDigit hdigit
      refine (ensures_digits _).mono ?_
      rintro _ s₁ ⟨ds, -, hrest⟩
      refine ⟨⟨d, ds⟩, ?_, congrArg _ hrest⟩
      rintro rfl
      exact absurd rfl hzero

/-- The digits of an exponent, at least one. -/
theorem ensures_exponentDigits (s : Cursor) :
    Ensures (do
      match ← peek with
      | none => failHere .invalidNumber
      | some _ =>
        match ← next with
        | some c => if c.isDigit then discard digits else failHere .invalidNumber
        | none => failHere .invalidNumber) s fun _ s' =>
      ∃ ds : Digits, s.rest = Digits.textOf ds.toList ++ s'.rest := by
  obtain ⟨_ | ⟨c, rest⟩, i⟩ := s
  · simp
  · simp only [ensures_bind, ensures_peek, List.head?_cons, ensures_next, ensures_ite,
      ensures_discard, ensures_failHere, implies_true, and_true]
    intro hdigit
    obtain ⟨d, rfl⟩ := exists_of_isDigit hdigit
    refine (ensures_digits _).mono ?_
    rintro _ s₁ ⟨ds, -, hrest⟩
    exact ⟨⟨d, ds⟩, congrArg _ hrest⟩

/-- An exponent after its letter. -/
theorem ensures_exponent {letter : Char} (hletter : letter = 'e' ∨ letter = 'E') (s : Cursor) :
    Ensures (do
      let sign ← peek
      if sign == some '+' || sign == some '-' then eat
      match ← peek with
      | none => failHere .invalidNumber
      | some _ =>
        match ← next with
        | some c => if c.isDigit then discard digits else failHere .invalidNumber
        | none => failHere .invalidNumber) s fun _ s' =>
      ∃ e : Exponent, letter :: s.rest = e.text ++ s'.rest := by
  obtain ⟨text, i⟩ := s
  simp only [ensures_bind, ensures_peek]
  split
  · next hsign =>
    obtain ⟨c, rest, rfl, hc⟩ : ∃ c rest, text = c :: rest ∧ (c = '+' ∨ c = '-') := by
      cases text with
      | nil => simp at hsign
      | cons c rest => exact ⟨c, rest, rfl, by simpa using hsign⟩
    simp only [ensures_bind, ensures_eat]
    rw [← ensures_bind]
    refine (ensures_exponentDigits _).mono ?_
    rintro _ s₁ ⟨ds, hrest⟩
    obtain rfl : rest = _ := hrest
    obtain rfl | rfl := hc
    · exact ⟨⟨letter, hletter, .plus, ds⟩, by simp [Exponent.text]⟩
    · exact ⟨⟨letter, hletter, .minus, ds⟩, by simp [Exponent.text]⟩
  · refine (ensures_exponentDigits _).mono ?_
    rintro _ s₁ ⟨ds, hrest⟩
    exact ⟨⟨letter, hletter, .absent, ds⟩, congrArg _ hrest⟩

/-- An exponent, which can be left out. -/
theorem ensures_exponentPart (s : Cursor) :
    Ensures (do
      match ← peek with
      | some 'e' | some 'E' =>
        eat
        let sign ← peek
        if sign == some '+' || sign == some '-' then eat
        match ← peek with
        | none => failHere .invalidNumber
        | some _ =>
          match ← next with
          | some c => if c.isDigit then discard digits else failHere .invalidNumber
          | none => failHere .invalidNumber
      | _ => return ()) s fun _ s' =>
      ∃ e : Option Exponent, s.rest = e.elim [] Exponent.text ++ s'.rest := by
  obtain ⟨text, i⟩ := s
  rw [ensures_bind, ensures_peek]
  split
  · next hhead =>
    obtain ⟨rest, rfl⟩ := List.head?_eq_some_iff.mp hhead
    rw [ensures_bind, ensures_eat]
    refine (ensures_exponent (.inl rfl) _).mono ?_
    rintro _ s₁ ⟨e, hrest⟩
    exact ⟨some e, hrest⟩
  · next hhead =>
    obtain ⟨rest, rfl⟩ := List.head?_eq_some_iff.mp hhead
    rw [ensures_bind, ensures_eat]
    refine (ensures_exponent (.inr rfl) _).mono ?_
    rintro _ s₁ ⟨e, hrest⟩
    exact ⟨some e, hrest⟩
  · rw [ensures_pure]
    exact ⟨none, rfl⟩

theorem ensures_skipNumber (s : Cursor) : Ensures skipNumber s fun _ s' =>
    ∃ n : NumberText, n.negative = false ∧ s.rest = n.text ++ s'.rest := by
  unfold skipNumber
  rw [ensures_bind, ensures_peek]
  split
  · rw [ensures_failHere_bind]
    trivial
  · rw [ensures_bind, ensures_discard]
    refine (ensures_integerDigits s).mono ?_
    rintro _ s₁ ⟨whole, hleading, hwhole⟩
    rw [ensures_bind, ensures_peek]
    split
    · next hpoint =>
      obtain ⟨rest, hrest⟩ := List.head?_eq_some_iff.mp (eq_of_beq hpoint)
      obtain ⟨text, i⟩ := s₁
      obtain rfl : text = _ := hrest
      rw [ensures_bind, ensures_eat]
      refine (ensures_digits _).bind ?_
      rintro _ s₂ ⟨ds, rfl, hfraction⟩
      obtain rfl : rest = _ := hfraction
      cases ds with
      | nil => simp [Digits.textOf]
      | cons d ds =>
          refine (ensures_exponentPart s₂).mono ?_
          rintro _ s₃ ⟨e, hexponent⟩
          refine ⟨⟨false, whole, hleading, some ⟨d, ds⟩, e⟩, rfl, ?_⟩
          simp [NumberText.text, hwhole, hexponent, Digits.toList]
    · refine (ensures_exponentPart s₁).mono ?_
      rintro _ s₂ ⟨e, hexponent⟩
      refine ⟨⟨false, whole, hleading, none, e⟩, rfl, ?_⟩
      simp [NumberText.text, hwhole, hexponent]

end Reader
end QuietEmit.Json
