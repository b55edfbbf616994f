/-
  QuietEmit.Proofs.Syntax.Escape

  The escapes of string literals. `IsEscape` gives them rule by rule, each with the
  units that it denotes, and with what may not follow where an escape takes as much
  as it can. What is read after a backslash, and means something, is exactly an
  escape by these rules (`escape_of_isEscape`, `isEscape_of_escape`).
-/
import QuietEmit.Proofs.Syntax.StringLiteral

namespace QuietEmit.StringLiteral

/-! ## The rules -/

/-- The units of a code point. -/
def unitsOfPoint (n : Nat) : List Nat :=
  if n < 0x10000 then [n] else [0xD800 + (n - 0x10000) / 0x400, 0xDC00 + (n - 0x10000) % 0x400]

/-- The characters that an escape gives another meaning, or keeps from having one, each with the
unit that it denotes there. -/
def letterEscapes : List (Char × Nat) :=
  [('\'', 0x27), ('"', 0x22), ('\\', 0x5C), ('b', 0x08), ('f', 0x0C), ('n', 0x0A), ('r', 0x0D),
    ('t', 0x09), ('v', 0x0B)]

/-- Characters that end lines. -/
def lineEnds : List Char := ['\n', '\r', '\u2028', '\u2029']

/-- Hexadecimal digits only. -/
def AllHex (ds : List Char) : Prop := ∀ d ∈ ds, (Unicode.hexDigit? d).isSome

/-- The number that an octal digit stands for. -/
def octalDigit (d : Char) : Nat := d.toNat - 48

/-- What follows a backslash in a literal, and the units that it denotes. The last argument is the
character after it, where some escapes would go on. -/
inductive IsEscape : List Char → List Nat → Option Char → Prop
  | lineEnd {c : Char} {next : Option Char} (hc : c ∈ lineEnds)
      (hnext : c = '\r' → next ≠ some '\n') : IsEscape [c] [] next
  | twoLineEnds {next : Option Char} : IsEscape ['\r', '\n'] [] next
  | letter {c : Char} {n : Nat} {next : Option Char} (hc : (c, n) ∈ letterEscapes) :
      IsEscape [c] [n] next
  | itself {c : Char} {next : Option Char} (hletter : c ∉ letterEscapes.map Prod.fst)
      (hline : c ∉ lineEnds) (hoctal : isOctal c = false) (hmark : c ≠ 'x' ∧ c ≠ 'u') :
      IsEscape [c] (unitsOfChar c) next
  | octal {d : Char} {next : Option Char} (hd : isOctal d = true)
      (hnext : next.any isOctal = false) : IsEscape [d] [octalDigit d] next
  | octalTwo {d e : Char} {next : Option Char} (hd : isOctal d = true) (he : isOctal e = true)
      (hnext : d ≤ '3' → next.any isOctal = false) :
      IsEscape [d, e] [octalDigit d * 8 + octalDigit e] next
  | octalThree {d e f : Char} {next : Option Char} (hd : isOctal d = true)
      (he : isOctal e = true) (hf : isOctal f = true) (hlow : d ≤ '3') :
      IsEscape [d, e, f] [octalDigit d * 64 + octalDigit e * 8 + octalDigit f] next
  | hex {ds : List Char} {next : Option Char} (hds : AllHex ds) (hlength : ds.length = 2) :
      IsEscape ('x' :: ds) (unitsOfPoint (Unicode.hexValue ds)) next
  | unicode {ds : List Char} {next : Option Char} (hds : AllHex ds) (hlength : ds.length = 4) :
      IsEscape ('u' :: ds) (unitsOfPoint (Unicode.hexValue ds)) next
  | braced {ds : List Char} {next : Option Char} (hds : AllHex ds) (hne : ds ≠ [])
      (hle : Unicode.hexValue ds ≤ 0x10FFFF) :
      IsEscape ('u' :: '\x7b' :: ds ++ ['\x7d']) (unitsOfPoint (Unicode.hexValue ds)) next

/-! ## Hexadecimal digits -/

theorem hexDigit?_lt {c : Char} {d : Nat} (h : Unicode.hexDigit? c = some d) : d < 16 := by
  have hle : ∀ e : Char, c ≤ e → c.toNat ≤ e.toNat := fun e he => UInt32.le_iff_toNat_le.mp he
  rw [Unicode.hexDigit?] at h
  by_cases h9 : ('0' ≤ c && c ≤ '9') = true
  · rw [if_pos h9] at h
    have := hle '9' (by simp_all)
    obtain rfl := Option.some.inj h
    simp only [Char.reduceToNat] at *
    omega
  rw [if_neg h9] at h
  by_cases hf : ('a' ≤ c && c ≤ 'f') = true
  · rw [if_pos hf] at h
    have := hle 'f' (by simp_all)
    obtain rfl := Option.some.inj h
    simp only [Char.reduceToNat] at *
    omega
  rw [if_neg hf] at h
  by_cases hF : ('A' ≤ c && c ≤ 'F') = true
  · rw [if_pos hF] at h
    have := hle 'F' (by simp_all)
    obtain rfl := Option.some.inj h
    simp only [Char.reduceToNat] at *
    omega
  · rw [if_neg hF] at h
    cases h

/-- The number of digits before which a number stands. -/
def hexValueFrom (value : Nat) (ds : List Char) : Nat :=
  ds.foldl (fun n c => n * 16 + (Unicode.hexDigit? c).getD 0) value

theorem hexValueFrom_cons {c : Char} {d : Nat} (hc : Unicode.hexDigit? c = some d) (value : Nat)
    (ds : List Char) : hexValueFrom value (c :: ds) = hexValueFrom (value * 16 + d) ds := by
  rw [hexValueFrom, List.foldl_cons, hc]
  rfl

/-- Digits never make a number smaller. -/
theorem le_hexValueFrom (value : Nat) (ds : List Char) : value ≤ hexValueFrom value ds := by
  induction ds generalizing value with
  | nil => exact Nat.le_refl _
  | cons c ds ih =>
      have h := ih (value * 16 + (Unicode.hexDigit? c).getD 0)
      rw [hexValueFrom, List.foldl_cons]
      exact Nat.le_trans (by omega) h

/-- So many digits, so large a number. -/
theorem hexValueFrom_lt {ds : List Char} (hds : AllHex ds) (value : Nat) :
    hexValueFrom value ds < (value + 1) * Nat.pow 16 ds.length := by
  induction ds generalizing value with
  | nil => simp [hexValueFrom]
  | cons c ds ih =>
      obtain ⟨d, hd⟩ := Option.isSome_iff_exists.mp (hds c List.mem_cons_self)
      have hlt := hexDigit?_lt hd
      have h := ih (fun e he => hds e (List.mem_cons_of_mem c he)) (value * 16 + d)
      have hmul := Nat.mul_le_mul_right (Nat.pow 16 ds.length)
        (show value * 16 + d + 1 ≤ (value + 1) * 16 by omega)
      have hpow : Nat.pow 16 (ds.length + 1) = 16 * Nat.pow 16 ds.length := Nat.mul_comm ..
      rw [hexValueFrom_cons hd, List.length_cons, hpow, ← Nat.mul_assoc]
      exact Nat.lt_of_lt_of_le h hmul

theorem allHex_cons {c : Char} {ds : List Char} :
    AllHex (c :: ds) ↔ (∃ d, Unicode.hexDigit? c = some d) ∧ AllHex ds := by
  rw [AllHex, List.forall_mem_cons, Option.isSome_iff_exists, AllHex]

theorem not_allHex_cons {c : Char} (hc : Unicode.hexDigit? c = none) (ds : List Char) :
    ¬ AllHex (c :: ds) := by
  rw [allHex_cons, hc]
  simp

theorem hexValue_cons {c : Char} {d : Nat} (hc : Unicode.hexDigit? c = some d) (ds : List Char) :
    Unicode.hexValue (c :: ds) = hexValueFrom d ds := by
  have h := hexValueFrom_cons hc 0 ds
  rwa [Nat.zero_mul, Nat.zero_add] at h

/-- What a fixed number of digits comes to. -/
theorem hexDigits_eq_some_iff {n value v : Nat} {cs rest : List Char} :
    hexDigits n value cs = (some v, rest) ↔
      ∃ ds, AllHex ds ∧ ds.length = n ∧ cs = ds ++ rest ∧ v = hexValueFrom value ds := by
  induction n generalizing value cs with
  | zero =>
      rw [hexDigits]
      constructor
      · intro h
        cases h
        exact ⟨[], by simp [AllHex], rfl, rfl, rfl⟩
      · rintro ⟨ds, -, hlength, rfl, rfl⟩
        rw [List.length_eq_zero_iff.mp hlength]
        rfl
  | succ n ih =>
      cases cs with
      | nil =>
          rw [hexDigits]
          refine iff_of_false (by simp) ?_
          rintro ⟨ds, -, hlength, hcs, -⟩
          have hnil := (List.append_eq_nil_iff.mp hcs.symm).1
          simp [hnil] at hlength
      | cons c cs =>
          rw [hexDigits]
          cases hd : Unicode.hexDigit? c with
          | none =>
              refine iff_of_false (by simp) ?_
              rintro ⟨_ | ⟨e, ds⟩, hds, hlength, hcs, -⟩
              · simp at hlength
              · obtain ⟨rfl, -⟩ := List.cons.inj hcs
                exact not_allHex_cons hd ds hds
          | some d =>
              simp only
              rw [ih]
              constructor
              · rintro ⟨ds, hds, hlength, rfl, rfl⟩
                exact ⟨c :: ds, allHex_cons.mpr ⟨⟨d, hd⟩, hds⟩, by simp [hlength], rfl,
                  (hexValueFrom_cons hd value ds).symm⟩
              · rintro ⟨_ | ⟨e, ds⟩, hds, hlength, hcs, rfl⟩
                · simp at hlength
                · obtain ⟨rfl, rfl⟩ := List.cons.inj hcs
                  exact ⟨ds, (allHex_cons.mp hds).2, by simpa using hlength, rfl,
                    hexValueFrom_cons hd value ds⟩

/-- What digits up to a closing brace come to. -/
theorem bracedDigits_eq_some_iff {value v : Nat} (hvalue : value ≤ 0x10FFFF)
    {cs rest : List Char} :
    bracedDigits value cs = (some v, rest) ↔
      ∃ ds, AllHex ds ∧ cs = ds ++ '\x7d' :: rest ∧ v = hexValueFrom value ds ∧ v ≤ 0x10FFFF := by
  induction cs generalizing value with
  | nil =>
      rw [bracedDigits]
      exact iff_of_false (by simp) (by simp)
  | cons c cs ih =>
      rw [bracedDigits]
      cases hd : Unicode.hexDigit? c with
      | none =>
          simp only
          constructor
          · intro h
            split at h
            · next hc =>
                cases h
                exact ⟨[], by simp [AllHex], by simp [beq_iff_eq.mp hc], rfl, hvalue⟩
            · cases h
          · rintro ⟨_ | ⟨e, ds⟩, hds, hcs, rfl, -⟩
            · obtain ⟨rfl, rfl⟩ := List.cons.inj hcs
              rfl
            · obtain ⟨rfl, -⟩ := List.cons.inj hcs
              exact absurd hds (not_allHex_cons hd ds)
      | some d =>
          have hbrace : c ≠ '\x7d' := by
            rintro rfl
            cases hd
          simp only
          by_cases hlarge : value * 16 + d > 0x10FFFF
          · rw [if_pos hlarge]
            refine iff_of_false (by simp) ?_
            rintro ⟨_ | ⟨e, ds⟩, hds, hcs, rfl, hle⟩
            · exact hbrace (List.cons.inj hcs).1
            · obtain ⟨rfl, rfl⟩ := List.cons.inj hcs
              rw [hexValueFrom_cons hd] at hle
              have := le_hexValueFrom (value * 16 + d) ds
              omega
          · rw [if_neg hlarge, ih (by omega)]
            constructor
            · rintro ⟨ds, hds, rfl, rfl, hle⟩
              exact ⟨c :: ds, allHex_cons.mpr ⟨⟨d, hd⟩, hds⟩, rfl,
                (hexValueFrom_cons hd value ds).symm, hle⟩
            · rintro ⟨_ | ⟨e, ds⟩, hds, hcs, rfl, hle⟩
              · exact absurd (List.cons.inj hcs).1 hbrace
              · obtain ⟨rfl, rfl⟩ := List.cons.inj hcs
                exact ⟨ds, (allHex_cons.mp hds).2, rfl, hexValueFrom_cons hd value ds, hle⟩

/-- The code point of an escape is that of four digits, or of digits in braces. -/
theorem codePoint_eq_some_iff {v : Nat} {cs rest : List Char} :
    codePoint cs = (some v, rest) ↔
      (∃ ds, AllHex ds ∧ ds.length = 4 ∧ cs = ds ++ rest ∧ v = Unicode.hexValue ds) ∨
      ∃ ds, AllHex ds ∧ ds ≠ [] ∧ cs = '\x7b' :: ds ++ '\x7d' :: rest ∧
        v = Unicode.hexValue ds ∧ v ≤ 0x10FFFF := by
  have hfour : ∀ c cs, ¬ ∃ ds, AllHex ds ∧ ds.length = 4 ∧ '\x7b' :: c :: cs = ds ++ rest ∧
      v = Unicode.hexValue ds := by
    rintro c cs ⟨_ | ⟨e, ds⟩, hds, hlength, hcs, -⟩
    · simp at hlength
    · obtain ⟨rfl, -⟩ := List.cons.inj hcs
      exact not_allHex_cons (by decide) ds hds
  fun_cases codePoint cs with
  | case1 c cs d hd =>
      have hlt := hexDigit?_lt hd
      rw [bracedDigits_eq_some_iff (by omega), or_iff_right (hfour c cs)]
      constructor
      · rintro ⟨ds, hds, rfl, rfl, hle⟩
        exact ⟨c :: ds, allHex_cons.mpr ⟨⟨d, hd⟩, hds⟩, by simp, rfl,
          (hexValue_cons hd ds).symm, hle⟩
      · rintro ⟨_ | ⟨e, ds⟩, hds, hne, hcs, rfl, hle⟩
        · exact absurd rfl hne
        · obtain ⟨rfl, rfl⟩ := List.cons.inj (List.cons.inj hcs).2
          exact ⟨ds, (allHex_cons.mp hds).2, rfl, hexValue_cons hd ds, hle⟩
  | case2 c cs hd =>
      rw [or_iff_right (hfour c cs)]
      refine iff_of_false (by simp) ?_
      rintro ⟨_ | ⟨e, ds⟩, hds, hne, hcs, -⟩
      · exact absurd rfl hne
      · obtain ⟨rfl, -⟩ := List.cons.inj (List.cons.inj hcs).2
        exact not_allHex_cons hd ds hds
  | case3 =>
      refine iff_of_false (by simp) ?_
      rintro (⟨_ | ⟨e, ds⟩, hds, hlength, hcs, -⟩ | ⟨ds, hds, hne, hcs, -⟩)
      · simp at hlength
      · obtain ⟨rfl, -⟩ := List.cons.inj hcs
        exact not_allHex_cons (by decide) ds hds
      · simp at hcs
  | case4 cs hone hbrace =>
      rw [hexDigits_eq_some_iff]
      constructor
      · rintro ⟨ds, hds, hlength, rfl, rfl⟩
        exact .inl ⟨ds, hds, hlength, rfl, rfl⟩
      · rintro (h | ⟨ds, -, hne, hcs, -⟩)
        · exact h
        · cases ds with
          | nil => exact absurd rfl hne
          | cons d ds => exact absurd hcs (hone d (ds ++ '\x7d' :: rest))

/-! ## Escapes -/

/-- The escape of a code point denotes its units. -/
theorem ofValue_some {n : Nat} (hn : n ≤ 0x10FFFF) (rest : List Char) :
    Escape.ofValue (some n, rest) = ⟨unitsOfPoint n, true, rest⟩ := by
  by_cases h : n < 0x10000
  · simp [Escape.ofValue, unitsOfPoint, h]
  · have hvalid : n.isValidChar := Or.inr ⟨by omega, by omega⟩
    have hpoint : (Char.ofNat n).toNat = n := by
      rw [Char.ofNat, dif_pos hvalid]
      rfl
    simp [Escape.ofValue, unitsOfPoint, unitsOfChar, hpoint, h]

theorem hexValue_le {ds : List Char} (hds : AllHex ds) (hlength : ds.length ≤ 4) :
    Unicode.hexValue ds ≤ 0x10FFFF := by
  have h : Unicode.hexValue ds < (0 + 1) * Nat.pow 16 ds.length := hexValueFrom_lt hds 0
  have hpow : Nat.pow 16 ds.length ≤ Nat.pow 16 4 := Nat.pow_le_pow_right (by decide) hlength
  have hlast : Nat.pow 16 4 = 65536 := rfl
  omega

theorem ne_of_isOctal {c d : Char} (hd : isOctal d = true) (hc : isOctal c = false) : d ≠ c := by
  rintro rfl
  rw [hc] at hd
  cases hd

theorem notMem_lineEnds_of_isOctal {d : Char} (hd : isOctal d = true) : d ∉ lineEnds := by
  simp only [lineEnds, List.mem_cons, List.not_mem_nil, or_false, not_or]
  exact ⟨ne_of_isOctal hd rfl, ne_of_isOctal hd rfl, ne_of_isOctal hd rfl, ne_of_isOctal hd rfl⟩

/-- An escape that neither ends a line nor gives a number by its digits in base 16. -/
theorem escape_cons {c : Char} (hline : c ∉ lineEnds) (hmark : c ≠ 'x' ∧ c ≠ 'u')
    (rest : List Char) :
    escape (c :: rest) =
      if isOctal c then some ⟨[(octalEscape c rest).1], true, (octalEscape c rest).2⟩
      else some ⟨unitsOfChar (simpleEscape c), true, rest⟩ := by
  simp only [lineEnds, List.mem_cons, List.not_mem_nil, or_false, not_or] at hline
  obtain ⟨hfeed, hreturn, hseparator, hparagraph⟩ := hline
  rw [escape]
  · exact fun _ h => absurd h hreturn
  · exact hreturn
  · exact hfeed
  · exact hseparator
  · exact hparagraph
  · exact hmark.1
  · exact hmark.2

theorem escape_octal {d : Char} (hd : isOctal d = true) (rest : List Char) :
    escape (d :: rest) = some ⟨[(octalEscape d rest).1], true, (octalEscape d rest).2⟩ := by
  rw [escape_cons (notMem_lineEnds_of_isOctal hd) ⟨ne_of_isOctal hd rfl, ne_of_isOctal hd rfl⟩,
    if_pos hd]

theorem simpleEscape_of_notMem {c : Char} (h : c ∉ letterEscapes.map Prod.fst) :
    simpleEscape c = c := by
  simp only [letterEscapes, List.map_cons, List.map_nil, List.mem_cons, List.not_mem_nil,
    or_false, not_or] at h
  obtain ⟨-, -, -, hb, hf, hn, hr, ht, hv⟩ := h
  rw [simpleEscape]
  · exact hb
  · exact ht
  · exact hn
  · exact hv
  · exact hf
  · exact hr

/-- An escape by the rules is read as such, whatever follows. -/
theorem escape_of_isEscape {used : List Char} {us : List Nat} {next : Option Char}
    (h : IsEscape used us next) {rest : List Char} (hrest : rest.head? = next) :
    escape (used ++ rest) = some ⟨us, true, rest⟩ := by
  cases h with
  | lineEnd hc hnext =>
      simp only [lineEnds, List.mem_cons, List.not_mem_nil, or_false] at hc
      rcases hc with rfl | rfl | rfl | rfl
      · rfl
      · cases rest with
        | nil => rfl
        | cons c rest =>
            have hc : c ≠ '\n' := by
              rintro rfl
              exact hnext rfl hrest.symm
            simp [escape, hc]
      · rfl
      · rfl
  | twoLineEnds => rfl
  | letter hc =>
      simp only [letterEscapes, List.mem_cons, Prod.mk.injEq, List.not_mem_nil, or_false] at hc
      rcases hc with ⟨rfl, rfl⟩ | ⟨rfl, rfl⟩ | ⟨rfl, rfl⟩ | ⟨rfl, rfl⟩ | ⟨rfl, rfl⟩ | ⟨rfl, rfl⟩ |
        ⟨rfl, rfl⟩ | ⟨rfl, rfl⟩ | ⟨rfl, rfl⟩ <;> rfl
  | itself hletter hline hoctal hmark =>
      rw [List.singleton_append, escape_cons hline hmark, if_neg (by simp [hoctal]),
        simpleEscape_of_notMem hletter]
  | octal hd hnext =>
      rw [List.singleton_append, escape_octal hd]
      subst hrest
      match rest with
      | [] => rfl
      | [b] =>
          have hb : isOctal b = false := by simpa using hnext
          simp [octalEscape, octalDigit, hb]
      | b :: c :: rest =>
          have hb : isOctal b = false := by simpa using hnext
          simp [octalEscape, octalDigit, hb]
  | @octalTwo d e _ hd he hnext =>
      rw [List.cons_append, escape_octal hd]
      subst hrest
      match rest with
      | [] => simp [octalEscape, octalDigit, he]
      | c :: rest =>
          by_cases hlow : d ≤ '3'
          · have hc : isOctal c = false := by simpa using hnext hlow
            simp [octalEscape, octalDigit, he, hc]
          · simp [octalEscape, octalDigit, he, hlow]
  | octalThree hd he hf hlow =>
      rw [List.cons_append, escape_octal hd]
      simp [octalEscape, octalDigit, he, hf, hlow]
  | @hex ds _ hds hlength =>
      have hdigits : hexDigits 2 0 (ds ++ rest) = (some (Unicode.hexValue ds), rest) :=
        hexDigits_eq_some_iff.mpr ⟨ds, hds, hlength, rfl, rfl⟩
      rw [List.cons_append, escape, hdigits, ofValue_some (hexValue_le hds (by omega))]
  | @unicode ds _ hds hlength =>
      have hpoint : codePoint (ds ++ rest) = (some (Unicode.hexValue ds), rest) :=
        codePoint_eq_some_iff.mpr (.inl ⟨ds, hds, hlength, rfl, rfl⟩)
      rw [List.cons_append, escape, hpoint, ofValue_some (hexValue_le hds (by omega))]
  | @braced ds _ hds hne hle =>
      have hpoint : codePoint ('\x7b' :: ds ++ '\x7d' :: rest) =
          (some (Unicode.hexValue ds), rest) :=
        codePoint_eq_some_iff.mpr (.inr ⟨ds, hds, hne, rfl, rfl, hle⟩)
      have hused : 'u' :: '\x7b' :: ds ++ ['\x7d'] ++ rest =
          'u' :: ('\x7b' :: ds ++ '\x7d' :: rest) := by
        simp
      rw [hused, escape, hpoint, ofValue_some hle]

/-- The digits that an octal escape takes are those of a rule. -/
theorem isEscape_octalEscape {d : Char} (hd : isOctal d = true) (cs : List Char) :
    ∃ used, cs = used ++ (octalEscape d cs).2 ∧
      IsEscape (d :: used) [(octalEscape d cs).1] (octalEscape d cs).2.head? := by
  fun_cases octalEscape d cs with
  | case1 _ b c after h =>
      simp only [Bool.and_eq_true, decide_eq_true_eq] at h
      exact ⟨[b, c], rfl, .octalThree hd h.1.1 h.1.2 h.2⟩
  | case2 _ b c after h hb =>
      refine ⟨[b], rfl, .octalTwo hd hb fun hlow => ?_⟩
      simpa [hb, hlow] using h
  | case3 _ b c after _ hb => exact ⟨[], rfl, .octal hd (by simpa using hb)⟩
  | case4 _ b hb => exact ⟨[b], rfl, .octalTwo hd hb fun _ => rfl⟩
  | case5 _ b hb => exact ⟨[], rfl, .octal hd (by simpa using hb)⟩
  | case6 => exact ⟨[], rfl, .octal hd rfl⟩

/-- A letter stands for what its rule says, or for itself. -/
theorem isEscape_simpleEscape {c : Char} (hline : c ∉ lineEnds) (hoctal : isOctal c = false)
    (hmark : c ≠ 'x' ∧ c ≠ 'u') (next : Option Char) :
    IsEscape [c] (unitsOfChar (simpleEscape c)) next := by
  by_cases hletter : c ∈ letterEscapes.map Prod.fst
  · obtain ⟨⟨d, n⟩, hmem, rfl⟩ := List.mem_map.mp hletter
    have hunits : ∀ e ∈ letterEscapes, unitsOfChar (simpleEscape e.1) = [e.2] := by decide
    rw [hunits _ hmem]
    exact .letter hmem
  · rw [simpleEscape_of_notMem hletter]
    exact .itself hletter hline hoctal hmark

/-- What is read as an escape that means something is one by the rules. -/
theorem isEscape_of_escape {cs : List Char} {e : Escape} (h : escape cs = some e)
    (hsound : e.sound = true) :
    ∃ used, cs = used ++ e.rest ∧ IsEscape used e.units e.rest.head? := by
  revert h
  fun_cases escape cs with
  | case1 => intro h; cases h
  | case2 rest => intro h; cases h; exact ⟨['\r', '\n'], rfl, .twoLineEnds⟩
  | case3 rest hnext =>
      intro h
      cases h
      refine ⟨['\r'], rfl, .lineEnd (by decide) fun _ => ?_⟩
      cases rest with
      | nil => simp
      | cons c rest => simpa using hnext rest
  | case4 => intro h; cases h; exact ⟨['\n'], rfl, .lineEnd (by decide) (by simp)⟩
  | case5 => intro h; cases h; exact ⟨['\u2028'], rfl, .lineEnd (by decide) (by simp)⟩
  | case6 => intro h; cases h; exact ⟨['\u2029'], rfl, .lineEnd (by decide) (by simp)⟩
  | case7 rest =>
      intro h
      cases h
      rcases hdigits : hexDigits 2 0 rest with ⟨_ | v, after⟩
      · simp [hdigits, Escape.ofValue] at hsound
      · obtain ⟨ds, hds, hlength, rfl, rfl⟩ := hexDigits_eq_some_iff.mp hdigits
        have hvalue : hexValueFrom 0 ds = Unicode.hexValue ds := rfl
        rw [hvalue, ofValue_some (hexValue_le hds (by omega))]
        exact ⟨'x' :: ds, rfl, .hex hds hlength⟩
  | case8 rest =>
      intro h
      cases h
      rcases hpoint : codePoint rest with ⟨_ | v, after⟩
      · simp [hpoint, Escape.ofValue] at hsound
      · rcases codePoint_eq_some_iff.mp hpoint with ⟨ds, hds, hlength, rfl, rfl⟩ |
          ⟨ds, hds, hne, rfl, rfl, hle⟩
        · rw [ofValue_some (hexValue_le hds (by omega))]
          exact ⟨'u' :: ds, rfl, .unicode hds hlength⟩
        · rw [ofValue_some hle]
          exact ⟨'u' :: '\x7b' :: ds ++ ['\x7d'], by simp, .braced hds hne hle⟩
  | case9 c rest _ hreturn hfeed hseparator hparagraph hx hu hc n after hoctal =>
      intro h
      cases h
      obtain ⟨used, hrest, hescape⟩ := isEscape_octalEscape hc rest
      rw [hoctal] at hrest hescape
      exact ⟨c :: used, by rw [hrest]; rfl, hescape⟩
  | case10 c rest _ hreturn hfeed hseparator hparagraph hx hu hc =>
      intro h
      cases h
      refine ⟨[c], rfl, isEscape_simpleEscape ?_ (by simpa using hc) ⟨hx, hu⟩ _⟩
      simp only [lineEnds, List.mem_cons, List.not_mem_nil, or_false, not_or]
      exact ⟨hfeed, hreturn, hseparator, hparagraph⟩

end QuietEmit.StringLiteral
