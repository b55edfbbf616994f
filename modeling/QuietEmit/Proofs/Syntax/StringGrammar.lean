/-
  QuietEmit.Proofs.Syntax.StringGrammar

  The grammar of string literals, and the literals that references are written as.
  `Body` gives what may stand between the quotes, rule by rule, with the units that
  it denotes. A scan finds exactly what the rules derive (`scan_eq_iff`), so that a
  literal denotes one sequence of units only (`IsLiteral.unique`) and none begins
  another one (`IsLiteral.eq_nil_of_append`).

  The literal of a reference is one by these rules, and the one token that a module
  has there (`literal_is_one_token`).
-/
import QuietEmit.Proofs.Syntax.Escape
import QuietEmit.Specifier.Reference
import QuietEmit.Syntax.Lexer

namespace QuietEmit

namespace StringLiteral

/-! ## The grammar -/

/-- What stands between the quotes of a literal, and the units that it denotes: characters that are
neither the quote nor a backslash nor end a line as they are, and escapes. -/
inductive Body (quote : Char) : List Char → List Nat → Prop
  | nil : Body quote [] []
  | plain {c : Char} {rest : List Char} {us : List Nat} (hquote : c ≠ quote) (hescape : c ≠ '\\')
      (hline : ¬ (c = '\n' ∨ c = '\r')) (hrest : Body quote rest us) :
      Body quote (c :: rest) (unitsOfChar c ++ us)
  | escape {used rest : List Char} {vs us : List Nat}
      (hused : IsEscape used vs (rest ++ [quote]).head?) (hrest : Body quote rest us) :
      Body quote ('\\' :: used ++ rest) (vs ++ us)

/-- A whole literal in these quotes, and the units that it denotes. -/
def IsLiteral (q : Quote) (raw : List Char) (us : List Nat) : Prop :=
  ∃ body, raw = q.char :: body ++ [q.char] ∧ Body q.char body us

/-! ## Scans -/

/-- The closing quote decides what follows the last escape, and nothing behind it does. -/
theorem head?_append_quote (body rest : List Char) (quote : Char) :
    (body ++ quote :: rest).head? = (body ++ [quote]).head? := by
  cases body <;> rfl

/-- A scan goes over what stands between quotes by the rules, up to the closing one. -/
theorem scanUpTo_of_body {q : Quote} {body : List Char} {us : List Nat} (h : Body q.char body us)
    (rest : List Char) {fuel : Nat} (hfuel : body.length < fuel) :
    scanUpTo q.char fuel (body ++ q.char :: rest) = ⟨us, 0, some rest, false⟩ := by
  obtain ⟨fuel, rfl⟩ : ∃ n, fuel = n + 1 := ⟨fuel - 1, by omega⟩
  induction h generalizing fuel with
  | nil => simp [scanUpTo]
  | @plain c body us hquote hescape hline _ ih =>
      obtain ⟨less, rfl⟩ : ∃ n, fuel = n + 1 := ⟨fuel - 1, by simp at hfuel; omega⟩
      rw [List.cons_append, scanUpTo_plain hquote hline hescape,
        ih less (by simp at hfuel; omega)]
      rfl
  | @escape used body vs us hused _ ih =>
      obtain ⟨less, rfl⟩ : ∃ n, fuel = n + 1 := ⟨fuel - 1, by simp at hfuel; omega⟩
      have hread : escape (used ++ (body ++ q.char :: rest)) =
          some ⟨vs, true, body ++ q.char :: rest⟩ :=
        escape_of_isEscape hused (head?_append_quote body rest q.char)
      rw [List.cons_append, List.cons_append, List.append_assoc,
        scanUpTo_escape (quoteChar_ne q).1.symm hread rfl, ih less (by simp at hfuel; omega)]
      rfl

/-- A scan that ends at a quote, with all escapes sound, has gone over what the rules allow. -/
theorem body_of_scanUpTo {q : Quote} {fuel : Nat} {cs : List Char} {rest : List Char}
    (hrest : (scanUpTo q.char fuel cs).rest = some rest)
    (hsound : (scanUpTo q.char fuel cs).badEscapes = 0) :
    ∃ body, cs = body ++ q.char :: rest ∧ Body q.char body (scanUpTo q.char fuel cs).units := by
  induction fuel generalizing cs with
  | zero => simp [scanUpTo] at hrest
  | succ fuel ih =>
      cases cs with
      | nil => simp [scanUpTo] at hrest
      | cons c cs =>
          by_cases hend : c = q.char
          · rw [scanUpTo, if_pos hend] at hrest ⊢
            cases hrest
            exact ⟨[], by rw [hend]; rfl, .nil⟩
          by_cases hline : c = '\n' ∨ c = '\r'
          · rw [scanUpTo, if_neg hend, if_pos hline] at hrest
            cases hrest
          by_cases hescape : c = '\\'
          · subst hescape
            cases he : escape cs with
            | none =>
                rw [scanUpTo, if_neg hend, if_neg hline, if_pos rfl, he] at hrest
                cases hrest
            | some e =>
                rw [scanUpTo, if_neg hend, if_neg hline, if_pos rfl, he] at hrest hsound ⊢
                cases hmeans : e.sound with
                | false => simp [hmeans] at hsound
                | true =>
                    simp only [hmeans, if_true, Scanned.prepend] at hrest hsound ⊢
                    obtain ⟨body, hbody, h⟩ := ih hrest hsound
                    obtain ⟨used, rfl, hused⟩ := isEscape_of_escape he hmeans
                    rw [hbody, head?_append_quote] at hused
                    exact ⟨'\\' :: used ++ body, by simp [hbody], .escape hused h⟩
          · rw [scanUpTo_plain hend hline hescape] at hrest hsound ⊢
            obtain ⟨body, rfl, h⟩ := ih hrest hsound
            exact ⟨c :: body, rfl, .plain hend hescape hline h⟩

/-- A scan finds the end of a literal, and means all of it, exactly where the rules put it. -/
theorem scan_eq_iff {q : Quote} {cs rest : List Char} {us : List Nat} :
    scan q.char cs = ⟨us, 0, some rest, false⟩ ↔
      ∃ body, cs = body ++ q.char :: rest ∧ Body q.char body us := by
  constructor
  · intro h
    have hrest : (scan q.char cs).rest = some rest := by rw [h]
    have hsound : (scan q.char cs).badEscapes = 0 := by rw [h]
    obtain ⟨body, hbody, hus⟩ := body_of_scanUpTo hrest hsound
    have hunits : (scan q.char cs).units = us := by rw [h]
    rw [← hunits]
    exact ⟨body, hbody, hus⟩
  · rintro ⟨body, rfl, h⟩
    exact scanUpTo_of_body h rest (by simp)

/-! ## Literals -/

/-- The units of a literal are read off it. -/
theorem IsLiteral.denoted? {q : Quote} {raw : List Char} {us : List Nat}
    (h : IsLiteral q raw us) : denoted? raw = some us := by
  obtain ⟨body, rfl, hbody⟩ := h
  have hquote : q.char = '\'' ∨ q.char = '"' := by cases q <;> decide
  have hscan : scan q.char (body ++ [q.char]) = ⟨us, 0, some [], false⟩ :=
    scan_eq_iff.mpr ⟨body, rfl, hbody⟩
  rw [List.cons_append, StringLiteral.denoted?, if_pos hquote, hscan]
  rfl

theorem IsLiteral.head?_eq {q : Quote} {raw : List Char} {us : List Nat}
    (h : IsLiteral q raw us) : raw.head? = some q.char := by
  obtain ⟨body, rfl, -⟩ := h
  rfl

theorem quoteChar_injective {p q : Quote} (h : p.char = q.char) : p = q := by
  cases p <;> cases q <;> simp_all [Quote.char]

/-- A text is a literal in one way only. -/
theorem IsLiteral.unique {p q : Quote} {raw : List Char} {us vs : List Nat}
    (hp : IsLiteral p raw us) (hq : IsLiteral q raw vs) : p = q ∧ us = vs :=
  ⟨quoteChar_injective (Option.some.inj (hp.head?_eq.symm.trans hq.head?_eq)),
    Option.some.inj (hp.denoted?.symm.trans hq.denoted?)⟩

/-- A literal ends at its closing quote: nothing behind it makes a longer one. -/
theorem IsLiteral.eq_nil_of_append {p q : Quote} {raw more : List Char} {us vs : List Nat}
    (hp : IsLiteral p raw us) (hq : IsLiteral q (raw ++ more) vs) : more = [] := by
  obtain ⟨body, rfl, hbody⟩ := hp
  obtain ⟨longer, hlonger, hbody'⟩ := hq
  rw [List.cons_append, List.cons_append, List.cons_append] at hlonger
  obtain ⟨hchar, hrest⟩ := List.cons.inj hlonger
  obtain rfl := quoteChar_injective hchar
  rw [List.append_assoc, List.singleton_append] at hrest
  have h₁ : scan p.char (body ++ p.char :: more) = ⟨us, 0, some more, false⟩ :=
    scan_eq_iff.mpr ⟨body, rfl, hbody⟩
  have h₂ : scan p.char (body ++ p.char :: more) = ⟨vs, 0, some [], false⟩ :=
    scan_eq_iff.mpr ⟨longer, hrest, hbody'⟩
  rw [h₁] at h₂
  simpa using congrArg Scanned.rest h₂

/-! ## Written literals -/

/-- A written text is a literal that denotes it. -/
theorem isLiteral_write (q : Quote) (text : List Char) :
    IsLiteral q (write q text) (units text) := by
  have hscan : scan q.char (text.flatMap (writeChar q.char) ++ [q.char]) =
      ⟨units text, 0, some [], false⟩ :=
    scanUpTo_write q text [] (by simp)
  obtain ⟨body, hbody, h⟩ := scan_eq_iff.mp hscan
  obtain rfl := List.append_inj_left' hbody rfl
  exact ⟨_, rfl, h⟩

/-- No line ends in a written text as it is. -/
theorem lineEnd_notMem_write (q : Quote) (text : List Char) :
    '\n' ∉ write q text ∧ '\r' ∉ write q text := by
  obtain ⟨-, hfeed, hreturn⟩ := quoteChar_ne q
  have hchar : ∀ c, '\n' ∉ writeChar q.char c ∧ '\r' ∉ writeChar q.char c := by
    intro c
    fun_cases writeChar q.char c with
    | case1 => decide
    | case2 => decide
    | case3 => decide
    | case4 _ h2 h3 _ => simp [Ne.symm h2, Ne.symm h3]
    | case5 _ h2 h3 _ => simp [Ne.symm h2, Ne.symm h3]
  constructor
  · simp [write, hfeed.symm, fun c => (hchar c).1]
  · simp [write, hreturn.symm, fun c => (hchar c).2]

/-- The token at the head of a text that begins with a written one. -/
theorem scanToken_write (q : Quote) (text rest : List Char) {fuel : Nat}
    (hfuel : (write q text).length ≤ fuel) :
    Syntax.Lexer.scanToken fuel (write q text ++ rest) =
      ⟨.string (String.ofList text) false, rest, []⟩ := by
  have hname : (Syntax.Lexer.isNameStart q.char || q.char == '\\') = false := by
    cases q <;> decide +kernel
  have hdigit : q.char.isDigit = false ∧ (q.char == '.') = false := by cases q <;> decide
  have hquote : (q.char == '"' || q.char == '\'') = true := by cases q <;> decide
  have hscan : scanUpTo q.char fuel (text.flatMap (writeChar q.char) ++ q.char :: rest) =
      ⟨units text, 0, some rest, false⟩ :=
    scanUpTo_write q text rest (by simp [write] at hfuel ⊢; omega)
  rw [write, List.cons_append, List.cons_append, List.append_assoc, List.singleton_append,
    Syntax.Lexer.scanToken]
  simp [hname, hdigit, hquote, Syntax.Lexer.scanString, hscan, textOfUnits?_units]

end StringLiteral

/-! ## The literal of a reference -/

open StringLiteral (IsLiteral units)

/-- The literal that a reference is written as is one token, and says what the reference says. By
the rules it is a whole string in the quotes of the reference that denotes the specifier, and
nothing else; no beginning of it is a whole string and no line ends in it; a module that goes on
with it has one string token there, which says the specifier and ends where the literal does.
References that say something else, or in other quotes, have other literals. -/
theorem literal_is_one_token (r : Reference) :
    IsLiteral r.quote r.literal (units r.specifier.toList) ∧
    (∀ q us, IsLiteral q r.literal us → q = r.quote ∧ us = units r.specifier.toList) ∧
    (∀ raw more, r.literal = raw ++ more → (∃ q us, IsLiteral q raw us) → more = []) ∧
    ('\n' ∉ r.literal ∧ '\r' ∉ r.literal) ∧
    (∀ rest fuel, (r.literal ++ rest).length ≤ fuel →
      Syntax.Lexer.scanToken fuel (r.literal ++ rest) = ⟨.string r.specifier false, rest, []⟩) ∧
    ∀ s : Reference, s.literal = r.literal → s.quote = r.quote ∧ s.specifier = r.specifier := by
  have hliteral : ∀ s : Reference, IsLiteral s.quote s.literal (units s.specifier.toList) :=
    fun s => StringLiteral.isLiteral_write s.quote s.specifier.toList
  refine ⟨hliteral r, fun q us h => h.unique (hliteral r), ?_,
    StringLiteral.lineEnd_notMem_write r.quote r.specifier.toList, ?_, ?_⟩
  · rintro raw more hsplit ⟨q, us, hraw⟩
    have hwhole := hliteral r
    rw [hsplit] at hwhole
    exact hraw.eq_nil_of_append hwhole
  · intro rest fuel hfuel
    rw [List.length_append] at hfuel
    have htoken := StringLiteral.scanToken_write r.quote r.specifier.toList rest
      (Nat.le_trans (Nat.le_add_right _ _) hfuel)
    rwa [String.ofList_toList] at htoken
  · intro s hs
    have hboth := hliteral s
    rw [hs] at hboth
    obtain ⟨hquote, hunits⟩ := hboth.unique (hliteral r)
    exact ⟨hquote, String.toList_inj.mp (StringLiteral.units_injective hunits)⟩

-- A quote after a backslash does not end the literal, and a line feed is written as an escape.
example : (Reference.mk .dynamicImport ⟨0, 0⟩ "a\\'\n" .single).literal =
    "'a\\\\\\'\\n'".toList := by
  decide

end QuietEmit
