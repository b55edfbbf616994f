/-
  QuietEmit.Proofs.Json.Accepted

  Values that are stepped over. `Takes` says which tokens a text begins with, white
  space apart, and `Closes` which tokens go on from a place to the end of what is
  open around it. One step of `skipValues` takes a value or a token that belongs to
  what is open (`ensures_skipValues_fresh`, `ensures_skipValues_over`), so a whole
  run takes the tokens of one value (`ensures_skipValue`).
-/
import QuietEmit.Proofs.Json.Comments
import QuietEmit.Proofs.Json.Lexemes

namespace QuietEmit.Json

/-! ## Texts of tokens -/

/-- The text begins with some tokens, with white space before and between them; `rest` is what comes
after them. -/
inductive Takes : List Char → List Token → List Char → Prop where
  | nothing (rest : List Char) : Takes rest [] rest
  | space {c : Char} {text rest : List Char} {ts : List Token} (blank : Reader.isSpace c = true)
      (h : Takes text ts rest) : Takes (c :: text) ts rest
  | token {text rest : List Char} (t : Token) {ts : List Token} (h : Takes text ts rest) :
      Takes (t.text ++ text) (t :: ts) rest

namespace Takes

theorem trans {text between rest : List Char} {ts us : List Token} (h : Takes text ts between)
    (h' : Takes between us rest) : Takes text (ts ++ us) rest := by
  induction h with
  | nothing => exact h'
  | space blank _ ih => exact .space blank (ih h')
  | token t _ ih => exact .token t (ih h')

theorem one (t : Token) (rest : List Char) : Takes (t.text ++ rest) [t] rest :=
  .token t (.nothing rest)

theorem spaces {cs : List Char} (h : ∀ c ∈ cs, Reader.isSpace c = true) (rest : List Char) :
    Takes (cs ++ rest) [] rest := by
  induction cs with
  | nil => exact .nothing rest
  | cons c cs ih =>
      obtain ⟨hc, hcs⟩ := List.forall_mem_cons.mp h
      exact .space hc (ih hcs)

/-- A text of nothing but tokens and white space is laid out strictly. -/
theorem exists_layout {text : List Char} {ts : List Token} (h : Takes text ts []) :
    ∃ l : Layout, l.isStrict = true ∧ l.tokens = ts ∧ l.text = text := by
  generalize hrest : ([] : List Char) = rest at h
  induction h with
  | nothing =>
      subst hrest
      exact ⟨⟨[], [], none⟩, rfl, rfl, rfl⟩
  | @space c text rest ts blank _ ih =>
      obtain ⟨l, hstrict, htokens, htext⟩ := ih hrest
      have hspace : [Trivia.space c blank].all Trivia.isSpace = true := rfl
      refine ⟨l.after [.space c blank], Layout.isStrict_after hspace hstrict, ?_, ?_⟩
      · rw [Layout.tokens_after, htokens]
      · rw [Layout.text_after, htext]
        rfl
  | token t _ ih =>
      obtain ⟨l, hstrict, htokens, htext⟩ := ih hrest
      refine ⟨l.cons ([], t), Layout.isStrict_cons (by simp) hstrict, ?_, ?_⟩
      · exact congrArg (List.cons t) htokens
      · rw [Layout.text_cons, htext]
        rfl

end Takes

/-! ## What tokens spell -/

/-- Tokens of a value. -/
def IsValue (ts : List Token) : Prop := ∃ v, Spells false (.value v) ts

/-- Tokens of a key and its value. -/
def IsMember (ts : List Token) : Prop :=
  ∃ key us, ts = .string key :: .colon :: us ∧ IsValue us

/-- What stands before an item. -/
def separator (first : Bool) : List Token := if first then [] else [.comma]

@[simp] theorem separator_true : separator true = [] := rfl

@[simp] theorem separator_false : separator false = [.comma] := rfl

/-- Items with commas between them, and one before them where they are not the first. -/
inductive Items (item : List Token → Prop) : Bool → List Token → Prop where
  | none (first : Bool) : Items item first []
  | more (first : Bool) {ts us : List Token} (h : item ts) (rest : Items item false us) :
      Items item first (separator first ++ (ts ++ us))

namespace Items

/-- Elements after the first one go on where that one stopped. -/
theorem spells_elements {first : Bool} {us : List Token} (more : Items IsValue first us)
    (hfirst : first = false) {v : Value} {ts : List Token} (h : Spells false (.value v) ts) :
    ∃ vs, Spells false (.elements (v :: vs)) (ts ++ us) := by
  induction more generalizing v ts with
  | none =>
      refine ⟨[], ?_⟩
      rw [List.append_nil]
      exact .lastElement h
  | more first hitem _ ih =>
      subst hfirst
      obtain ⟨w, hw⟩ := hitem
      obtain ⟨ws, hws⟩ := ih rfl hw
      exact ⟨w :: ws, .moreElements h hws⟩

/-- Members after the first one go on where that one stopped. -/
theorem spells_members {first : Bool} {us : List Token} (more : Items IsMember first us)
    (hfirst : first = false) (key : List StringPiece) {v : Value} {ts : List Token}
    (h : Spells false (.value v) ts) :
    ∃ ms, Spells false (.members ms) (.string key :: .colon :: (ts ++ us)) := by
  induction more generalizing key v ts with
  | none =>
      rw [List.append_nil]
      exact ⟨_, .lastMember key h⟩
  | more first hitem _ ih =>
      subst hfirst
      obtain ⟨next, us, rfl, w, hw⟩ := hitem
      obtain ⟨ms, hms⟩ := ih rfl next hw
      exact ⟨_, .moreMembers key h hms⟩

theorem isValue_list {ts : List Token} (h : Items IsValue true ts) :
    IsValue (.openList :: (ts ++ [.closeList])) := by
  cases h with
  | none => exact ⟨_, .emptyList⟩
  | more _ hitem rest =>
      obtain ⟨v, hv⟩ := hitem
      obtain ⟨vs, hvs⟩ := rest.spells_elements rfl hv
      exact ⟨_, .list hvs .nothing⟩

theorem isValue_object {ts : List Token} (h : Items IsMember true ts) :
    IsValue (.openObject :: (ts ++ [.closeObject])) := by
  cases h with
  | none => exact ⟨_, .emptyObject⟩
  | more _ hitem rest =>
      obtain ⟨key, us, rfl, v, hv⟩ := hitem
      obtain ⟨ms, hms⟩ := rest.spells_members rfl key hv
      exact ⟨_, .object hms .nothing⟩

end Items

/-! ## Brackets that are open -/

/-- What stands between the brackets that a character opens. -/
def itemOf (top : Char) : List Token → Prop := if top == '[' then IsValue else IsMember

/-- The token that closes what a character opens. -/
def closeOf (top : Char) : Token := if top == '[' then .closeList else .closeObject

/-- Tokens close what is open, the innermost first. -/
inductive Closes : List Char → List Token → Prop where
  | done : Closes [] []
  | close (top : Char) {stack : List Char} {ts us : List Token}
      (more : Items (itemOf top) false ts) (outer : Closes stack us) :
      Closes (top :: stack) (ts ++ closeOf top :: us)

/-- The text begins with tokens that close what is open. -/
def TakesRest (stack text rest : List Char) : Prop :=
  ∃ us, Closes stack us ∧ Takes text us rest

/-- The text begins with a value and with tokens that close what is open around it. -/
def TakesValue (stack text rest : List Char) : Prop :=
  ∃ ts us, IsValue ts ∧ Closes stack us ∧ Takes text (ts ++ us) rest

section

variable {stack text between rest : List Char} {ts us : List Token}

theorem TakesRest.value (h : TakesRest stack between rest) (hvalue : IsValue ts)
    (htakes : Takes text ts between) : TakesValue stack text rest := by
  obtain ⟨us, hcloses, hrest⟩ := h
  exact ⟨ts, us, hvalue, hcloses, htakes.trans hrest⟩

theorem TakesRest.close (h : TakesRest stack between rest) {top : Char}
    (htakes : Takes text [closeOf top] between) : TakesRest (top :: stack) text rest := by
  obtain ⟨us, hcloses, hrest⟩ := h
  exact ⟨_, .close top (.none false) hcloses, htakes.trans hrest⟩

/-- A value in brackets that are open is an item, or with its key it is one; where it is not the
first one, a comma comes before it. -/
theorem TakesValue.item {top : Char} (h : TakesValue (top :: stack) between rest)
    {key : List Token} (hitem : ∀ ts, IsValue ts → itemOf top (key ++ ts))
    (htakes : Takes text (.comma :: key) between) : TakesRest (top :: stack) text rest := by
  obtain ⟨ts, us, hvalue, hcloses, hrest⟩ := h
  cases hcloses with
  | close _ more outer =>
      refine ⟨_, .close top (.more false (hitem ts hvalue) more) outer, ?_⟩
      have hall := htakes.trans hrest
      simpa using hall

/-- A list goes from its opening bracket to where the bracket is closed. -/
theorem TakesValue.list (h : TakesValue ('[' :: stack) between rest)
    (htakes : Takes text [.openList] between) : TakesValue stack text rest := by
  obtain ⟨ts, us, hvalue, hcloses, hrest⟩ := h
  cases hcloses with
  | @close _ _ more us hmore outer =>
      refine ⟨_, us, (Items.more true hvalue hmore).isValue_list, outer, ?_⟩
      have hall := htakes.trans hrest
      simpa [closeOf] using hall

/-- An object goes from its opening brace to where the brace is closed. -/
theorem TakesValue.object (h : TakesValue ('\x7b' :: stack) between rest) {key : List StringPiece}
    (htakes : Takes text [.openObject, .string key, .colon] between) :
    TakesValue stack text rest := by
  obtain ⟨ts, us, hvalue, hcloses, hrest⟩ := h
  cases hcloses with
  | @close _ _ more us hmore outer =>
      refine ⟨_, us, (Items.more true ⟨key, ts, rfl, hvalue⟩ hmore).isValue_object, outer, ?_⟩
      have hall := htakes.trans hrest
      simpa [closeOf] using hall

end

namespace Reader

/-! ## White space and single tokens -/

theorem exists_peekToken (s : Cursor) :
    ∃ rest i, Takes s.rest [] rest ∧ peekToken s = .ok rest.head? ⟨rest, i⟩ := by
  have hblank : ∀ c ∈ s.rest.takeWhile isSpace, isSpace c = true :=
    fun c hc => List.mem_takeWhile_imp hc
  have htakes := Takes.spaces hblank (s.rest.drop (s.rest.takeWhile isSpace).length)
  rw [List.prefix_iff_eq_append.mp (List.takeWhile_prefix _)] at htakes
  exact ⟨_, _, htakes, rfl⟩

/-- Before a token there can be white space. -/
theorem Ensures.peekToken {α : Type} {s : Cursor} {f : Option Char → Reader α}
    {P : α → Cursor → Prop}
    (hnone : ∀ i, Takes s.rest [] [] → Ensures (f none) ⟨[], i⟩ P)
    (hsome : ∀ c rest i, Takes s.rest [] (c :: rest) → Ensures (f (some c)) ⟨c :: rest, i⟩ P) :
    Ensures (peekToken >>= f) s P := by
  obtain ⟨rest, i, htakes, hrun⟩ := exists_peekToken s
  rw [ensures_bind]
  intro a s' h
  rw [hrun] at h
  cases h
  cases rest with
  | nil => exact hnone i htakes
  | cons c rest => exact hsome c rest i htakes

/-- A word is stepped over by its first character and the rest of it. -/
theorem Ensures.wordToken {α : Type} {w : Word} {c : Char} {cs rest : List Char} {i : Nat}
    {f : Unit → Reader α} {P : α → Cursor → Prop} (htext : (Token.word w).text = c :: cs)
    (h : ∀ s, Takes (c :: rest) [.word w] s.rest → Ensures (f ()) s P) :
    Ensures (eat >>= fun _ => word cs >>= f) ⟨c :: rest, i⟩ P := by
  rw [ensures_bind, ensures_eat]
  refine (ensures_word cs _).bind fun _ s' hrest => h s' ?_
  have htoken := Takes.one (.word w) s'.rest
  rw [htext] at htoken
  rwa [show rest = cs ++ s'.rest from hrest]

theorem ClosesString.takes {text rest : List Char} (h : ClosesString text rest) :
    ∃ pieces, Takes ('"' :: text) [.string pieces] rest := by
  obtain ⟨pieces, rfl⟩ := h
  have htoken := Takes.one (.string pieces) rest
  simp only [Token.text, List.cons_append, List.append_assoc, List.nil_append] at htoken
  exact ⟨pieces, htoken⟩

theorem ensures_numberToken (s : Cursor) : Ensures skipNumber s fun _ s' =>
    ∃ n, Takes s.rest [.number n] s'.rest := by
  refine (ensures_skipNumber s).mono ?_
  rintro _ s₁ ⟨n, -, hrest⟩
  rw [hrest]
  exact ⟨n, .one (.number n) s₁.rest⟩

theorem ensures_negativeToken (rest : List Char) (i : Nat) :
    Ensures skipNumber ⟨rest, i⟩ fun _ s' => ∃ n, Takes ('-' :: rest) [.number n] s'.rest := by
  refine (ensures_skipNumber _).mono ?_
  rintro _ s₁ ⟨n, hpositive, hrest⟩
  have htoken := Takes.one (.number { n with negative := true }) s₁.rest
  have htext : (Token.number { n with negative := true }).text ++ s₁.rest = '-' :: rest := by
    rw [show rest = n.text ++ s₁.rest from hrest]
    simp [Token.text, NumberText.text, hpositive]
  rw [htext] at htoken
  exact ⟨_, htoken⟩

/-! ## Values of no interest -/

theorem ensures_skipKey (s : Cursor) : Ensures skipValues.skipKey s fun _ s' =>
    ∃ key, Takes s.rest [.string key, .colon] s'.rest := by
  unfold skipValues.skipKey
  apply Ensures.peekToken
  · simp
  · intro c rest i hblank
    split
    · next heq => cases heq
    · next heq =>
      obtain rfl := Option.some.inj heq
      rw [ensures_bind, ensures_eat, ensures_bind, ensures_get]
      refine (ensures_skipString _ _).bind fun _ s₁ hclose => ?_
      obtain ⟨key, hkey⟩ := hclose.takes
      apply Ensures.peekToken
      · simp
      · intro c rest i hgap
        split
        · next heq =>
          obtain rfl := Option.some.inj heq
          rw [ensures_eat]
          exact ⟨key, hblank.trans (hkey.trans (hgap.trans (.one .colon rest)))⟩
        · simp
        · simp
    · simp

/-- One step at the beginning of a value. -/
theorem ensures_skipValues_fresh {fuel : Nat} {stack : List Char}
    (hvalue : ∀ stack s, Ensures (skipValues fuel true stack) s fun _ s' =>
      TakesValue stack s.rest s'.rest)
    (hrest : ∀ stack s, Ensures (skipValues fuel false stack) s fun _ s' =>
      TakesRest stack s.rest s'.rest) (s : Cursor) :
    Ensures (skipValues (fuel + 1) true stack) s fun _ s' => TakesValue stack s.rest s'.rest := by
  -- once a value is over the rest is what closes the brackets around it
  have hover : ∀ {s s₁ : Cursor} {ts : List Token}, IsValue ts → Takes s.rest ts s₁.rest →
      Ensures (skipValues fuel false stack) s₁ fun _ s' => TakesValue stack s.rest s'.rest :=
    fun hts htakes => (hrest stack _).mono fun _ _ h => h.value hts htakes
  unfold skipValues
  apply Ensures.peekToken
  · simp
  · intro c rest i hblank
    split
    · next heq => cases heq
    · next heq =>
      obtain rfl := Option.some.inj heq
      exact Ensures.wordToken (w := .null) rfl fun s₁ hword =>
        hover ⟨_, .null⟩ (hblank.trans hword)
    · next heq =>
      obtain rfl := Option.some.inj heq
      exact Ensures.wordToken (w := .true) rfl fun s₁ hword =>
        hover ⟨_, .true⟩ (hblank.trans hword)
    · next heq =>
      obtain rfl := Option.some.inj heq
      exact Ensures.wordToken (w := .false) rfl fun s₁ hword =>
        hover ⟨_, .false⟩ (hblank.trans hword)
    · next heq =>
      obtain rfl := Option.some.inj heq
      rw [ensures_bind, ensures_eat, ensures_bind, ensures_get]
      refine (ensures_skipString _ _).bind fun _ s₁ hclose => ?_
      obtain ⟨pieces, hstring⟩ := hclose.takes
      exact hover ⟨_, .string pieces⟩ (hblank.trans hstring)
    · next heq =>
      obtain rfl := Option.some.inj heq
      rw [ensures_bind, ensures_eat]
      refine (ensures_negativeToken rest _).bind ?_
      rintro _ s₁ ⟨n, hnumber⟩
      exact hover ⟨_, .number n⟩ (hblank.trans hnumber)
    · next heq =>
      obtain rfl := Option.some.inj heq
      rw [ensures_bind, ensures_eat]
      have hopen := hblank.trans (.one .openList rest)
      apply Ensures.peekToken
      · simp
      · intro c rest i hgap
        split
        · next heq => cases heq
        · next heq =>
          obtain rfl := Option.some.inj heq
          rw [ensures_bind, ensures_eat]
          exact hover ⟨_, .emptyList⟩ (hopen.trans (hgap.trans (.one .closeList rest)))
        · exact (hvalue _ _).mono fun _ _ h => h.list (hopen.trans hgap)
    · next heq =>
      obtain rfl := Option.some.inj heq
      rw [ensures_bind, ensures_eat]
      have hopen := hblank.trans (.one .openObject rest)
      apply Ensures.peekToken
      · simp
      · intro c rest i hgap
        split
        · next heq => cases heq
        · next heq =>
          obtain rfl := Option.some.inj heq
          rw [ensures_bind, ensures_eat]
          exact hover ⟨_, .emptyObject⟩ (hopen.trans (hgap.trans (.one .closeObject rest)))
        · refine (ensures_skipKey _).bind ?_
          rintro _ s₁ ⟨key, hkey⟩
          exact (hvalue _ _).mono fun _ _ h => h.object (hopen.trans (hgap.trans hkey))
    · next heq =>
      obtain rfl := Option.some.inj heq
      rw [ensures_ite]
      refine ⟨fun _ => ?_, fun _ => by simp⟩
      refine (ensures_numberToken _).bind ?_
      rintro _ s₁ ⟨n, hnumber⟩
      exact hover ⟨_, .number n⟩ (hblank.trans hnumber)

/-- One step after a value. -/
theorem ensures_skipValues_over {fuel : Nat} {stack : List Char}
    (hvalue : ∀ stack s, Ensures (skipValues fuel true stack) s fun _ s' =>
      TakesValue stack s.rest s'.rest)
    (hrest : ∀ stack s, Ensures (skipValues fuel false stack) s fun _ s' =>
      TakesRest stack s.rest s'.rest) (s : Cursor) :
    Ensures (skipValues (fuel + 1) false stack) s fun _ s' => TakesRest stack s.rest s'.rest := by
  cases stack with
  | nil =>
      unfold skipValues
      rw [ensures_pure]
      exact ⟨[], .done, .nothing _⟩
  | cons top stack =>
      unfold skipValues
      apply Ensures.peekToken
      · simp
      · intro c rest i hblank
        simp only [ensures_ite]
        refine ⟨fun hclose => ?_, fun _ => ⟨fun hcomma => ?_, fun _ => by simp⟩⟩
        · rw [ensures_bind, ensures_eat]
          have htext : (closeOf top).text = [c] := by
            rw [eq_of_beq hclose, closeOf]
            split <;> rfl
          have htoken := Takes.one (closeOf top) rest
          rw [htext] at htoken
          exact (hrest _ _).mono fun _ _ h => h.close (hblank.trans htoken)
        · obtain rfl := eq_of_beq hcomma
          rw [ensures_bind, ensures_eat, ensures_ite]
          have hsep := hblank.trans (.one .comma rest)
          refine ⟨fun hobject => ?_, fun hlist => ?_⟩
          · refine (ensures_skipKey _).bind ?_
            rintro _ s₁ ⟨key, hkey⟩
            refine (hvalue _ _).mono fun _ _ h => h.item ?_ (hsep.trans hkey)
            intro ts hts
            have htop : (top == '[') = false := by simpa using hobject
            rw [itemOf, htop]
            exact ⟨key, ts, rfl, hts⟩
          · refine (hvalue _ _).mono fun _ _ h => h.item ?_ hsep
            intro ts hts
            have htop : (top == '[') = true := by simpa using hlist
            rw [itemOf, htop]
            exact hts

/-- A value of no interest is stepped over as a whole, with what is open around it. -/
theorem ensures_skipValues (fuel : Nat) :
    (∀ stack s, Ensures (skipValues fuel true stack) s fun _ s' =>
      TakesValue stack s.rest s'.rest) ∧
    ∀ stack s, Ensures (skipValues fuel false stack) s fun _ s' =>
      TakesRest stack s.rest s'.rest := by
  induction fuel with
  | zero =>
      have hfails : ∀ {fresh : Bool} {stack : List Char} {s : Cursor} {P : Unit → Cursor → Prop},
          Ensures (skipValues 0 fresh stack) s P := by
        intro fresh stack s P
        cases fresh <;> simp [skipValues]
      exact ⟨fun _ _ => hfails, fun _ _ => hfails⟩
  | succ fuel ih =>
      obtain ⟨hvalue, hrest⟩ := ih
      exact ⟨fun _ => ensures_skipValues_fresh hvalue hrest,
        fun _ => ensures_skipValues_over hvalue hrest⟩

theorem ensures_skipValue (s : Cursor) : Ensures skipValue s fun _ s' =>
    ∃ ts, IsValue ts ∧ Takes s.rest ts s'.rest := by
  unfold skipValue
  rw [ensures_bind, ensures_get]
  refine ((ensures_skipValues _).1 [] s).mono ?_
  rintro _ s₁ ⟨ts, us, hvalue, hcloses, htakes⟩
  cases hcloses
  rw [List.append_nil] at htakes
  exact ⟨ts, hvalue, htakes⟩

end Reader

end QuietEmit.Json
