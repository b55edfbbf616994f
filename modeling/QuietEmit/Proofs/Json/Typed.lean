/-
  QuietEmit.Proofs.Json.Typed

  Reading typed values accepts strict JSON only. A reader that `TakesValues` has a
  value behind it whenever it succeeds; the readers of strings, truth values, lists
  and records have this property, records if the readers of their fields do. A
  whole text that is read is then a strict layout of tokens that spell a value
  (`exists_layout_of_run`).
-/
import QuietEmit.Proofs.Json.Accepted

namespace QuietEmit.Json

namespace Reader

variable {α β : Type}

/-! ## Steps -/

@[simp] theorem ensures_true {r : Reader α} {s : Cursor} : Ensures r s fun _ _ => True :=
  fun _ _ _ => trivial

@[simp] theorem ensures_placed {r : Reader α} {s : Cursor} {P : α → Cursor → Prop} :
    Ensures (placed r) s P ↔ Ensures r s P := by
  constructor
  · intro h a s' hr
    apply h
    simp only [placed, hr]
  · intro h a s' hr
    simp only [placed] at hr
    split at hr
    · cases hr
      exact h _ _ ‹_›
    · cases hr

theorem Ensures.followedBy {r : Reader α} {close : Reader Unit} {s : Cursor}
    {P : α → Cursor → Prop} (h : Ensures r s fun a s₁ => Ensures close s₁ fun _ s' => P a s') :
    Ensures (followedBy r close) s P := by
  intro a s' hrun
  simp only [Reader.followedBy] at hrun
  split at hrun
  · next hr =>
    split at hrun
    · next hclose =>
      cases hrun
      exact h _ _ hr _ _ hclose
    · cases hrun
  · split at hrun <;> cases hrun

theorem Ensures.valueToken {s : Cursor} {f : Char → Reader α} {P : α → Cursor → Prop}
    (h : ∀ c rest i, Takes s.rest [] (c :: rest) → Ensures (f c) ⟨c :: rest, i⟩ P) :
    Ensures (valueToken >>= f) s P := by
  rw [ensures_bind]
  unfold Reader.valueToken
  apply Ensures.peekToken
  · simp
  · intro c rest i hblank
    rw [ensures_pure]
    exact h c rest i hblank

/-- Refusing never succeeds. -/
theorem ensures_refuse (expected : String) (s : Cursor) {P : α → Cursor → Prop} :
    Ensures (refuse expected) s P := by
  unfold refuse
  rw [ensures_placed, ensures_bind, ensures_peek]
  split <;> simp [ensures_ite]

/-! ## Readers of one value -/

/-- Whenever the reader succeeds, it has stepped over a value. -/
def TakesValues (r : Reader α) : Prop :=
  ∀ s, Ensures r s fun _ s' => ∃ ts, IsValue ts ∧ Takes s.rest ts s'.rest

/-- What is made of the result does not matter. -/
theorem TakesValues.map {r : Reader α} (h : TakesValues r) (f : α → β) :
    TakesValues (do return f (← r)) := by
  intro s
  rw [ensures_bind]
  refine (h s).mono fun a s₁ ha => ?_
  rwa [ensures_pure]

theorem takesValues_text (expected : String) : TakesValues (text expected) := by
  intro s
  unfold text
  apply Ensures.valueToken
  intro c rest i hblank
  rw [ensures_ite]
  refine ⟨fun hquote => ?_, fun _ => ensures_refuse expected _⟩
  obtain rfl := eq_of_beq hquote
  refine (ensures_stringToken rest i).mono fun _ s₁ hclose => ?_
  obtain ⟨pieces, hstring⟩ := hclose.takes
  exact ⟨_, ⟨_, .string pieces⟩, hblank.trans hstring⟩

theorem takesValues_flag : TakesValues flag := by
  intro s
  unfold flag
  apply Ensures.valueToken
  intro c rest i hblank
  split
  · refine Ensures.wordToken (w := .true) rfl fun s₁ hword => ?_
    rw [ensures_pure]
    exact ⟨_, ⟨_, .true⟩, hblank.trans hword⟩
  · refine Ensures.wordToken (w := .false) rfl fun s₁ hword => ?_
    rw [ensures_pure]
    exact ⟨_, ⟨_, .false⟩, hblank.trans hword⟩
  · exact ensures_refuse _ _

theorem TakesValues.optional {r : Reader α} (h : TakesValues r) : TakesValues (optional r) := by
  intro s
  have hsome : ∀ s₁ : Cursor, Takes s.rest [] s₁.rest → Ensures (do return some (← r)) s₁ fun _ s' =>
      ∃ ts, IsValue ts ∧ Takes s.rest ts s'.rest := by
    intro s₁ hblank
    refine (h.map some s₁).mono ?_
    rintro _ s₂ ⟨ts, hvalue, htakes⟩
    exact ⟨ts, hvalue, hblank.trans htakes⟩
  unfold Reader.optional
  apply Ensures.peekToken
  · intro i hblank
    rw [ensures_ite]
    exact ⟨nofun, fun _ => hsome _ hblank⟩
  · intro c rest i hblank
    rw [ensures_ite]
    refine ⟨fun hnull => ?_, fun _ => hsome _ hblank⟩
    obtain rfl : c = 'n' := by simpa using hnull
    refine Ensures.wordToken (w := .null) rfl fun s₁ hword => ?_
    rw [ensures_pure]
    exact ⟨_, ⟨_, .null⟩, hblank.trans hword⟩

/-! ## Lists -/

theorem ensures_moreElements (first : Bool) (s : Cursor) :
    Ensures (moreElements first) s fun more s' =>
      Takes s.rest (if more then separator first else []) s'.rest := by
  unfold moreElements
  apply Ensures.peekToken
  · simp
  · intro c rest i hblank
    split
    · next heq => cases heq
    · rw [ensures_pure]
      exact hblank
    · next heq =>
      obtain rfl := Option.some.inj heq
      simp only [ensures_ite]
      refine ⟨fun hfirst => ?_, fun hfirst => ⟨fun hcomma => ?_, fun _ => by simp⟩⟩
      · rw [ensures_pure, hfirst]
        exact hblank
      · obtain rfl := eq_of_beq hcomma
        obtain rfl := Bool.eq_false_of_not_eq_true hfirst
        rw [ensures_bind, ensures_eat]
        apply Ensures.peekToken
        · simp
        · intro c rest i hgap
          split
          · simp
          · rw [ensures_pure]
            exact hblank.trans ((Takes.one .comma _).trans hgap)
          · simp

theorem ensures_endList (s : Cursor) : Ensures endList s fun _ s' =>
    Takes s.rest [.closeList] s'.rest := by
  unfold endList
  apply Ensures.peekToken
  · simp
  · intro c rest i hblank
    split
    · next heq =>
      obtain rfl := Option.some.inj heq
      rw [ensures_eat]
      exact hblank.trans (.one .closeList rest)
    · next heq =>
      -- a comma is read on for the sake of the message
      obtain rfl := Option.some.inj heq
      rw [ensures_bind, ensures_eat]
      apply Ensures.peekToken
      · simp
      · intro c rest i _
        split <;> simp
    · simp
    · simp

theorem TakesValues.elements {r : Reader α} (h : TakesValues r) (fuel : Nat) (first : Bool)
    (s : Cursor) : Ensures (elements r fuel first) s fun _ s' =>
      ∃ ts, Items IsValue first ts ∧ Takes s.rest ts s'.rest := by
  induction fuel generalizing first s with
  | zero => simp [Reader.elements]
  | succ fuel ih =>
      unfold Reader.elements
      refine (ensures_moreElements first s).bind fun more s₁ hmore => ?_
      cases more with
      | false => exact ensures_pure.mpr ⟨[], .none first, hmore⟩
      | true =>
          refine (h s₁).bind ?_
          rintro a s₂ ⟨ts, hvalue, htakes⟩
          rw [ensures_bind]
          refine (ih false s₂).mono ?_
          rintro as s₃ ⟨us, hitems, hrest⟩
          rw [ensures_pure]
          exact ⟨_, .more first hvalue hitems, hmore.trans (htakes.trans hrest)⟩

theorem TakesValues.list {r : Reader α} (h : TakesValues r) : TakesValues (list r) := by
  intro s
  unfold Reader.list
  apply Ensures.valueToken
  intro c rest i hblank
  rw [ensures_ite]
  refine ⟨fun _ => ensures_bind.mpr (ensures_refuse _ _), fun hopen => ?_⟩
  obtain rfl : c = '[' := by simpa using hopen
  rw [ensures_placed]
  apply Ensures.followedBy
  rw [ensures_bind, ensures_eat, ensures_bind, ensures_get]
  refine (h.elements _ true _).mono ?_
  rintro as s₁ ⟨ts, hitems, helements⟩
  refine (ensures_endList s₁).mono fun _ s₂ hclose => ?_
  have hopen := hblank.trans (.one .openList rest)
  refine ⟨_, hitems.isValue_list, ?_⟩
  exact hopen.trans (helements.trans hclose)

/-! ## Records -/

theorem ensures_moreMembers (first : Bool) (s : Cursor) :
    Ensures (moreMembers first) s fun more s' =>
      Takes s.rest (if more then separator first else []) s'.rest ∧
        (more = true → s'.rest.head? = some '"') := by
  unfold moreMembers
  apply Ensures.peekToken
  · simp
  · intro c rest i hblank
    split
    · next heq => cases heq
    · rw [ensures_pure]
      exact ⟨hblank, fun h => by cases h⟩
    · next heq =>
      obtain rfl := Option.some.inj heq
      simp only [ensures_ite]
      refine ⟨fun hfirst => ⟨fun hquote => ?_, fun _ => by simp⟩,
        fun hfirst => ⟨fun hcomma => ?_, fun _ => by simp⟩⟩
      · rw [ensures_pure, hfirst]
        exact ⟨hblank, fun _ => congrArg some (eq_of_beq hquote)⟩
      · obtain rfl := eq_of_beq hcomma
        obtain rfl := Bool.eq_false_of_not_eq_true hfirst
        rw [ensures_bind, ensures_eat]
        apply Ensures.peekToken
        · simp
        · intro c rest i hgap
          split
          · next heq =>
            rw [ensures_pure]
            exact ⟨hblank.trans ((Takes.one .comma _).trans hgap), fun _ => heq⟩
          · simp
          · simp
          · simp

theorem ensures_endObject (s : Cursor) : Ensures endObject s fun _ s' =>
    Takes s.rest [.closeObject] s'.rest := by
  unfold endObject
  apply Ensures.peekToken
  · simp
  · intro c rest i hblank
    split
    · next heq =>
      obtain rfl := Option.some.inj heq
      rw [ensures_eat]
      exact hblank.trans (.one .closeObject rest)
    · simp
    · simp
    · simp

theorem ensures_colon (s : Cursor) : Ensures colon s fun _ s' => Takes s.rest [.colon] s'.rest := by
  unfold colon
  apply Ensures.peekToken
  · simp
  · intro c rest i hblank
    split
    · next heq =>
      obtain rfl := Option.some.inj heq
      rw [ensures_eat]
      exact hblank.trans (.one .colon rest)
    · simp
    · simp

namespace Shape

variable {σ : Type} {shape : Shape σ}

/-- The readers of all fields take values. -/
def TakesFields (shape : Shape σ) : Prop :=
  ∀ field ∈ shape.fields, ∀ state, TakesValues (field.read state)

theorem TakesFields.members (h : TakesFields shape) (fuel : Nat) (first : Bool)
    (seen : List String) (state : σ) (s : Cursor) :
    Ensures (shape.members fuel first seen state) s fun _ s' =>
      ∃ ts, Items IsMember first ts ∧ Takes s.rest ts s'.rest := by
  induction fuel generalizing first seen state s with
  | zero => simp [Shape.members]
  | succ fuel ih =>
      unfold Shape.members
      refine (ensures_moreMembers first s).bind ?_
      rintro more ⟨text, i⟩ ⟨hmore, hquote⟩
      cases more with
      | false =>
          simp only [Bool.false_eq_true, if_false]
          split
          · simp
          · exact ensures_pure.mpr ⟨[], .none first, hmore⟩
      | true =>
          obtain ⟨rest, hrest⟩ := List.head?_eq_some_iff.mp (hquote rfl)
          obtain rfl : text = _ := hrest
          rw [if_pos rfl]
          refine (ensures_stringToken rest i).bind fun name s₁ hclose => ?_
          obtain ⟨key, hkey⟩ := hclose.takes
          -- a value that a field takes, or that is stepped over
          have hmember : ∀ {s₂ s₃ : Cursor} {ts : List Token} {seen : List String} {state : σ},
              Takes s₁.rest [.colon] s₂.rest → IsValue ts → Takes s₂.rest ts s₃.rest →
              Ensures (shape.members fuel false seen state) s₃ fun _ s' =>
                ∃ ts, Items IsMember first ts ∧ Takes s.rest ts s'.rest := by
            intro s₂ s₃ ts seen state hcolon hvalue htakes
            refine (ih false seen state s₃).mono ?_
            rintro _ s₄ ⟨us, hitems, hus⟩
            refine ⟨_, .more first ⟨key, ts, rfl, hvalue⟩ hitems, ?_⟩
            exact hmore.trans (hkey.trans (hcolon.trans (htakes.trans hus)))
          split
          · next field hfield =>
            have hvalues := h field (List.mem_of_find?_eq_some hfield) state
            rw [ensures_ite]
            refine ⟨fun _ => by simp, fun _ => ?_⟩
            refine (ensures_colon s₁).bind fun _ s₂ hcolon => ?_
            refine (hvalues s₂).bind ?_
            rintro state s₃ ⟨ts, hvalue, htakes⟩
            exact hmember hcolon hvalue htakes
          · rw [ensures_ite]
            refine ⟨fun _ => by simp, fun _ => ?_⟩
            refine (ensures_colon s₁).bind fun _ s₂ hcolon => ?_
            refine (ensures_skipValue s₂).bind ?_
            rintro _ s₃ ⟨ts, hvalue, htakes⟩
            exact hmember hcolon hvalue htakes

theorem positions_takes {fields : List (Field σ)}
    (h : ∀ field ∈ fields, ∀ state, TakesValues (field.read state)) (i : Nat) (state : σ)
    (s : Cursor) : Ensures (shape.positions fields i state) s fun _ s' =>
      ∃ ts, Items IsValue (i == 0) ts ∧ Takes s.rest ts s'.rest := by
  induction fields generalizing i state s with
  | nil =>
      unfold positions
      exact ensures_pure.mpr ⟨[], .none _, .nothing _⟩
  | cons field fields ih =>
      obtain ⟨hfield, hfields⟩ := List.forall_mem_cons.mp h
      unfold positions
      refine (ensures_moreElements (i == 0) s).bind fun more s₁ hmore => ?_
      cases more with
      | true =>
          rw [if_pos rfl]
          refine (hfield state s₁).bind ?_
          rintro state s₂ ⟨ts, hvalue, htakes⟩
          refine (ih hfields (i + 1) state s₂).mono ?_
          rintro _ s₃ ⟨us, hitems, hus⟩
          exact ⟨_, .more _ hvalue hitems, hmore.trans (htakes.trans hus)⟩
      | false =>
          simp only [Bool.false_eq_true, if_false]
          rw [ensures_ite]
          refine ⟨fun _ => by simp, fun _ => ?_⟩
          refine (ih hfields i state s₁).mono ?_
          rintro _ s₂ ⟨us, hitems, hus⟩
          exact ⟨us, hitems, hmore.trans hus⟩

theorem TakesFields.read (h : TakesFields shape) (initial : σ) : TakesValues (shape.read initial) := by
  intro s
  unfold Shape.read
  apply Ensures.valueToken
  intro c rest i hblank
  split
  · rw [ensures_placed]
    apply Ensures.followedBy
    rw [ensures_bind, ensures_eat]
    refine (positions_takes h 0 initial _).mono ?_
    rintro as s₁ ⟨ts, hitems, helements⟩
    refine (ensures_endList s₁).mono fun _ s₂ hclose => ?_
    have hopen := hblank.trans (.one .openList rest)
    exact ⟨_, hitems.isValue_list, hopen.trans (helements.trans hclose)⟩
  · rw [ensures_placed]
    apply Ensures.followedBy
    rw [ensures_bind, ensures_eat, ensures_bind, ensures_get]
    refine (h.members _ true [] initial _).mono ?_
    rintro as s₁ ⟨ts, hitems, hmembers⟩
    refine (ensures_endObject s₁).mono fun _ s₂ hclose => ?_
    have hopen := hblank.trans (.one .openObject rest)
    exact ⟨_, hitems.isValue_object, hopen.trans (hmembers.trans hclose)⟩
  · exact ensures_refuse _ _

end Shape

/-! ## Whole texts -/

/-- A text that is read as a whole is a strict layout of tokens that spell a value. -/
theorem exists_layout_of_run {r : Reader α} (h : TakesValues r) {text : List Char} {a : α}
    (hrun : r.run text = .ok a) :
    ∃ (strict : Layout) (v : Value), strict.isStrict = true ∧ strict.text = text ∧
      Spells false (.value v) strict.tokens := by
  simp only [run] at hrun
  split at hrun
  · next hok =>
    obtain ⟨ts, ⟨v, hspells⟩, htakes⟩ : ∃ ts, IsValue ts ∧ Takes text ts [] := by
      refine Ensures.elim (P := fun _ _ => ∃ ts, IsValue ts ∧ Takes text ts []) hok ((h _).bind ?_)
      rintro a s₁ ⟨ts, hvalue, htakes⟩
      apply Ensures.peekToken
      · intro i hblank
        rw [ensures_pure]
        refine ⟨ts, hvalue, ?_⟩
        have hall := htakes.trans hblank
        rwa [List.append_nil] at hall
      · simp
    obtain ⟨strict, hstrict, htokens, htext⟩ := htakes.exists_layout
    exact ⟨strict, v, hstrict, htext, htokens ▸ hspells⟩
  · cases hrun

end Reader

end QuietEmit.Json
