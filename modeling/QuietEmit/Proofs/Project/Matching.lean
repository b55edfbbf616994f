/-
  QuietEmit.Proofs.Project.Matching

  What the steps of a glob take up. The matcher tries all the ways in which its steps can
  leave a rest of the text (`matchesSteps_iff`), so what steps in a row leave is told by
  what each of them leaves (`leaves_append`). Stars for whole steps of a path can span
  what the piece before them takes, and the stars themselves (`EndsStep`).
-/
import Mathlib.Data.List.Basic
import QuietEmit.Project.Glob

namespace QuietEmit.Glob

/-! ## Bytes -/

/-- The bytes of characters. -/
def bytes (cs : List Char) : List UInt8 := cs.flatMap bytesOf

@[simp] theorem bytes_append (a b : List Char) : bytes (a ++ b) = bytes a ++ bytes b :=
  List.flatMap_append

/-- The bytes that are taken off one by one. -/
theorem toList_loop (bs : ByteArray) (i : Nat) (seen : List UInt8) :
    ByteArray.toList.loop bs i seen = seen.reverse ++ bs.data.toList.drop i := by
  fun_induction ByteArray.toList.loop bs i seen with
  | case1 i seen hi ih =>
      have hi' : i < bs.data.toList.length := by simpa using hi
      have hget : bs.get! i = bs.data.toList[i] := by
        rw [ByteArray.get!, Array.getElem_toList]
        exact getElem!_pos _ _ _
      rw [ih, List.drop_eq_getElem_cons hi', hget]
      simp
  | case2 i seen hi =>
      have hi' : bs.data.toList.length ≤ i := by simpa using hi
      rw [List.drop_eq_nil_of_le hi', List.append_nil]

theorem toList_eq (bs : ByteArray) : bs.toList = bs.data.toList :=
   (toList_loop bs 0 []).trans (by simp)

theorem bytesOf_eq (c : Char) : bytesOf c = String.utf8EncodeChar c := by
  rw [bytesOf, toList_eq]
  simp [String.toUTF8, List.utf8Encode]

/-- The bytes of a string are those of its characters. -/
theorem toList_toUTF8 (s : String) : s.toUTF8.toList = bytes s.toList := by
  rw [bytes, toList_eq, String.toUTF8, ← String.utf8Encode_toList, List.utf8Encode]
  simp [funext bytesOf_eq]

theorem utf8Encode_eq (cs : List Char) : cs.utf8Encode = (bytes cs).toByteArray := by
  rw [List.utf8Encode, bytes, funext bytesOf_eq]

/-- Bytes begin with the bytes of characters only where the characters begin with them. -/
theorem prefix_of_bytes {a b : List Char} (h : bytes a <+: bytes b) : a <+: b := by
  obtain ⟨rest, hrest⟩ := h
  refine List.isPrefix_of_utf8Encode_append_eq_utf8Encode rest.toByteArray ?_
  rw [utf8Encode_eq, utf8Encode_eq, ← hrest]
  simp

theorem bytes_injective {a b : List Char} (h : bytes a = bytes b) : a = b := by
  have hab : a <+: b := prefix_of_bytes (h ▸ List.prefix_rfl)
  have hba : b <+: a := prefix_of_bytes (h ▸ List.prefix_rfl)
  exact hab.eq_of_length (Nat.le_antisymm hab.length_le hba.length_le)

/-! ## Matching -/

/-- Steps can take the beginning of a text and leave the rest. -/
inductive Leaves : List GlobStep → List UInt8 → List UInt8 → Prop where
  | nothing (text : List UInt8) : Leaves [] text text
  | step {step : GlobStep} {steps : List GlobStep} {text next rest : List UInt8}
      (taken : next ∈ restsAfter step text) (more : Leaves steps next rest) :
      Leaves (step :: steps) text rest

theorem matchesSteps_iff {steps : List GlobStep} {text : List UInt8} :
    matchesSteps steps text = true ↔ Leaves steps text [] := by
  induction steps generalizing text with
  | nil =>
      rw [matchesSteps, List.isEmpty_iff]
      constructor
      · rintro rfl
        exact .nothing []
      · rintro ⟨⟩
        rfl
  | cons step steps ih =>
      rw [matchesSteps, List.any_eq_true]
      constructor
      · rintro ⟨next, htaken, hmore⟩
        exact .step htaken (ih.mp hmore)
      · rintro (_ | ⟨htaken, hmore⟩)
        exact ⟨_, htaken, ih.mpr hmore⟩

theorem leaves_append {a b : List GlobStep} {text rest : List UInt8} :
    Leaves (a ++ b) text rest ↔ ∃ next, Leaves a text next ∧ Leaves b next rest := by
  induction a generalizing text with
  | nil =>
      constructor
      · exact fun h => ⟨text, .nothing text, h⟩
      · rintro ⟨next, ⟨⟩, h⟩
        exact h
  | cons step a ih =>
      constructor
      · rintro (_ | ⟨htaken, hmore⟩)
        obtain ⟨next, hfirst, hsecond⟩ := ih.mp hmore
        exact ⟨next, .step htaken hfirst, hsecond⟩
      · rintro ⟨next, _ | ⟨htaken, hmore⟩, hsecond⟩
        exact .step htaken (ih.mpr ⟨next, hmore, hsecond⟩)

theorem leaves_singleton {step : GlobStep} {text rest : List UInt8} :
    Leaves [step] text rest ↔ rest ∈ restsAfter step text := by
  constructor
  · rintro (_ | ⟨htaken, ⟨⟩⟩)
    exact htaken
  · exact fun h => .step h (.nothing rest)

/-- Bytes take themselves and nothing else. -/
theorem leaves_bytes {bs text rest : List UInt8} :
    Leaves (bs.map .byte) text rest ↔ text = bs ++ rest := by
  induction bs generalizing text with
  | nil =>
      constructor
      · rintro ⟨⟩
        rfl
      · rintro rfl
        exact .nothing _
  | cons b bs ih =>
      constructor
      · rintro (_ | ⟨htaken, hmore⟩)
        cases text with
        | nil => simp [restsAfter] at htaken
        | cons c text =>
            by_cases hbc : b = c
            · subst hbc
              simp only [restsAfter, if_true, List.mem_singleton] at htaken
              subst htaken
              rw [ih.mp hmore, List.cons_append]
            · simp [restsAfter, hbc] at htaken
      · rintro rfl
        exact .step (by simp [restsAfter]) (ih.mpr rfl)

/-! ## What stars leave -/

theorem mem_ends {text rest : List UInt8} : rest ∈ ends text ↔ rest <:+ text := by
  induction text with
  | nil => simp [ends]
  | cons b text ih => rw [ends, List.mem_cons, ih, List.suffix_cons_iff]

theorem suffix_of_mem_afterSlashes {text rest : List UInt8} (h : rest ∈ afterSlashes text) :
    rest <:+ text := by
  induction text with
  | nil => simp [afterSlashes] at h
  | cons b text ih =>
      rw [afterSlashes] at h
      split at h
      · obtain rfl | h := List.mem_cons.mp h
        · exact List.suffix_cons b _
        · exact (ih h).trans (List.suffix_cons b text)
      · exact (ih h).trans (List.suffix_cons b text)

/-- What is left after a slash of what is left after a slash is left after a slash. -/
theorem mem_afterSlashes_trans {text next rest : List UInt8} (h : next ∈ afterSlashes text)
    (hrest : rest ∈ afterSlashes next) : rest ∈ afterSlashes text := by
  induction text with
  | nil => simp [afterSlashes] at h
  | cons b text ih =>
      by_cases hb : b = slash
      · rw [afterSlashes, if_pos hb] at h ⊢
        obtain rfl | h := List.mem_cons.mp h
        · exact List.mem_cons_of_mem _ hrest
        · exact List.mem_cons_of_mem _ (ih h)
      · rw [afterSlashes, if_neg hb] at h ⊢
        exact ih h

theorem mem_withinStep (text : List UInt8) : text ∈ withinStep text := by
  cases text <;> simp [withinStep]

/-- Within a step, all of it can be taken. -/
theorem nil_mem_withinStep {text : List UInt8} (h : slash ∉ text) : [] ∈ withinStep text := by
  induction text with
  | nil => simp [withinStep]
  | cons b text ih =>
      obtain ⟨hb, htext⟩ : slash ≠ b ∧ slash ∉ text := by simpa using h
      rw [withinStep, if_neg (Ne.symm hb)]
      exact List.mem_cons_of_mem _ (ih htext)

/-- A text has a last step. -/
theorem exists_lastStep (text : List UInt8) :
    ∃ last ∈ text :: afterSlashes text, slash ∉ last := by
  induction text with
  | nil => exact ⟨[], by simp, by simp⟩
  | cons b text ih =>
      obtain ⟨last, hlast, hslash⟩ := ih
      by_cases hb : b = slash
      · exact ⟨last, by rw [afterSlashes, if_pos hb]; exact List.mem_cons_of_mem _ hlast, hslash⟩
      · obtain rfl | hlast := List.mem_cons.mp hlast
        · exact ⟨b :: last, List.mem_cons_self .., by simp [Ne.symm hb, hslash]⟩
        · refine ⟨last, List.mem_cons_of_mem _ ?_, hslash⟩
          rwa [afterSlashes, if_neg hb]

/-! ## Pieces without alternatives -/

/-- Whether a piece offers no choice. -/
def isFlat : GlobPiece → Bool
  | .alternatives _ => false
  | _ => true

/-- The steps of a piece that offers no choice. -/
def stepsOf : GlobPiece → List GlobStep
  | .literal c => (bytesOf c).map .byte
  | .anyByte => [.anyByte]
  | .star => [.star]
  | .deepFront => [.deepFront]
  | .deepBack => [.deepBack]
  | .deepInside => [.deepInside]
  | .class_ negated ranges => [.oneOf negated (byteRanges ranges)]
  | .alternatives _ => []

theorem expand_of_flat {ps : List GlobPiece} (h : ∀ p ∈ ps, isFlat p = true) :
    expand ps = [ps.flatMap stepsOf] := by
  induction ps with
  | nil => rfl
  | cons p ps ih =>
      obtain ⟨hp, hps⟩ := List.forall_mem_cons.mp h
      have hpiece : expandPiece p = [stepsOf p] := by
        cases p <;> first | rfl | simp [isFlat] at hp
      rw [expand, hpiece, ih hps]
      rfl

/-- A glob made of pieces without choice matches what their steps take up. -/
theorem isMatch_iff_of_flat {ps : List GlobPiece} (h : ∀ p ∈ ps, isFlat p = true)
    (path : List UInt8) :
    (Glob.mk (expand ps)).isMatch path = true ↔ Leaves (ps.flatMap stepsOf) path [] := by
  rw [isMatch, expand_of_flat h, ← matchesSteps_iff]
  simp

/-- Pieces in reverse that offer no choice and can take the given characters. -/
structure Takes (ps : List GlobPiece) (seen : List Char) : Prop where
  flat : ∀ p ∈ ps, isFlat p = true
  leaves : ∀ rest, Leaves (ps.reverse.flatMap stepsOf) (bytes seen ++ rest) rest

theorem takes_nil : Takes [] [] := ⟨List.forall_mem_nil _, fun rest => .nothing rest⟩

theorem Takes.push {ps : List GlobPiece} {seen more : List Char} (h : Takes ps seen)
    {p : GlobPiece} (hflat : isFlat p = true)
    (hp : ∀ rest, Leaves (stepsOf p) (bytes more ++ rest) rest) :
    Takes (p :: ps) (seen ++ more) := by
  refine ⟨List.forall_mem_cons.mpr ⟨hflat, h.flat⟩, fun rest => ?_⟩
  rw [List.reverse_cons, List.flatMap_append, leaves_append]
  refine ⟨bytes more ++ rest, ?_, by simpa using hp rest⟩
  simpa using h.leaves (bytes more ++ rest)

/-- The last piece gives way to another one that can take more characters. -/
theorem Takes.replace {before : List GlobPiece} {p q : GlobPiece} {seen more : List Char}
    (h : Takes (p :: before) seen) (hflat : isFlat q = true)
    (hq : ∀ {text rest}, Leaves (stepsOf p) text (bytes more ++ rest) →
      Leaves (stepsOf q) text rest) : Takes (q :: before) (seen ++ more) := by
  obtain ⟨-, hbefore⟩ := List.forall_mem_cons.mp h.flat
  refine ⟨List.forall_mem_cons.mpr ⟨hflat, hbefore⟩, fun rest => ?_⟩
  have hleaves := h.leaves (bytes more ++ rest)
  rw [List.reverse_cons, List.flatMap_append, leaves_append] at hleaves ⊢
  obtain ⟨next, hfirst, hlast⟩ := hleaves
  refine ⟨next, by simpa using hfirst, ?_⟩
  simpa using hq (by simpa using hlast)

theorem leaves_literal (c : Char) (rest : List UInt8) :
    Leaves (stepsOf (.literal c)) (bytes [c] ++ rest) rest := by
  simpa [stepsOf, bytes] using leaves_bytes.mpr rfl

theorem bytes_of_ascii : bytes ['*'] = [42] ∧ bytes ['?'] = [63] ∧ bytes ['/'] = [slash] ∧
    bytes ['*', '*'] = [42, 42] ∧ bytes ['*', '*', '/'] = [42, 42, slash] := by
  simp only [bytes, List.flatMap_cons, List.flatMap_nil, bytesOf_eq]
  decide

theorem leaves_star (rest : List UInt8) : Leaves (stepsOf .star) (bytes ['*'] ++ rest) rest := by
  rw [bytes_of_ascii.1]
  exact leaves_singleton.mpr (List.mem_cons_of_mem _ (mem_withinStep rest))

theorem leaves_anyByte (rest : List UInt8) :
    Leaves (stepsOf .anyByte) (bytes ['?'] ++ rest) rest := by
  rw [bytes_of_ascii.2.1]
  exact leaves_singleton.mpr (List.mem_singleton_self rest)

/-! ## Stars for whole steps -/

/-- A piece with which a step of the path has ended. -/
inductive EndsStep : GlobPiece → Prop where
  | slash : EndsStep (.literal '/')
  | front : EndsStep .deepFront
  | inside : EndsStep .deepInside

/-- What becomes of such a piece when two stars and a slash follow. -/
def deepen : GlobPiece → GlobPiece
  | .deepFront => .deepFront
  | _ => .deepInside

theorem leaves_slash {text rest : List UInt8} :
    Leaves (stepsOf (.literal '/')) text rest ↔ text = slash :: rest := by
  have hbytes : bytesOf '/' = [slash] := by simpa [bytes] using bytes_of_ascii.2.2.1
  rw [stepsOf, hbytes]
  exact leaves_bytes

/-- After two stars and a slash, what comes after the slash is left after a slash. -/
theorem mem_afterSlashes_of_stars {text rest : List UInt8}
    (h : 42 :: 42 :: slash :: rest ∈ text :: afterSlashes text) : rest ∈ afterSlashes text := by
  have hrest : rest ∈ afterSlashes (42 :: 42 :: slash :: rest) := by
    simp [afterSlashes, slash]
  obtain rfl | h := List.mem_cons.mp h
  · exact hrest
  · exact mem_afterSlashes_trans h hrest

/-- Inside a path, two stars begin at a slash. -/
theorem mem_restsAfter_inside {text rest : List UInt8} :
    rest ∈ restsAfter .deepInside text ↔
      ∃ next, text = slash :: next ∧ rest ∈ next :: afterSlashes next := by
  cases text with
  | nil => simp [restsAfter]
  | cons c text =>
      by_cases hc : c = slash <;> simp [restsAfter, hc]

theorem mem_restsAfter_back {text rest : List UInt8} :
    rest ∈ restsAfter .deepBack text ↔ ∃ next, text = slash :: next ∧ rest <:+ next := by
  cases text with
  | nil => simp [restsAfter]
  | cons c text =>
      by_cases hc : c = slash <;> simp [restsAfter, hc, mem_ends]

namespace EndsStep

variable {p : GlobPiece} {text rest : List UInt8} (h : EndsStep p)

include h

/-- The deeper piece can span steps after what the piece takes. -/
theorem leaves_deepen_below {next : List UInt8} (hleaves : Leaves (stepsOf p) text next)
    (hrest : rest ∈ next :: afterSlashes next) : Leaves (stepsOf (deepen p)) text rest := by
  have htrans : ∀ {text : List UInt8}, next ∈ text :: afterSlashes text →
      rest ∈ text :: afterSlashes text := by
    intro text hnext
    obtain rfl | hnext := List.mem_cons.mp hnext
    · exact hrest
    · obtain rfl | hrest := List.mem_cons.mp hrest
      · exact List.mem_cons_of_mem _ hnext
      · exact List.mem_cons_of_mem _ (mem_afterSlashes_trans hnext hrest)
  cases h with
  | slash =>
      rw [leaves_slash] at hleaves
      exact leaves_singleton.mpr (mem_restsAfter_inside.mpr ⟨next, hleaves, hrest⟩)
  | front => exact leaves_singleton.mpr (htrans (leaves_singleton.mp hleaves))
  | inside =>
      obtain ⟨inner, htext, hmem⟩ := mem_restsAfter_inside.mp (leaves_singleton.mp hleaves)
      exact leaves_singleton.mpr (mem_restsAfter_inside.mpr ⟨inner, htext, htrans hmem⟩)

/-- The deeper piece can span the two stars. -/
theorem leaves_deepen_stars (hleaves : Leaves (stepsOf p) text (42 :: 42 :: Glob.slash :: rest)) :
    Leaves (stepsOf (deepen p)) text rest := by
  refine h.leaves_deepen_below hleaves (List.mem_cons_of_mem _ ?_)
  exact mem_afterSlashes_of_stars (List.mem_cons_self ..)

/-- Two stars at the end of a glob span themselves, unless they are all there is. -/
theorem leaves_back (hfront : p ≠ .deepFront)
    (hleaves : Leaves (stepsOf p) text (42 :: 42 :: rest)) :
    Leaves (stepsOf .deepBack) text rest := by
  have hrest : rest <:+ 42 :: 42 :: rest := List.suffix_append [42, 42] rest
  cases h with
  | slash =>
      rw [leaves_slash] at hleaves
      exact leaves_singleton.mpr (mem_restsAfter_back.mpr ⟨_, hleaves, hrest⟩)
  | front => exact absurd rfl hfront
  | inside =>
      obtain ⟨next, htext, hmem⟩ := mem_restsAfter_inside.mp (leaves_singleton.mp hleaves)
      have hnext : 42 :: 42 :: rest <:+ next := by
        obtain rfl | hmem := List.mem_cons.mp hmem
        · exact List.suffix_rfl
        · exact suffix_of_mem_afterSlashes hmem
      exact leaves_singleton.mpr (mem_restsAfter_back.mpr ⟨next, htext, hrest.trans hnext⟩)

end EndsStep

end QuietEmit.Glob
