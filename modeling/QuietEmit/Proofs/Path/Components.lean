/-
  QuietEmit.Proofs.Path.Components

  The spelling of a path and its components. A path is a list of parts between
  slashes, and spelling parts that could be those of a path gives a path with
  these parts (`parts_ofParts`). Idle parts at the end do not show among the
  components, and every other part at the end is one more component
  (`stepsFrom_append_idle`, `stepsFrom_concat`), so a file name is the last part
  that is not idle (`exists_of_fileName`).

  Paths are totally ordered by their components: two paths that neither comes
  before are the same (`cmp_eq_iff_same`), and sorting by `le` puts the paths
  that come before others first (`pairwise_le_mergeSort`).
-/
import QuietEmit.Path

namespace QuietEmit.Path

/-! ## Parts -/

/-- The pieces between slashes hold no slash. -/
theorem slash_notMem_of_mem_splitOn {cs part : List Char} (h : part ∈ cs.splitOn '/') :
    '/' ∉ part := by
  induction cs generalizing part with
  | nil =>
      rw [List.splitOn_nil, List.mem_singleton] at h
      simp [h]
  | cons c cs ih =>
      rw [List.splitOn_cons_eq_if_modifyHead] at h
      by_cases hc : c = '/'
      · rw [if_pos (by simpa using hc), List.mem_cons] at h
        rcases h with rfl | h
        · simp
        · exact ih h
      · rw [if_neg (by simpa using hc)] at h
        cases hsplit : cs.splitOn '/' with
        | nil => exact absurd hsplit (List.splitOn_ne_nil _ _)
        | cons first rest =>
            rw [hsplit] at h ih
            simp only [List.modifyHead_cons, List.mem_cons] at h
            rcases h with rfl | h
            · have hfirst := ih (List.mem_cons_self ..)
              simp [hfirst, Ne.symm hc]
            · exact ih (List.mem_cons_of_mem _ h)

/-- Lists of parts that a path can have: at least one, none with a slash, and the first one empty
only after a leading slash or when it is all there is. -/
structure Spells (absolute : Bool) (parts : List (List Char)) : Prop where
  ne_nil : parts ≠ []
  slash_notMem : ∀ part ∈ parts, '/' ∉ part
  head_ne_nil : absolute = false → parts.head? = some [] → parts = [[]]

/-- A path has parts that a path can have. -/
theorem spells (p : Path) : Spells p.isAbsolute p.parts := by
  rw [isAbsolute, parts]
  refine ⟨?_, ?_, ?_⟩
  · split <;> exact List.splitOn_ne_nil _ _
  · intro part hpart
    split at hpart <;> exact slash_notMem_of_mem_splitOn hpart
  · intro hrel hhead
    cases htext : p.text.toList with
    | nil => rfl
    | cons c cs =>
        have hc : c ≠ '/' := by
          rintro rfl
          simp [htext] at hrel
        rw [htext] at hhead
        split at hhead
        · next hcs => exact absurd (List.cons.inj hcs).1 hc
        · rw [List.splitOn_cons_eq_if_modifyHead, if_neg (by simpa using hc)] at hhead
          cases hsplit : cs.splitOn '/' with
          | nil => exact absurd hsplit (List.splitOn_ne_nil _ _)
          | cons first rest => simp [hsplit] at hhead

theorem isAbsolute_ofParts {absolute : Bool} {parts : List (List Char)}
    (h : Spells absolute parts) : (ofParts absolute parts).isAbsolute = absolute := by
  cases absolute with
  | true => simp [ofParts, isAbsolute]
  | false =>
      cases parts with
      | nil => exact absurd rfl h.ne_nil
      | cons first rest =>
          cases first with
          | nil =>
              have hrest := h.head_ne_nil rfl rfl
              rw [hrest]
              rfl
          | cons c cs =>
              have hc := h.slash_notMem _ (List.mem_cons_self ..)
              rw [List.mem_cons, not_or] at hc
              cases rest with
              | nil => simp [ofParts, isAbsolute, List.intercalate, Ne.symm hc.1]
              | cons second rest =>
                  simp [ofParts, isAbsolute, List.intercalate_cons_cons, Ne.symm hc.1]

/-- What is spelt is read back. -/
theorem parts_ofParts {absolute : Bool} {parts : List (List Char)} (h : Spells absolute parts) :
    (ofParts absolute parts).parts = parts := by
  have hsplit : (['/'].intercalate parts).splitOn '/' = parts :=
    List.splitOn_intercalate '/' h.slash_notMem h.ne_nil
  cases absolute with
  | true => simp [ofParts, Path.parts, hsplit]
  | false =>
      have hrel := isAbsolute_ofParts h
      rw [isAbsolute] at hrel
      rw [Path.parts]
      split
      · next cs htext => simp [htext] at hrel
      · simpa [ofParts] using hsplit

/-! ## Components of parts -/

/-- The steps of parts, none of which can be a leading `.`. -/
def steps (parts : List (List Char)) : List Component := (parts.filter (!isIdle ·)).map componentOf

/-- The components of parts, with the root before them or not. -/
def stepsFrom (absolute : Bool) (parts : List (List Char)) : List Component :=
  if absolute then .root :: steps parts
  else match parts with
    | ['.'] :: rest => .here :: steps rest
    | parts => steps parts

theorem components_eq (p : Path) : p.components = stepsFrom p.isAbsolute p.parts := by
  unfold components stepsFrom
  rfl

@[simp] theorem steps_nil : steps [] = [] := rfl

theorem steps_cons_of_idle {part : List Char} (h : isIdle part = true) (parts : List (List Char)) :
    steps (part :: parts) = steps parts := by
  simp [steps, h]

theorem steps_cons_of_not_idle {part : List Char} (h : isIdle part = false)
    (parts : List (List Char)) : steps (part :: parts) = componentOf part :: steps parts := by
  simp [steps, h]

@[simp] theorem steps_append (a b : List (List Char)) : steps (a ++ b) = steps a ++ steps b := by
  simp [steps]

theorem steps_eq_nil_of_idle {parts : List (List Char)} (h : ∀ part ∈ parts, isIdle part = true) :
    steps parts = [] := by
  rw [steps, List.filter_eq_nil_iff.mpr (by simpa using h)]
  rfl

theorem stepsFrom_false_of_ne {parts : List (List Char)} (h : ∀ rest, parts ≠ ['.'] :: rest) :
    stepsFrom false parts = steps parts := by
  unfold stepsFrom
  split
  · simp_all
  · split
    · next rest => exact absurd rfl (h rest)
    · rfl

/-- More parts after others are more steps. -/
theorem stepsFrom_append (absolute : Bool) {a : List (List Char)} (ha : a ≠ [])
    (b : List (List Char)) : stepsFrom absolute (a ++ b) = stepsFrom absolute a ++ steps b := by
  cases absolute with
  | true => simp [stepsFrom]
  | false =>
      cases a with
      | nil => exact absurd rfl ha
      | cons first rest =>
          by_cases hfirst : first = ['.']
          · subst hfirst
            simp [stepsFrom]
          · simp [stepsFrom, hfirst, ← steps_append]

/-- Idle parts at the end do not show. -/
theorem stepsFrom_append_idle (absolute : Bool) {a b : List (List Char)} (ha : a ≠ [])
    (hb : ∀ part ∈ b, isIdle part = true) : stepsFrom absolute (a ++ b) = stepsFrom absolute a := by
  rw [stepsFrom_append absolute ha, steps_eq_nil_of_idle hb, List.append_nil]

/-- Any other part at the end is one more component. -/
theorem stepsFrom_concat (absolute : Bool) (parts : List (List Char)) {part : List Char}
    (h : isIdle part = false) :
    stepsFrom absolute (parts ++ [part]) = stepsFrom absolute parts ++ [componentOf part] := by
  cases parts with
  | nil =>
      have hdot : part ≠ ['.'] := by
        rintro rfl
        simp [isIdle] at h
      cases absolute <;> simp [stepsFrom, hdot, steps_cons_of_not_idle h]
  | cons first rest =>
      rw [stepsFrom_append absolute (by simp), steps_cons_of_not_idle h, steps_nil]

/-- Idle parts leave at most a root or a leading dot. -/
theorem name_notMem_stepsFrom_of_idle (absolute : Bool) {parts : List (List Char)}
    (h : ∀ part ∈ parts, isIdle part = true) (s : String) :
    .name s ∉ stepsFrom absolute parts := by
  have hsteps := steps_eq_nil_of_idle h
  unfold stepsFrom
  split
  · simp [hsteps]
  · split
    · next rest => simp [steps_eq_nil_of_idle fun part hpart => h part (List.mem_cons_of_mem _ hpart)]
    · simp [hsteps]

/-! ## File names -/

/-- What is trimmed off is idle. -/
theorem exists_idle_of_trim (p : Path) (reversed : List (List Char)) :
    ∃ idle, reversed = idle ++ trimmedParts.trim p reversed ∧
      ∀ part ∈ idle, isIdle part = true := by
  fun_induction trimmedParts.trim p reversed with
  | case1 => exact ⟨[], rfl, by simp⟩
  | case2 part h =>
      refine ⟨[part], by simp, ?_⟩
      intro part' hpart'
      rw [List.mem_singleton] at hpart'
      subst hpart'
      simp only [Bool.or_eq_true, Bool.and_eq_true, beq_iff_eq] at h
      rcases h with rfl | ⟨-, h⟩
      · rfl
      · exact h
  | case3 part h => exact ⟨[], rfl, by simp⟩
  | case4 part rest hrest hidle ih =>
      obtain ⟨idle, heq, hall⟩ := ih
      refine ⟨part :: idle, by rw [List.cons_append, ← heq], ?_⟩
      intro part' hpart'
      rcases List.mem_cons.mp hpart' with rfl | hpart'
      · exact hidle
      · exact hall part' hpart'
  | case5 part rest hrest hidle => exact ⟨[], rfl, by simp⟩

/-- After trimming, the last part is not idle, unless it is all there is of a relative path. -/
theorem trim_eq_cons {p : Path} {reversed rest : List (List Char)} {part : List Char}
    (h : trimmedParts.trim p reversed = part :: rest) :
    isIdle part = false ∨ p.isAbsolute = false ∧ part = ['.'] ∧ rest = [] := by
  fun_induction trimmedParts.trim p reversed with
  | case1 => simp at h
  | case2 part' hpart => simp at h
  | case3 part' hpart =>
      obtain ⟨rfl, rfl⟩ := List.cons.inj h
      simp only [Bool.or_eq_true, Bool.and_eq_true, beq_iff_eq, not_or, not_and] at hpart
      cases hidle : isIdle part' with
      | false => exact .inl rfl
      | true =>
          refine .inr ⟨?_, ?_, rfl⟩
          · cases habs : p.isAbsolute with
            | false => rfl
            | true => exact absurd hidle (hpart.2 habs)
          · simpa [isIdle, hpart.1] using hidle
  | case4 part' rest' hrest hidle ih => exact ih h
  | case5 part' rest' hrest hidle =>
      obtain ⟨rfl, rfl⟩ := List.cons.inj h
      exact .inl (by simpa using hidle)

/-- The parts are the trimmed ones and idle ones after them. -/
theorem exists_parts_eq (p : Path) :
    ∃ idle, p.parts = p.trimmedParts.reverse ++ idle ∧ ∀ part ∈ idle, isIdle part = true := by
  obtain ⟨idle, heq, hall⟩ := exists_idle_of_trim p p.parts.reverse
  refine ⟨idle.reverse, ?_, fun part hpart => hall part (List.mem_reverse.mp hpart)⟩
  rw [trimmedParts, ← List.reverse_append, ← heq, List.reverse_reverse]

theorem componentOf_eq_name_iff {part : List Char} {s : String} (h : isIdle part = false) :
    componentOf part = .name s ↔ part = s.toList ∧ part ≠ ['.', '.'] := by
  have hdot : part ≠ ['.'] := by
    rintro rfl
    simp [isIdle] at h
  rw [componentOf]
  by_cases hup : part = ['.', '.']
  · simp [hup]
  · simp [hup, hdot, ← String.toList_inj]

/-- A file name is the last part that is not idle, and the last component. -/
theorem exists_of_fileName {p : Path} {s : String} (h : p.fileName = some s) :
    ∃ rest, p.trimmedParts = s.toList :: rest ∧ isIdle s.toList = false ∧
      p.components = stepsFrom p.isAbsolute rest.reverse ++ [.name s] := by
  have hlast : p.components.getLast? = some (.name s) := by
    rw [fileName] at h
    split at h
    · next s' hs => simpa [hs] using h
    · simp at h
  obtain ⟨idle, hparts, hidle⟩ := exists_parts_eq p
  rw [components_eq, hparts] at hlast ⊢
  cases htrimmed : p.trimmedParts with
  | nil =>
      rw [htrimmed, List.reverse_nil, List.nil_append] at hlast
      exact absurd (List.mem_of_getLast? hlast) (name_notMem_stepsFrom_of_idle _ hidle s)
  | cons part rest =>
      have hne : rest.reverse ++ [part] ≠ [] := by simp
      rw [htrimmed, List.reverse_cons, stepsFrom_append_idle _ hne hidle] at hlast
      rw [List.reverse_cons, stepsFrom_append_idle _ hne hidle]
      rcases trim_eq_cons htrimmed with hpart | ⟨habs, rfl, rfl⟩
      · rw [stepsFrom_concat _ _ hpart] at hlast ⊢
        rw [List.getLast?_concat, Option.some_inj, componentOf_eq_name_iff hpart] at hlast
        obtain ⟨rfl, hup⟩ := hlast
        exact ⟨rest, rfl, hpart, by rw [(componentOf_eq_name_iff hpart).mpr ⟨rfl, hup⟩]⟩
      · simp [habs, stepsFrom] at hlast

end QuietEmit.Path

/-! ## Order -/

namespace QuietEmit

/-- Components are ordered by kind and then by text, which only names differ in. -/
theorem Component.cmp_eq :
    Component.cmp = compareLex (compareOn Component.rank) (compareOn Component.text) := by
  funext a b
  cases a <;> cases b <;> simp [cmp, compareLex, compareOn, rank, text] <;> rfl

instance : Std.TransCmp Component.cmp := by
  rw [Component.cmp_eq]
  infer_instance

instance : Std.LawfulEqCmp Component.cmp where
  eq_of_compare {a b} h := by
    cases a <;> cases b <;> simp_all [Component.cmp, Component.rank]

namespace Path

instance : Std.TransCmp cmp where
  eq_swap {p q} :=
    @Std.OrientedCmp.eq_swap _ (List.compareLex Component.cmp) _ p.components q.components
  isLE_trans {p q r} :=
    @Std.TransCmp.isLE_trans _ (List.compareLex Component.cmp) _ p.components q.components
      r.components

variable {p q r : Path}

theorem cmp_eq_iff_same : p.cmp q = .eq ↔ p.same q = true := by
  rw [cmp, same, beq_iff_eq, Std.LawfulEqCmp.compare_eq_iff_eq]

theorem le_iff : p.le q = true ↔ (p.cmp q).isLE = true := by
  rw [le]
  cases p.cmp q <;> simp

theorem le_trans (hpq : p.le q = true) (hqr : q.le r = true) : p.le r = true := by
  rw [le_iff] at *
  exact Std.TransCmp.isLE_trans hpq hqr

theorem le_total (p q : Path) : (p.le q || q.le p) = true := by
  have hswap : p.cmp q = (q.cmp p).swap := Std.OrientedCmp.eq_swap
  rw [le, le, hswap]
  cases q.cmp p <;> rfl

theorem lt_of_lt_of_le (hpq : p.cmp q = .lt) (hqr : q.le r = true) : p.cmp r = .lt :=
  Std.TransCmp.lt_of_lt_of_isLE hpq (le_iff.mp hqr)

theorem not_le_of_lt (h : p.cmp q = .lt) : q.le p = false := by
  have hswap : q.cmp p = (p.cmp q).swap := Std.OrientedCmp.eq_swap
  rw [le, hswap, h]
  rfl

/-- Of two paths in order that are not the same, one comes before the other. -/
theorem lt_of_le_of_not_same (hle : p.le q = true) (hsame : p.same q = false) :
    p.cmp q = .lt := by
  have hne : p.cmp q ≠ .eq := by
    rw [ne_eq, cmp_eq_iff_same, hsame]
    simp
  rw [le] at hle
  cases h : p.cmp q with
  | lt => rfl
  | eq => exact absurd h hne
  | gt => simp [h] at hle

theorem not_same_of_lt (h : p.cmp q = .lt) : p.same q = false := by
  cases hsame : p.same q with
  | false => rfl
  | true => simp [cmp_eq_iff_same.mpr hsame] at h

theorem pairwise_le_mergeSort (paths : List Path) :
    (paths.mergeSort le).Pairwise fun p q => p.le q = true := by
  have htrans : ∀ p q r : Path, p.le q = true → q.le r = true → p.le r = true :=
    fun _ _ _ => le_trans
  have htotal : ∀ p q : Path, (p.le q || q.le p) = true := le_total
  exact List.pairwise_mergeSort htrans htotal paths

end Path

end QuietEmit
