/-
  QuietEmit.Proofs.Path.Join

  Joining paths and taking them apart, in components. What `below?` leaves of a
  path are its components after those of the base, and it leaves something of every
  path whose components begin so (`components_eq_append_of_below?`,
  `exists_below?`). Joining puts components after each other (`components_join`),
  unless the second path is absolute or starts with a `.` of its own.
-/
import QuietEmit.Proofs.Path.Components

namespace QuietEmit.Path

/-! ## Below a base -/

/-- Dropping steps takes them off the steps of the parts. -/
theorem steps_of_dropSteps {cs : List Component} {parts left : List (List Char)}
    (h : dropSteps cs parts = some left) :
    steps parts = cs ++ steps left ∧ ∃ taken, parts = taken ++ left := by
  fun_induction dropSteps cs parts with
  | case1 parts =>
      obtain rfl := Option.some.inj h
      exact ⟨rfl, [], rfl⟩
  | case2 => simp at h
  | case3 c cs part parts hidle ih =>
      obtain ⟨hsteps, taken, rfl⟩ := ih h
      exact ⟨by rw [steps_cons_of_idle hidle, hsteps], part :: taken, rfl⟩
  | case4 c cs part parts hidle hpart ih =>
      obtain ⟨hsteps, taken, rfl⟩ := ih h
      refine ⟨?_, part :: taken, rfl⟩
      rw [steps_cons_of_not_idle (by simpa using hidle), hsteps, eq_of_beq hpart]
      rfl
  | case5 => simp at h

/-- Steps that begin those of the parts can be dropped. -/
theorem exists_dropSteps {cs rest : List Component} {parts : List (List Char)}
    (h : steps parts = cs ++ rest) : ∃ left, dropSteps cs parts = some left := by
  fun_induction dropSteps cs parts with
  | case1 parts => exact ⟨parts, rfl⟩
  | case2 => simp at h
  | case3 c cs part parts hidle ih => exact ih (by rw [← h, steps_cons_of_idle hidle])
  | case4 c cs part parts hidle hpart ih =>
      rw [steps_cons_of_not_idle (by simpa using hidle), List.cons_append, List.cons.injEq] at h
      exact ih h.2
  | case5 c cs part parts hidle hpart =>
      rw [steps_cons_of_not_idle (by simpa using hidle), List.cons_append, List.cons.injEq] at h
      simp [h.1] at hpart

/-- A leading `.` is no step. -/
theorem here_notMem_steps (parts : List (List Char)) : .here ∉ steps parts := by
  simp only [steps, List.mem_map, List.mem_filter, not_exists, not_and]
  rintro part ⟨-, hidle⟩
  rw [componentOf]
  split
  · simp
  · split
    · next hdot => simp [eq_of_beq hdot, isIdle] at hidle
    · simp

theorem root_notMem_steps (parts : List (List Char)) : .root ∉ steps parts := by
  simp only [steps, List.mem_map, List.mem_filter, not_exists, not_and]
  rintro part -
  rw [componentOf]
  split
  · simp
  · split <;> simp

/-- The parts without idle ones at both ends. -/
def inner (parts : List (List Char)) : List (List Char) :=
  ((parts.dropWhile isIdle).reverse.dropWhile isIdle).reverse

theorem steps_dropWhile_isIdle (parts : List (List Char)) :
    steps (parts.dropWhile isIdle) = steps parts := by
  induction parts with
  | nil => rfl
  | cons part parts ih =>
      cases hidle : isIdle part with
      | true => rw [List.dropWhile_cons_of_pos hidle, ih, steps_cons_of_idle hidle]
      | false => rw [List.dropWhile_cons_of_neg (by simp [hidle])]

theorem steps_reverse (parts : List (List Char)) : steps parts.reverse = (steps parts).reverse := by
  simp [steps]

@[simp] theorem steps_inner (parts : List (List Char)) : steps (inner parts) = steps parts := by
  rw [inner, steps_reverse, steps_dropWhile_isIdle, steps_reverse, steps_dropWhile_isIdle,
    List.reverse_reverse]

theorem mem_of_mem_inner {part : List Char} {parts : List (List Char)} (h : part ∈ inner parts) :
    part ∈ parts := by
  rw [inner, List.mem_reverse] at h
  have h' := (List.dropWhile_sublist _).subset h
  exact (List.dropWhile_sublist _).subset (List.mem_reverse.mp h')

/-- Inner parts do not begin with an idle one. -/
theorem isIdle_of_inner_eq_cons {parts rest : List (List Char)} {part : List Char}
    (h : inner parts = part :: rest) : isIdle part = false := by
  have hbegins : inner parts <+: parts.dropWhile isIdle := by
    rw [inner, ← List.reverse_suffix, List.reverse_reverse]
    exact List.dropWhile_suffix _
  obtain ⟨tail, htail⟩ := hbegins
  rw [h, List.cons_append] at htail
  have hne : parts.dropWhile isIdle ≠ [] := by simp [← htail]
  have hhead := List.head_dropWhile_not isIdle hne
  simpa [← htail] using hhead

/-- Inner parts spell a relative path, the steps of which are those of all parts. -/
theorem components_ofParts_inner {parts : List (List Char)} (h : ∀ part ∈ parts, '/' ∉ part) :
    (ofParts false (inner parts)).isAbsolute = false ∧
      (ofParts false (inner parts)).components = steps parts := by
  cases hinner : inner parts with
  | nil =>
      have hsteps := steps_inner parts
      rw [hinner] at hsteps
      exact ⟨rfl, hsteps⟩
  | cons part rest =>
      have hidle := isIdle_of_inner_eq_cons hinner
      have hspells : Spells false (part :: rest) := by
        refine ⟨by simp, ?_, ?_⟩
        · rw [← hinner]
          exact fun part hpart => h part (mem_of_mem_inner hpart)
        · intro _ hhead
          obtain rfl := Option.some.inj hhead
          simp [isIdle] at hidle
      have hdot : part ≠ ['.'] := by
        rintro rfl
        simp [isIdle] at hidle
      refine ⟨isAbsolute_ofParts hspells, ?_⟩
      rw [components_eq, isAbsolute_ofParts hspells, parts_ofParts hspells, ← steps_inner parts,
        hinner]
      simp [stepsFrom, hdot]

/-- What is left of a path below a base is relative, without a leading `.`, and its components are
those that come after the base. -/
theorem components_of_below? {p base r : Path} (h : p.below? base = some r)
    (hbase : base.components ≠ []) :
    r.isAbsolute = false ∧ .here ∉ r.components ∧
      p.components = base.components ++ r.components := by
  have hslash := (spells p).slash_notMem
  -- the leading part of the path and of the base agree; `parts` is what comes after it
  have hrest : ∀ (lead parts : List (List Char)) {cs : List Component}, p.parts = lead ++ parts →
      (dropSteps cs parts).map (fun left => ofParts false (inner left)) = some r →
      r.isAbsolute = false ∧ .here ∉ r.components ∧ steps parts = cs ++ r.components := by
    intro lead parts cs hparts hr
    obtain ⟨left, hleft, rfl⟩ := Option.map_eq_some_iff.mp hr
    obtain ⟨hsteps, taken, rfl⟩ := steps_of_dropSteps hleft
    have hinner := components_ofParts_inner fun part hpart =>
      hslash part (by rw [hparts]; exact List.mem_append_right _ (List.mem_append_right taken hpart))
    rw [hinner.2]
    exact ⟨hinner.1, here_notMem_steps left, hsteps⟩
  rw [below?, if_neg (by simpa using hbase)] at h
  rw [components_eq p]
  split at h
  · next hbaseSteps habs =>
      obtain ⟨h₁, h₂, h₃⟩ := hrest [] p.parts rfl h
      exact ⟨h₁, h₂, by simp [stepsFrom, habs, h₃, hbaseSteps]⟩
  · simp at h
  · simp at h
  · next hbaseSteps habs =>
      split at h
      · next parts hparts =>
          obtain ⟨h₁, h₂, h₃⟩ := hrest [['.']] parts hparts h
          exact ⟨h₁, h₂, by simp [stepsFrom, habs, hparts, h₃, hbaseSteps]⟩
      · simp at h
  · next habs _ _ =>
      split at h
      · simp at h
      · next hdot =>
          obtain ⟨h₁, h₂, h₃⟩ := hrest [] p.parts rfl h
          refine ⟨h₁, h₂, ?_⟩
          rw [← h₃, habs, stepsFrom_false_of_ne hdot]

/-- A base whose components begin those of a path has the path below it. -/
theorem isSome_below? {p base : Path} {rest : List Component}
    (h : p.components = base.components ++ rest) (hbase : base.components ≠ []) :
    (p.below? base).isSome := by
  rw [below?, if_neg (by simpa using hbase)]
  rw [components_eq p] at h
  cases hcomponents : base.components with
  | nil => exact absurd hcomponents hbase
  | cons c cs =>
      rw [hcomponents] at h
      cases habs : p.isAbsolute with
      | true =>
          rw [habs] at h
          obtain ⟨rfl, hsteps⟩ := List.cons.inj (h : .root :: steps p.parts = c :: (cs ++ rest))
          obtain ⟨left, hleft⟩ := exists_dropSteps hsteps
          simp [hleft]
      | false =>
          rw [habs] at h
          by_cases hdot : ∃ parts, p.parts = ['.'] :: parts
          · obtain ⟨parts, hparts⟩ := hdot
            rw [hparts] at h
            obtain ⟨rfl, hsteps⟩ := List.cons.inj (h : .here :: steps parts = c :: (cs ++ rest))
            obtain ⟨left, hleft⟩ := exists_dropSteps hsteps
            simp [hparts, hleft]
          · rw [not_exists] at hdot
            rw [stepsFrom_false_of_ne hdot] at h
            obtain ⟨left, hleft⟩ := exists_dropSteps h
            have hmem : c ∈ steps p.parts := by simp [h]
            have hroot : c ≠ .root := by
              rintro rfl
              exact root_notMem_steps _ hmem
            have hhere : c ≠ .here := by
              rintro rfl
              exact here_notMem_steps _ hmem
            cases c with
            | root => exact absurd rfl hroot
            | here => exact absurd rfl hhere
            | _ => simp [hleft]

/-- The first of the parts that a path can have are such parts too. -/
theorem Spells.of_append {absolute : Bool} {a b : List (List Char)} (h : Spells absolute (a ++ b))
    (ha : a ≠ []) : Spells absolute a := by
  refine ⟨ha, fun part hpart => h.slash_notMem part (List.mem_append_left _ hpart), ?_⟩
  intro hrel hhead
  have hall : a ++ b = [[]] := h.head_ne_nil hrel (by rw [List.head?_append, hhead]; rfl)
  rcases List.append_eq_singleton_iff.mp hall with ⟨hnil, -⟩ | ⟨hsingle, -⟩
  · exact absurd hnil ha
  · exact hsingle

/-- Of a relative path nothing is left only if its first part is empty. -/
theorem getLast?_of_trim_eq_nil {p : Path} (hrel : p.isAbsolute = false)
    {reversed : List (List Char)} (h : trimmedParts.trim p reversed = []) (hne : reversed ≠ []) :
    reversed.getLast? = some [] := by
  fun_induction trimmedParts.trim p reversed with
  | case1 => exact absurd rfl hne
  | case2 part hpart => simpa [hrel] using hpart
  | case3 part hpart => simp at h
  | case4 part rest hrest hidle ih =>
      have hrest' : rest ≠ [] := by
        rintro rfl
        exact hrest rfl
      rw [List.getLast?_cons, ih h hrest']
      rfl
  | case5 part rest hrest hidle => simp at h

/-- Parts taken off the end do not show among the components. -/
theorem components_ofParts_trimmedParts (p : Path) :
    (ofParts p.isAbsolute p.trimmedParts.reverse).components = p.components := by
  obtain ⟨idle, hparts, hidle⟩ := exists_parts_eq p
  have hspells := spells p
  by_cases htrimmed : p.trimmedParts = []
  · rw [htrimmed, List.reverse_nil, List.nil_append] at hparts
    rw [components_eq p, htrimmed, List.reverse_nil]
    cases habs : p.isAbsolute with
    | true =>
        have hsteps : steps p.parts = [] := by rw [hparts, steps_eq_nil_of_idle hidle]
        show [Component.root] = Component.root :: steps p.parts
        rw [hsteps]
    | false =>
        have hlast := getLast?_of_trim_eq_nil habs htrimmed (by simpa using hspells.ne_nil)
        rw [List.getLast?_reverse] at hlast
        rw [hspells.head_ne_nil habs hlast]
        rfl
  · have hne : p.trimmedParts.reverse ≠ [] := by simpa using htrimmed
    rw [hparts] at hspells
    have hkept := hspells.of_append hne
    rw [components_eq, isAbsolute_ofParts hkept, parts_ofParts hkept, components_eq p, hparts,
      stepsFrom_append_idle _ hne hidle]

/-- What is left of a path below a base are the components that come after the base. -/
theorem components_eq_append_of_below? {p base r : Path} (h : p.below? base = some r) :
    p.components = base.components ++ r.components := by
  by_cases hbase : base.components = []
  · rw [below?, if_pos (by simpa using hbase)] at h
    obtain rfl := Option.some.inj h
    rw [hbase, components_ofParts_trimmedParts, List.nil_append]
  · exact (components_of_below? h hbase).2.2

/-- A path whose components begin with those of a base is below it by the components that are
left. -/
theorem exists_below? {p base : Path} {rest : List Component}
    (h : p.components = base.components ++ rest) :
    ∃ r, p.below? base = some r ∧ r.components = rest := by
  have hsome : (p.below? base).isSome := by
    by_cases hbase : base.components = []
    · rw [below?, if_pos (by simpa using hbase)]
      rfl
    · exact isSome_below? h hbase
  obtain ⟨r, hr⟩ := Option.isSome_iff_exists.mp hsome
  refine ⟨r, hr, ?_⟩
  rw [components_eq_append_of_below? hr, List.append_cancel_left_eq] at h
  exact h

/-- What is left of a path below a base is spelt with parts of the path. -/
theorem exists_ofParts_of_below? {p base r : Path} (h : p.below? base = some r) :
    ∃ absolute parts, r = ofParts absolute parts ∧ ∀ part ∈ parts, part ∈ p.parts := by
  -- whatever leading part the two paths share, the parts come after the steps of the base
  have hrest : ∀ {cs : List Component} (lead : List (List Char)) {parts}, p.parts = lead ++ parts →
      (dropSteps cs parts).map (fun left => ofParts false (inner left)) = some r →
      ∃ absolute parts, r = ofParts absolute parts ∧ ∀ part ∈ parts, part ∈ p.parts := by
    intro cs lead parts hparts hr
    obtain ⟨left, hleft, rfl⟩ := Option.map_eq_some_iff.mp hr
    obtain ⟨-, taken, rfl⟩ := steps_of_dropSteps hleft
    refine ⟨false, inner left, rfl, fun part hpart => ?_⟩
    rw [hparts]
    exact List.mem_append_right _ (List.mem_append_right _ (mem_of_mem_inner hpart))
  rw [below?] at h
  split at h
  · obtain rfl := Option.some.inj h
    obtain ⟨idle, hparts, -⟩ := exists_parts_eq p
    refine ⟨_, _, rfl, fun part hpart => ?_⟩
    rw [hparts]
    exact List.mem_append_left _ hpart
  · split at h
    · exact hrest [] rfl h
    · cases h
    · cases h
    · split at h
      · next parts hparts => exact hrest [['.']] hparts h
      · cases h
    · split at h
      · cases h
      · exact hrest [] rfl h

/-! ## Joining -/

/-- The parts of a path after its leading slash, if it has one. -/
theorem parts_of_toList {p : Path} {cs : List Char}
    (h : p.text.toList = if p.isAbsolute then '/' :: cs else cs) : p.parts = cs.splitOn '/' := by
  rw [Path.parts]
  cases habs : p.isAbsolute with
  | true =>
      rw [habs, if_pos rfl] at h
      simp only [h]
  | false =>
      rw [habs, if_neg (by simp)] at h
      rw [isAbsolute, h] at habs
      rw [h]
      split
      · simp at habs
      · rfl

theorem exists_toList_eq (p : Path) :
    ∃ cs, p.text.toList = if p.isAbsolute then '/' :: cs else cs := by
  cases habs : p.isAbsolute with
  | true =>
      rw [isAbsolute, beq_iff_eq, List.head?_eq_some_iff] at habs
      simpa using habs
  | false => exact ⟨p.text.toList, by simp⟩

theorem mem_intercalate_iff {c : Char} {parts : List (List Char)} (hc : c ≠ '/') :
    c ∈ ['/'].intercalate parts ↔ ∃ part ∈ parts, c ∈ part := by
  induction parts with
  | nil => simp [List.intercalate]
  | cons part parts ih =>
      cases parts with
      | nil => simp
      | cons next parts =>
          rw [List.intercalate_cons_cons, List.mem_append, List.mem_append, ih,
            List.mem_singleton, or_iff_left hc]
          simp

/-- The characters of a path are those of its parts, and slashes. -/
theorem exists_mem_parts_iff {p : Path} {c : Char} (hc : c ≠ '/') :
    (∃ part ∈ p.parts, c ∈ part) ↔ c ∈ p.text.toList := by
  obtain ⟨cs, hcs⟩ := exists_toList_eq p
  rw [parts_of_toList hcs, ← mem_intercalate_iff hc, List.intercalate_splitOn, hcs]
  split
  · rw [List.mem_cons, or_iff_right hc]
  · exact Iff.rfl

theorem mem_ofParts_iff {absolute : Bool} {parts : List (List Char)} {c : Char} (hc : c ≠ '/') :
    c ∈ (ofParts absolute parts).text.toList ↔ ∃ part ∈ parts, c ∈ part := by
  rw [← mem_intercalate_iff hc, ofParts, String.toList_ofList]
  split
  · rw [List.mem_cons, or_iff_right hc]
  · exact Iff.rfl

/-- What is left of a path below a base has no other characters than the path, slashes apart. -/
theorem mem_of_below? {p base r : Path} (h : p.below? base = some r) {c : Char} (hc : c ≠ '/')
    (hmem : c ∈ r.text.toList) : c ∈ p.text.toList := by
  obtain ⟨absolute, parts, rfl, hparts⟩ := exists_ofParts_of_below? h
  obtain ⟨part, hpart, hin⟩ := (mem_ofParts_iff hc).mp hmem
  exact (exists_mem_parts_iff hc).mp ⟨part, hparts part hpart, hin⟩

/-- Without a leading `.` the components of a relative path are its steps. -/
theorem components_of_relative {r : Path} (hrel : r.isAbsolute = false)
    (hhere : .here ∉ r.components) : r.components = steps r.parts := by
  rw [components_eq, hrel] at hhere ⊢
  refine stepsFrom_false_of_ne fun rest hrest => ?_
  rw [hrest] at hhere
  exact hhere (List.mem_cons_self ..)

/-- Only the empty path has no components. -/
theorem components_eq_nil_iff {p : Path} : p.components = [] ↔ p = ⟨""⟩ := by
  constructor
  · intro h
    rw [components_eq] at h
    cases habs : p.isAbsolute with
    | true => simp [stepsFrom, habs] at h
    | false =>
        have hspells := spells p
        rw [habs] at h hspells
        have hparts : p.parts = p.text.toList.splitOn '/' := parts_of_toList (by simp [habs])
        -- the first part is not idle, unless it is empty and all there is
        have hempty : p.parts = [[]] := by
          cases hfirst : p.parts with
          | nil => exact absurd hfirst hspells.ne_nil
          | cons first rest =>
              by_cases hnil : first = []
              · subst hnil
                rw [← hfirst]
                exact hspells.head_ne_nil rfl (by rw [hfirst]; rfl)
              · by_cases hhere : first = ['.']
                · subst hhere
                  simp [hfirst, stepsFrom] at h
                · have hidle : isIdle first = false := by simp [isIdle, hnil, hhere]
                  have hne : ∀ rest', first :: rest ≠ ['.'] :: rest' := by simp [hhere]
                  rw [hfirst, stepsFrom_false_of_ne hne, steps_cons_of_not_idle hidle] at h
                  cases h
        have hjoined : ['/'].intercalate (p.text.toList.splitOn '/') = p.text.toList :=
          List.intercalate_splitOn '/'
        rw [← hparts, hempty] at hjoined
        have htext : p.text = "" := String.toList_inj.mp hjoined.symm
        rw [← htext]
  · rintro rfl
    rfl

section Append

variable {p : Path} {cs : List Char}

/-- More characters after a path that is not empty leave it absolute or relative. -/
theorem isAbsolute_append (h : p.text ≠ "") (more : List Char) :
    (Path.mk (String.ofList (p.text.toList ++ more))).isAbsolute = p.isAbsolute := by
  have hne : p.text.toList ≠ [] := by simpa using h
  cases hcs : p.text.toList with
  | nil => exact absurd hcs hne
  | cons c cs => simp [isAbsolute, hcs]

/-- The components of a path with more characters after it. -/
theorem components_append (h : p.text ≠ "")
    (hcs : p.text.toList = if p.isAbsolute then '/' :: cs else cs) (more : List Char) :
    (Path.mk (String.ofList (p.text.toList ++ more))).components =
      stepsFrom p.isAbsolute ((cs ++ more).splitOn '/') := by
  have htext : (Path.mk (String.ofList (p.text.toList ++ more))).text.toList =
      if (Path.mk (String.ofList (p.text.toList ++ more))).isAbsolute then '/' :: (cs ++ more)
      else cs ++ more := by
    rw [isAbsolute_append h, hcs]
    split <;> simp
  rw [components_eq, isAbsolute_append h, parts_of_toList htext]

/-- What is written after a closing slash adds its steps. -/
theorem components_append_of_getLast? (h : p.text ≠ "")
    (hlast : p.text.toList.getLast? = some '/') (more : List Char) :
    (Path.mk (String.ofList (p.text.toList ++ more))).components =
      p.components ++ steps (more.splitOn '/') := by
  obtain ⟨cs, hcs⟩ := exists_toList_eq p
  rw [components_append h hcs, components_eq p, parts_of_toList hcs]
  rcases List.eq_nil_or_concat cs with rfl | ⟨b, c, hb⟩
  · -- the path is the root
    cases habs : p.isAbsolute with
    | true => rfl
    | false => simp [habs, h] at hcs
  · rw [List.concat_eq_append] at hb
    obtain rfl : c = '/' := by
      rw [hcs, hb] at hlast
      split at hlast
      · rw [← List.cons_append, List.getLast?_concat] at hlast
        exact Option.some.inj hlast
      · rw [List.getLast?_concat] at hlast
        exact Option.some.inj hlast
    have hb' : b.splitOn '/' ≠ [] := List.splitOn_ne_nil _ _
    rw [hb, List.append_assoc, List.singleton_append, List.splitOn_append_cons_self,
      List.splitOn_append_cons_self, stepsFrom_append _ hb', stepsFrom_append _ hb',
      List.splitOn_nil]
    simp [steps, isIdle]

/-- What is written after another slash adds its steps. -/
theorem components_append_slash (h : p.text ≠ "") (more : List Char) :
    (Path.mk (String.ofList (p.text.toList ++ ('/' :: more)))).components =
      p.components ++ steps (more.splitOn '/') := by
  obtain ⟨cs, hcs⟩ := exists_toList_eq p
  rw [components_append h hcs, List.splitOn_append_cons_self, components_eq p,
    parts_of_toList hcs, stepsFrom_append _ (List.splitOn_ne_nil _ _)]

end Append

/-- Joining puts the steps of a relative path after the components of the path before it. -/
theorem components_join_of_ne_empty {p : Path} (h : p.text ≠ "") {r : Path}
    (hrel : r.isAbsolute = false) : (p.join r).components = p.components ++ steps r.parts := by
  have hparts : r.parts = r.text.toList.splitOn '/' := parts_of_toList (by simp [hrel])
  rw [hparts, join, if_neg (by simp [hrel])]
  split
  · next hends =>
      have hlast : p.text.toList.getLast? = some '/' := by simpa [h] using hends
      have htext : Path.mk (p.text ++ r.text) =
          ⟨String.ofList (p.text.toList ++ r.text.toList)⟩ := by
        simp
      rw [htext, components_append_of_getLast? h hlast]
  · have htext : Path.mk (p.text ++ "/" ++ r.text) =
        ⟨String.ofList (p.text.toList ++ ('/' :: r.text.toList))⟩ := by
      simp [← String.toList_inj]
    rw [htext, components_append_slash h]

/-- Joining puts the components of a relative path after those of the path before it. -/
theorem components_join (p : Path) {r : Path} (hrel : r.isAbsolute = false)
    (hhere : .here ∉ r.components) : (p.join r).components = p.components ++ r.components := by
  by_cases hempty : p.text = ""
  · obtain rfl : p = ⟨""⟩ := by rw [← hempty]
    have hnil : (Path.mk "").components = [] := rfl
    rw [hnil, List.nil_append, join, if_neg (by simp [hrel])]
    simp
  · rw [components_join_of_ne_empty hempty hrel, ← components_of_relative hrel hhere]

/-- Joining to an absolute path gives an absolute path. -/
theorem isAbsolute_join {p : Path} (h : p.isAbsolute = true) (r : Path) :
    (p.join r).isAbsolute = true := by
  have hne : p.text ≠ "" := by
    rintro hempty
    simp [isAbsolute, hempty] at h
  rw [join]
  split
  · assumption
  · split
    · have htext : Path.mk (p.text ++ r.text) =
          ⟨String.ofList (p.text.toList ++ r.text.toList)⟩ := by
        simp
      rw [htext, isAbsolute_append hne, h]
    · have htext : Path.mk (p.text ++ "/" ++ r.text) =
          ⟨String.ofList (p.text.toList ++ ('/' :: r.text.toList))⟩ := by
        simp [← String.toList_inj]
      rw [htext, isAbsolute_append hne, h]

end QuietEmit.Path
