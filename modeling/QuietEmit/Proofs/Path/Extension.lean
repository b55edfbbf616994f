/-
  QuietEmit.Proofs.Path.Extension

  Changing the extension of a path. The last component gets the new extension
  in place of the old one and nothing else changes (`components_withExtension`).
  So two paths with new extensions are the same exactly when they agree up to
  the extensions they had, and the new ones agree (`same_withExtension_iff`).
-/
import Mathlib.Data.List.ModifyLast
import Mathlib.Data.List.TakeWhile
import QuietEmit.Proofs.Path.Components

namespace QuietEmit.Path

/-! ## The last dot of a name -/

theorem dropWhile_eq_nil_or_cons_dot (cs : List Char) :
    cs.dropWhile (· != '.') = [] ∨ ∃ rest, cs.dropWhile (· != '.') = '.' :: rest := by
  induction cs with
  | nil => exact .inl rfl
  | cons c cs ih =>
      by_cases hc : c = '.'
      · exact .inr ⟨cs, by simp [hc]⟩
      · simpa [List.dropWhile_cons, hc] using ih

/-- A name is split at its last dot, when something stands before it. -/
theorem splitLastDot_eq_some_iff {s a b : String} :
    splitLastDot s = some (a, b) ↔ s = a ++ "." ++ b ∧ a ≠ "" ∧ '.' ∉ b.toList := by
  have hsplit : (s.toList.reverse.takeWhile (· != '.')) ++ (s.toList.reverse.dropWhile (· != '.')) =
      s.toList.reverse := List.takeWhile_append_dropWhile
  constructor
  · intro h
    rw [splitLastDot] at h
    split at h
    · next before hbefore =>
        split at h
        · simp at h
        · next hne =>
            rw [Option.some_inj, Prod.mk.injEq] at h
            obtain ⟨rfl, rfl⟩ := h
            rw [hbefore] at hsplit
            refine ⟨?_, ?_, ?_⟩
            · rw [← String.toList_inj, ← List.reverse_inj]
              simp [hsplit]
            · intro hempty
              simp [← String.toList_inj] at hempty
              simp [hempty] at hne
            · have hall := List.all_takeWhile (l := s.toList.reverse) (p := (· != '.'))
              rw [List.all_eq_true] at hall
              intro hmem
              have := hall '.' (by simpa using hmem)
              simp at this
    · simp at h
  · rintro ⟨rfl, ha, hb⟩
    have hreverse : (a ++ "." ++ b).toList.reverse = b.toList.reverse ++ '.' :: a.toList.reverse := by
      simp
    have hall : ∀ c ∈ b.toList.reverse, (c != '.') = true := by
      intro c hc
      have hc' := List.mem_reverse.mp hc
      simp only [bne_iff_ne, ne_eq]
      rintro rfl
      exact hb hc'
    have hne : a.toList ≠ [] := by simpa using ha
    rw [splitLastDot, hreverse, List.dropWhile_append_of_pos hall, List.takeWhile_append_of_pos hall]
    simp [hne]

/-- What stands before the last dot of a name; the whole name, when nothing does. -/
def stemOf (s : String) : String := ((splitLastDot s).map Prod.fst).getD s

theorem fileStem_eq (p : Path) : p.fileStem = p.fileName.map stemOf := rfl

/-- A name begins with its stem. -/
theorem exists_eq_stemOf_append (s : String) : ∃ rest, s = stemOf s ++ rest := by
  rw [stemOf]
  cases h : splitLastDot s with
  | none => exact ⟨"", by simp⟩
  | some split =>
      obtain ⟨hs, -, -⟩ := splitLastDot_eq_some_iff.mp h
      exact ⟨"." ++ split.2, by simpa [String.append_assoc] using hs⟩

theorem stemOf_ne_empty {s : String} (h : s ≠ "") : stemOf s ≠ "" := by
  rw [stemOf]
  cases hsplit : splitLastDot s with
  | none => simpa using h
  | some split =>
      obtain ⟨-, ha, -⟩ := splitLastDot_eq_some_iff.mp hsplit
      simpa using ha

/-- What stands after the last dot of an extension; all of it, when it has none. -/
def finalPart (ext : String) : String :=
  String.ofList (ext.toList.reverse.takeWhile (· != '.')).reverse

/-- Of an added extension, what stands after the last dot is the extension of the name. -/
theorem splitLastDot_append {stem : String} (h : stem ≠ "") (ext : String) :
    (splitLastDot (stem ++ "." ++ ext)).map Prod.snd = some (finalPart ext) := by
  have hreverse : (stem ++ "." ++ ext).toList.reverse =
      ext.toList.reverse ++ '.' :: stem.toList.reverse := by
    simp
  have hne : stem.toList ≠ [] := by simpa using h
  rw [splitLastDot, hreverse, List.dropWhile_append, List.takeWhile_append, finalPart]
  rcases dropWhile_eq_nil_or_cons_dot ext.toList.reverse with hdrop | ⟨rest, hdrop⟩
  · have hall : ∀ c ∈ ext.toList.reverse, (c != '.') = true := by
      simpa [List.dropWhile_eq_nil_iff] using hdrop
    rw [List.takeWhile_eq_self_iff.mpr hall]
    simp [hdrop, hne]
  · have hlen : (ext.toList.reverse.takeWhile (· != '.')).length ≠ ext.toList.reverse.length := by
      intro hlen
      have := congrArg List.length
        (List.takeWhile_append_dropWhile (p := (· != '.')) (l := ext.toList.reverse))
      rw [List.length_append, hlen, hdrop, List.length_cons] at this
      omega
    rw [if_neg hlen, hdrop]
    simp

/-- Names with extensions added tell stems and extensions apart, where the extensions differ after
their last dots. -/
theorem append_ext_inj {a b e f : String} (h : a ++ "." ++ e = b ++ "." ++ f) (ha : a ≠ "")
    (hb : b ≠ "") (hef : finalPart e = finalPart f → e = f) : a = b ∧ e = f := by
  have hfinal : some (finalPart e) = some (finalPart f) := by
    rw [← splitLastDot_append ha, h, splitLastDot_append hb]
  obtain rfl := hef (Option.some.inj hfinal)
  rw [String.append_assoc, String.append_assoc, String.append_left_inj] at h
  exact ⟨h, rfl⟩

/-! ## Paths with a new extension -/

theorem fileName_ne_empty {p : Path} {s : String} (h : p.fileName = some s) : s ≠ "" := by
  obtain ⟨rest, -, hidle, -⟩ := exists_of_fileName h
  rintro rfl
  simp [isIdle] at hidle

theorem withExtension_of_fileName_eq_none {p : Path} (h : p.fileName = none) (ext : String) :
    p.withExtension ext = p := by
  have hstem : p.fileStem = none := by
    rw [fileStem_eq, h]
    rfl
  rw [withExtension, hstem]

/-- Another last part that is not idle can stand in the place of the one there is. -/
theorem Spells.of_trimmedParts {p : Path} {last new : List Char} {rest : List (List Char)}
    (h : p.trimmedParts = last :: rest) (hnew : new ≠ []) (hslash : '/' ∉ new) :
    Spells p.isAbsolute (rest.reverse ++ [new]) := by
  obtain ⟨idle, hparts, -⟩ := exists_parts_eq p
  rw [h, List.reverse_cons] at hparts
  have hspells := spells p
  refine ⟨by simp, ?_, ?_⟩
  · intro part hpart
    rw [List.mem_append, List.mem_singleton] at hpart
    rcases hpart with hpart | rfl
    · refine hspells.slash_notMem part ?_
      rw [hparts]
      simp [List.mem_reverse.mp hpart]
    · exact hslash
  · intro hrel hhead
    cases hreverse : rest.reverse with
    | nil =>
        rw [hreverse] at hhead
        simp [hnew] at hhead
    | cons first others =>
        rw [hreverse] at hhead hparts
        have hall := hspells.head_ne_nil hrel (by simpa [hparts] using hhead)
        simp [hparts] at hall

/-- A stem with an extension added is neither idle nor `..`, being too long. -/
theorem stemOf_append_ordinary {s ext : String} (hs : s ≠ "") (hext : ext ≠ "") :
    isIdle (stemOf s ++ "." ++ ext).toList = false ∧
      (stemOf s ++ "." ++ ext).toList ≠ ['.', '.'] := by
  have hlength : 3 ≤ (stemOf s ++ "." ++ ext).toList.length := by
    have hstem : 0 < (stemOf s).toList.length :=
      List.length_pos_iff.mpr (by simpa using stemOf_ne_empty hs)
    have hext' : 0 < ext.toList.length := List.length_pos_iff.mpr (by simpa using hext)
    have hdot : ".".toList.length = 1 := rfl
    simp only [String.toList_append, List.length_append]
    omega
  constructor
  · rw [isIdle, Bool.or_eq_false_iff, beq_eq_false_iff_ne, beq_eq_false_iff_ne]
    constructor <;> intro h <;> simp [h] at hlength
  · intro h
    simp [h] at hlength

theorem slash_notMem_stemOf_append {s ext : String} (hs : '/' ∉ s.toList)
    (hext : '/' ∉ ext.toList) : '/' ∉ (stemOf s ++ "." ++ ext).toList := by
  obtain ⟨tail, htail⟩ := exists_eq_stemOf_append s
  rw [htail, String.toList_append, List.mem_append, not_or] at hs
  simp [hs.1, hext]

/-- A new extension is spelt in the last part, which is the file name. -/
theorem exists_withExtension_eq {p : Path} {s ext : String} (hs : p.fileName = some s)
    (hext : ext ≠ "") (hslash : '/' ∉ ext.toList) :
    ∃ rest, p.trimmedParts = s.toList :: rest ∧
      p.components = stepsFrom p.isAbsolute rest.reverse ++ [.name s] ∧
      Spells p.isAbsolute (rest.reverse ++ [(stemOf s ++ "." ++ ext).toList]) ∧
      p.withExtension ext =
        ofParts p.isAbsolute (rest.reverse ++ [(stemOf s ++ "." ++ ext).toList]) := by
  obtain ⟨rest, htrimmed, -, hcomponents⟩ := exists_of_fileName hs
  obtain ⟨hname, -⟩ := stemOf_append_ordinary (fileName_ne_empty hs) hext
  have hnameSlash : '/' ∉ (stemOf s ++ "." ++ ext).toList := by
    obtain ⟨idle, hparts, -⟩ := exists_parts_eq p
    have hmem : s.toList ∈ p.parts := by simp [hparts, htrimmed]
    exact slash_notMem_stemOf_append ((spells p).slash_notMem _ hmem) hslash
  have hne : (stemOf s ++ "." ++ ext).toList ≠ [] := by
    rintro h
    simp [h, isIdle] at hname
  refine ⟨rest, htrimmed, hcomponents, Spells.of_trimmedParts htrimmed hne hnameSlash, ?_⟩
  rw [withExtension, fileStem_eq, hs, htrimmed, Option.map_some]
  simp [hext]

/-- A new extension changes the last component of a path and no other. -/
theorem components_withExtension {p : Path} {stem ext : String} (hstem : p.fileStem = some stem)
    (hext : ext ≠ "") (hslash : '/' ∉ ext.toList) :
    (p.withExtension ext).components =
      p.components.dropLast ++ [.name (stem ++ "." ++ ext)] := by
  rw [fileStem_eq, Option.map_eq_some_iff] at hstem
  obtain ⟨s, hs, rfl⟩ := hstem
  obtain ⟨rest, -, hcomponents, hspells, hpath⟩ := exists_withExtension_eq hs hext hslash
  obtain ⟨hname, hup⟩ := stemOf_append_ordinary (fileName_ne_empty hs) hext
  rw [hpath, components_eq, isAbsolute_ofParts hspells, parts_ofParts hspells,
    stepsFrom_concat _ _ hname, (componentOf_eq_name_iff hname).mpr ⟨rfl, hup⟩, hcomponents,
    List.dropLast_concat]

/-- Nothing is trimmed off a last part that is not idle. -/
theorem trimmedParts_ofParts_concat {absolute : Bool} {above : List (List Char)} {last : List Char}
    (h : Spells absolute (above ++ [last])) (hidle : isIdle last = false) :
    (ofParts absolute (above ++ [last])).trimmedParts = last :: above.reverse := by
  have hne : last ≠ [] := by
    rintro rfl
    simp [isIdle] at hidle
  rw [trimmedParts, parts_ofParts h, List.reverse_append]
  change trimmedParts.trim _ (last :: above.reverse) = _
  cases above.reverse with
  | nil => simp [trimmedParts.trim, hidle, hne]
  | cons part parts => simp [trimmedParts.trim, hidle]

/-- A path stays in its directory when it gets a new extension. -/
theorem parent_withExtension {p : Path} {s ext : String} (hs : p.fileName = some s)
    (hext : ext ≠ "") (hslash : '/' ∉ ext.toList) : (p.withExtension ext).parent = p.parent := by
  obtain ⟨rest, htrimmed, -, hspells, hpath⟩ := exists_withExtension_eq hs hext hslash
  obtain ⟨hidle, -⟩ := stemOf_append_ordinary (fileName_ne_empty hs) hext
  have hnew : (p.withExtension ext).trimmedParts = (stemOf s ++ "." ++ ext).toList :: rest := by
    rw [hpath, trimmedParts_ofParts_concat hspells hidle, List.reverse_reverse]
  have habs : (p.withExtension ext).isAbsolute = p.isAbsolute := by
    rw [hpath, isAbsolute_ofParts hspells]
  rw [parent, parent, hnew, htrimmed, habs]

theorem same_iff {p q : Path} : p.same q = true ↔ p.components = q.components := by
  rw [same, beq_iff_eq]

theorem fileName_eq_some_iff {p : Path} {s : String} :
    p.fileName = some s ↔ ∃ above, p.components = above ++ [.name s] := by
  rw [← List.getLast?_eq_some_iff, fileName]
  split
  · next t ht => simp [ht]
  · next h =>
      simp only [reduceCtorEq, false_iff]
      exact h s

theorem fileName_of_same {p q : Path} (h : p.same q = true) : p.fileName = q.fileName := by
  rw [same_iff] at h
  rw [fileName, fileName, h]

theorem extension_of_same {p q : Path} (h : p.same q = true) : p.extension = q.extension := by
  rw [extension, extension, fileName_of_same h]

theorem exists_fileStem {p : Path} (h : p.fileName.isSome = true) : ∃ stem, p.fileStem = some stem := by
  obtain ⟨name, hname⟩ := Option.isSome_iff_exists.mp h
  exact ⟨stemOf name, by rw [fileStem_eq, hname]; rfl⟩

theorem fileName_withExtension {p : Path} {stem ext : String} (hstem : p.fileStem = some stem)
    (hext : ext ≠ "") (hslash : '/' ∉ ext.toList) :
    (p.withExtension ext).fileName = some (stem ++ "." ++ ext) :=
  fileName_eq_some_iff.mpr ⟨_, components_withExtension hstem hext hslash⟩

/-- What stands after the last dot of a new extension is the extension. -/
theorem extension_withExtension {p : Path} {stem ext : String} (hstem : p.fileStem = some stem)
    (hext : ext ≠ "") (hslash : '/' ∉ ext.toList) :
    (p.withExtension ext).extension = some (finalPart ext) := by
  rw [extension, fileName_withExtension hstem hext hslash, Option.bind_some]
  rw [fileStem_eq, Option.map_eq_some_iff] at hstem
  obtain ⟨s, hs, rfl⟩ := hstem
  exact splitLastDot_append (stemOf_ne_empty (fileName_ne_empty hs)) ext

/-! ## Paths up to their extensions -/

/-- The component without an extension, if it is a name. -/
def bare : Component → Component
  | .name s => .name (stemOf s)
  | c => c

/-- The components of a path, the last one without its extension. -/
def stemmed (p : Path) : List Component := p.components.modifyLast bare

theorem stemmed_of_fileName {p : Path} {s : String} (h : p.fileName = some s) :
    p.stemmed = p.components.dropLast ++ [.name (stemOf s)] := by
  obtain ⟨above, hcomponents⟩ := fileName_eq_some_iff.mp h
  rw [stemmed, hcomponents, List.modifyLast_concat, List.dropLast_concat]
  rfl

/-- Without a file name nothing is taken off. -/
theorem stemmed_of_fileName_eq_none {p : Path} (h : p.fileName = none) :
    p.stemmed = p.components := by
  rw [stemmed]
  rcases List.eq_nil_or_concat p.components with hnil | ⟨above, last, hconcat⟩
  · rw [hnil]
    rfl
  · rw [List.concat_eq_append] at hconcat
    rw [hconcat, List.modifyLast_concat]
    cases last with
    | name s =>
        have hs := fileName_eq_some_iff.mpr ⟨above, hconcat⟩
        simp [h] at hs
    | _ => rfl

/-- New extensions make the same path of two exactly where these agree up to the old ones, and the
new ones agree if they show. -/
theorem same_withExtension_iff {p q : Path} {e f : String} (he : e ≠ "") (hf : f ≠ "")
    (heslash : '/' ∉ e.toList) (hfslash : '/' ∉ f.toList) (hef : finalPart e = finalPart f → e = f) :
    (p.withExtension e).same (q.withExtension f) = true ↔
      p.stemmed = q.stemmed ∧ (p.fileName.isSome = true → e = f) := by
  rw [same_iff]
  -- a path without a file name keeps its components, and these do not end in a name
  cases hp : p.fileName with
  | none =>
      rw [withExtension_of_fileName_eq_none hp, stemmed_of_fileName_eq_none hp]
      cases hq : q.fileName with
      | none =>
          rw [withExtension_of_fileName_eq_none hq, stemmed_of_fileName_eq_none hq]
          simp
      | some t =>
          have hne (t' : String) : p.components ≠ q.components.dropLast ++ [.name t'] := by
            intro h
            simp [fileName_eq_some_iff.mpr ⟨_, h⟩] at hp
          rw [components_withExtension (by rw [fileStem_eq, hq]; rfl) hf hfslash,
            stemmed_of_fileName hq]
          simp [hne]
  | some s =>
      rw [components_withExtension (by rw [fileStem_eq, hp]; rfl) he heslash, stemmed_of_fileName hp]
      cases hq : q.fileName with
      | none =>
          have hne (s' : String) : p.components.dropLast ++ [.name s'] ≠ q.components := by
            intro h
            simp [fileName_eq_some_iff.mpr ⟨_, h.symm⟩] at hq
          rw [withExtension_of_fileName_eq_none hq, stemmed_of_fileName_eq_none hq]
          simp [hne]
      | some t =>
          rw [components_withExtension (by rw [fileStem_eq, hq]; rfl) hf hfslash,
            stemmed_of_fileName hq, List.append_singleton_inj, List.append_singleton_inj,
            Component.name.injEq, Component.name.injEq]
          constructor
          · rintro ⟨habove, hname⟩
            obtain ⟨hstem, rfl⟩ := append_ext_inj hname (stemOf_ne_empty (fileName_ne_empty hp))
              (stemOf_ne_empty (fileName_ne_empty hq)) hef
            exact ⟨⟨habove, hstem⟩, fun _ => rfl⟩
          · rintro ⟨⟨habove, hstem⟩, hext⟩
            exact ⟨habove, by rw [hstem, hext rfl]⟩

end QuietEmit.Path
