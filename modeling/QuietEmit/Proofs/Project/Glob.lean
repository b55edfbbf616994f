/-
  QuietEmit.Proofs.Project.Glob

  Texts read as globs of themselves. A glob without classes, alternatives and escapes
  is read piece by piece, and the pieces read so far can take the characters that they
  were read from (`Reading`); stars that stand for whole steps of a path replace the
  piece before them, and take its characters as well (`Reading.step`). Hence such a
  glob matches its own text (`isMatch_self`).
-/
import QuietEmit.Proofs.Project.Matching

namespace QuietEmit.Glob

/-! ## Reading -/

/-- The pieces read so far, in reverse, take the characters that they were read from. -/
structure Reading (ps : List GlobPiece) (previous : Option Char) (seen : List Char) : Prop where
  takes : Takes ps seen
  previous_eq : previous = seen.getLast?
  /-- Nothing is read from no character only. -/
  seen_eq : ps = [] → seen = []
  /-- After a slash, a step of the path has ended. -/
  ends : previous = some '/' →
    ∃ p before, ps = p :: before ∧ EndsStep p ∧ (p = .deepFront → before = [])

theorem reading_nil : Reading [] none [] :=
  ⟨takes_nil, rfl, fun _ => rfl, fun h => by simp at h⟩

variable {ps : List GlobPiece} {previous : Option Char} {seen : List Char}

/-- One more piece that stands for one character. -/
theorem Reading.push (h : Reading ps previous seen) {p : GlobPiece} {c : Char}
    (hflat : isFlat p = true) (hp : ∀ rest, Leaves (stepsOf p) (bytes [c] ++ rest) rest)
    (hslash : c = '/' → p = .literal '/') : Reading (p :: ps) (some c) (seen ++ [c]) := by
  refine ⟨h.takes.push hflat hp, by simp, by simp, fun hc => ?_⟩
  obtain rfl := hslash (Option.some.inj hc)
  exact ⟨_, ps, rfl, .slash, fun hfront => by simp at hfront⟩

/-- Characters that are not special in globs outside of alternatives. -/
def isOrdinary (c : Char) : Bool := c != '[' && c != '\x7b' && c != '\\'

/-- Two stars and a slash are read into the piece before them. -/
theorem EndsStep.reading_deepen {p : GlobPiece} {before : List GlobPiece} (h : EndsStep p)
    (htakes : Takes (p :: before) seen) (hfront : p = .deepFront → before = []) :
    Reading (deepen p :: before) (some '/') (seen ++ ['*', '*', '/']) := by
  refine ⟨htakes.replace ?_ fun hleaves => ?_, by simp, by simp, fun _ => ?_⟩
  · cases h <;> rfl
  · rw [bytes_of_ascii.2.2.2.2] at hleaves
    exact h.leaves_deepen_stars hleaves
  · refine ⟨_, before, rfl, ?_, fun hdeep => hfront ?_⟩
    · cases h <;> constructor
    · cases h <;> simp_all [deepen]

/-- Two stars at the end are read into the piece before them. -/
theorem EndsStep.takes_back {p : GlobPiece} {before : List GlobPiece} (h : EndsStep p)
    (htakes : Takes (p :: before) seen) (hfront : p ≠ .deepFront) :
    Takes (.deepBack :: before) (seen ++ ['*', '*']) := by
  refine htakes.replace rfl fun hleaves => ?_
  rw [bytes_of_ascii.2.2.2.1] at hleaves
  exact h.leaves_back hfront hleaves

/-- What reading two stars comes to: they are read with the slash after them, or for themselves, or
they end the glob. -/
inductive Deep (seen : List Char) : Groups × List Char → List Char → Prop where
  | step {ps : List GlobPiece} (after : List Char)
      (reading : Reading ps (some '/') (seen ++ ['*', '*', '/'])) :
      Deep seen ([([], ps)], after) ('/' :: after)
  | stars {ps : List GlobPiece} (after : List Char)
      (reading : Reading ps (some '*') (seen ++ ['*', '*'])) : Deep seen ([([], ps)], after) after
  | ending {ps : List GlobPiece} (takes : ps = [.deepFront] ∨ Takes ps (seen ++ ['*', '*'])) :
      Deep seen ([([], ps)], []) []

theorem Reading.deep (h : Reading ps previous seen) (after : List Char) :
    Deep seen (readDeep [([], ps)] previous after) after := by
  have hstars : Deep seen ([([], .star :: .star :: ps)], after) after := by
    have hfirst := h.push (p := .star) (c := '*') rfl leaves_star (by simp)
    have hsecond := hfirst.push (p := .star) (c := '*') rfl leaves_star (by simp)
    rw [List.append_assoc] at hsecond
    exact .stars after hsecond
  unfold readDeep
  cases hps : ps with
  | nil =>
      subst hps
      obtain rfl := h.seen_eq rfl
      simp only [List.isEmpty_nil, if_true]
      split
      · exact .ending (.inl rfl)
      · next after =>
          refine .step after ⟨takes_nil.push rfl fun rest => ?_, rfl, by simp, fun _ => ?_⟩
          · rw [bytes_of_ascii.2.2.2.2]
            exact leaves_singleton.mpr
              (List.mem_cons_of_mem _ (mem_afterSlashes_of_stars (List.mem_cons_self ..)))
          · exact ⟨_, [], rfl, .front, fun _ => rfl⟩
      · exact hstars
  | cons p before =>
      rw [hps] at hstars
      by_cases hprevious : previous = some '/'
      · subst hprevious
        obtain ⟨p', before', hcons, hends, hfront⟩ := h.ends rfl
        rw [hps] at hcons
        obtain ⟨rfl, rfl⟩ := List.cons.inj hcons
        have htakes := hps ▸ h.takes
        simp only [List.isEmpty_cons, Bool.false_eq_true, if_false, bne_self_eq_false, Bool.false_and]
        split
        · next isLast left last before hsuffix hpieces =>
            obtain ⟨rfl, rfl⟩ := List.cons.inj hpieces
            split at hsuffix
            · -- the glob ends here
              obtain ⟨rfl, rfl⟩ := Prod.mk.inj (Option.some.inj hsuffix)
              cases hends with
              | slash => exact .ending (.inr (EndsStep.slash.takes_back htakes (by simp)))
              | inside => exact .ending (.inr (EndsStep.inside.takes_back htakes (by simp)))
              | front =>
                  obtain rfl := hfront rfl
                  exact .ending (.inl rfl)
            · next after =>
              obtain ⟨rfl, rfl⟩ := Prod.mk.inj (Option.some.inj hsuffix)
              have hstep := Deep.step after (hends.reading_deepen htakes hfront)
              cases hends <;> exact hstep
            · simp at hsuffix
        · exact hstars
      · have hne : (previous != some '/') = true := by simpa using hprevious
        simp only [List.isEmpty_cons, hne, List.isEmpty_nil, Bool.true_or, Bool.true_and,
          Bool.false_eq_true, if_false, if_true]
        exact hstars

/-- What reading on from a character comes to: a fault, more pieces from the characters taken, or the
end of the glob. -/
inductive Next (seen : List Char) (fuel : Nat) :
    List Char → Except GlobFault (List GlobPiece) → Prop where
  | fault (text : List Char) (e : GlobFault) : Next seen fuel text (.error e)
  | more {ps : List GlobPiece} (taken after : List Char) (ne_nil : taken ≠ [])
      (slash_last : ∀ a b, taken = a ++ b → a.getLast? = some '/' → b = [])
      (reading : Reading ps taken.getLast? (seen ++ taken)) :
      Next seen fuel (taken ++ after) (readPieces fuel [([], ps)] taken.getLast? after)
  | ending {ps : List GlobPiece} (previous : Option Char)
      (takes : ps = [.deepFront] ∨ Takes ps (seen ++ ['*', '*'])) :
      Next seen fuel ['*', '*'] (readPieces fuel [([], ps)] previous [])

/-- Of stars, with a slash or without one, no more comes after a slash. -/
theorem slash_last_stars {taken : List Char}
    (h : taken = ['*', '*'] ∨ taken = ['*', '*', '/']) :
    ∀ a b, taken = a ++ b → a.getLast? = some '/' → b = [] := by
  intro a b hab ha
  match a with
  | [] => simp at ha
  | [c] => obtain rfl | rfl := h <;> simp_all
  | [c, d] => obtain rfl | rfl := h <;> simp_all
  | c :: d :: e :: a => obtain rfl | rfl := h <;> simp_all

/-- Without what comes after them, the characters taken are left. -/
theorem take_taken (taken after : List Char) :
    (taken ++ after).take ((taken ++ after).length - after.length) = taken := by
  rw [List.length_append, Nat.add_sub_cancel, List.take_left]

/-- A piece read from one character. -/
theorem Reading.next (h : Reading ps previous seen) {p : GlobPiece} {c : Char}
    (hflat : isFlat p = true) (hp : ∀ rest, Leaves (stepsOf p) (bytes [c] ++ rest) rest)
    (hslash : c = '/' → p = .literal '/') (fuel : Nat) (rest : List Char) :
    Next seen fuel (c :: rest) (readPieces fuel (Glob.push p [([], ps)]) (some c) rest) := by
  refine .more [c] rest (by simp) ?_ (h.push hflat hp hslash)
  intro a b hab ha
  obtain ⟨rfl, hb⟩ | ⟨rfl, hb⟩ := List.append_eq_singleton_iff.mp hab.symm
  · simp at ha
  · exact hb

theorem Reading.step (h : Reading ps previous seen) {c : Char} (hc : isOrdinary c = true)
    (fuel : Nat) (rest : List Char) :
    Next seen fuel (c :: rest) (readPieces (fuel + 1) [([], ps)] previous (c :: rest)) := by
  have hordinary : c ≠ '[' ∧ c ≠ '\x7b' ∧ c ≠ '\\' := by
    simpa [isOrdinary, and_assoc] using hc
  have hliteral : ∀ c, Next seen fuel (c :: rest)
      (readPieces fuel (Glob.push (.literal c) [([], ps)]) (some c) rest) := fun c =>
    h.next rfl (leaves_literal c) (fun hc => hc ▸ rfl) fuel rest
  unfold readPieces
  split
  · exact h.next rfl leaves_anyByte (by simp) fuel rest
  · split
    · next after =>
        have hdeep := h.deep after
        generalize readDeep [([], ps)] previous after = result at hdeep
        cases hdeep with
        | @step ps' after reading =>
            have htaken : ('*' :: '/' :: after).take (('*' :: '/' :: after).length - after.length) =
                ['*', '/'] := take_taken ['*', '/'] after
            change Next seen fuel _ (readPieces fuel [([], ps')] (List.take _ _).getLast? after)
            rw [htaken]
            exact .more ['*', '*', '/'] after (by simp) (slash_last_stars (by simp)) reading
        | @stars ps' _ reading =>
            have htaken : ('*' :: after).take (('*' :: after).length - after.length) = ['*'] :=
              take_taken ['*'] after
            change Next seen fuel _ (readPieces fuel [([], ps')] (List.take _ _).getLast? after)
            rw [htaken]
            exact .more ['*', '*'] after (by simp) (slash_last_stars (by simp)) reading
        | ending takes => exact .ending _ takes
    · exact h.next rfl leaves_star (by simp) fuel rest
  · exact absurd rfl hordinary.1
  · exact absurd rfl hordinary.2.1
  · exact .fault _ _
  · exact hliteral ','
  · exact absurd rfl hordinary.2.2
  · exact hliteral _

/-- Reading to the end of the glob. -/
theorem Reading.run (h : Reading ps previous seen) {fuel : Nat} {text : List Char}
    {pieces : List GlobPiece} (hordinary : ∀ c ∈ text, isOrdinary c = true)
    (hfuel : text.length < fuel) (hread : readPieces fuel [([], ps)] previous text = .ok pieces) :
    pieces = [.deepFront] ∨ Takes pieces.reverse (seen ++ text) := by
  have hend : ∀ {fuel ps previous}, 0 < fuel →
      readPieces fuel [([], ps)] previous [] = .ok ps.reverse := by
    intro fuel ps previous hpos
    obtain ⟨fuel, rfl⟩ := Nat.exists_eq_succ_of_ne_zero (Nat.pos_iff_ne_zero.mp hpos)
    rfl
  induction fuel generalizing ps previous seen text with
  | zero => simp at hfuel
  | succ fuel ih =>
      cases text with
      | nil =>
          rw [hend (Nat.succ_pos fuel)] at hread
          obtain rfl := Except.ok.inj hread
          exact .inr (by simpa using h.takes)
      | cons c rest =>
          obtain ⟨hc, -⟩ := List.forall_mem_cons.mp hordinary
          have hnext := h.step hc fuel rest
          generalize readPieces (fuel + 1) [([], ps)] previous (c :: rest) = result at hnext hread
          generalize c :: rest = text at hnext hordinary hfuel
          cases hnext with
          | fault _ e => simp at hread
          | more taken after hne _ reading =>
              rw [List.length_append] at hfuel
              have hpos := List.length_pos_iff.mpr hne
              rw [← List.append_assoc]
              exact ih reading (fun c hc => hordinary c (List.mem_append_right _ hc)) (by omega) hread
          | ending previous takes =>
              have hpos : 0 < fuel := by
                simp only [List.length_cons, List.length_nil] at hfuel
                omega
              rw [hend hpos] at hread
              obtain rfl := Except.ok.inj hread
              obtain rfl | takes := takes
              · exact .inl rfl
              · exact .inr (by simpa using takes)

/-- Reading up to a slash. -/
theorem Reading.through (h : Reading ps previous seen) {fuel : Nat} {text after : List Char}
    {result : Except GlobFault (List GlobPiece)}
    (hordinary : ∀ c ∈ text, isOrdinary c = true) (hslash : text.getLast? = some '/')
    (hfuel : (text ++ after).length < fuel)
    (hread : readPieces fuel [([], ps)] previous (text ++ after) = result) :
    (∃ e, result = .error e) ∨
      ∃ fuel' ps', after.length < fuel' ∧ Reading ps' (some '/') (seen ++ text) ∧
        readPieces fuel' [([], ps')] (some '/') after = result := by
  induction fuel generalizing ps previous seen text with
  | zero => simp at hfuel
  | succ fuel ih =>
      cases text with
      | nil => simp at hslash
      | cons c rest =>
          obtain ⟨hc, -⟩ := List.forall_mem_cons.mp hordinary
          have hnext := h.step hc fuel (rest ++ after)
          rw [← List.cons_append, hread] at hnext
          generalize c :: rest = text at hnext hordinary hfuel hslash
          generalize hwhole : text ++ after = whole at hnext hfuel
          cases hnext with
          | fault _ e => exact .inl ⟨e, rfl⟩
          | @more ps' taken left hne hlast reading =>
              have hpos := List.length_pos_iff.mpr hne
              rw [List.length_append] at hfuel
              -- what was taken does not go beyond the slash
              obtain ⟨beyond, rfl, hafter⟩ | ⟨more, rfl, rfl⟩ := List.append_eq_append_iff.mp hwhole
              · obtain rfl := hlast text beyond rfl hslash
                obtain rfl : after = left := hafter
                rw [List.append_nil] at reading hpos hfuel ⊢
                rw [hslash] at reading ⊢
                exact .inr ⟨fuel, ps', by omega, reading, rfl⟩
              · by_cases hmore : more = []
                · subst hmore
                  rw [List.append_nil] at hslash ⊢
                  rw [List.nil_append] at hfuel ⊢
                  rw [hslash] at reading ⊢
                  exact .inr ⟨fuel, ps', by omega, reading, rfl⟩
                · rw [List.getLast?_append_of_ne_nil _ hmore] at hslash
                  have hih := ih reading (fun c hc => hordinary c (List.mem_append_right _ hc)) hslash
                    (by omega) rfl
                  rwa [List.append_assoc] at hih
          | ending previous takes =>
              -- a text that ends in a slash does not begin these stars
              have hbegins : text <+: ['*', '*'] := ⟨after, hwhole⟩
              have hmem : '/' ∈ ['*', '*'] := hbegins.subset (List.mem_of_getLast? hslash)
              simp at hmem

/-! ## Globs that match themselves -/

theorem compile_of_read {text : List Char} {pieces : List GlobPiece}
    (hread : read text = .ok pieces) (h : pieces ≠ [.deepFront]) :
    Glob.compile text = .ok ⟨expand pieces⟩ := by
  rw [Glob.compile, hread, Except.map]
  split
  · exact absurd rfl h
  · rfl

/-- A glob that was made of pieces without choice matches what these take. -/
theorem isMatch_of_takes {text : List Char} {pieces : List GlobPiece} {g : Glob}
    {seen : List Char} (hread : read text = .ok pieces)
    (htakes : pieces = [.deepFront] ∨ Takes pieces.reverse seen) (h : Glob.compile text = .ok g) :
    g.isMatch (bytes seen) = true := by
  by_cases hdeep : pieces = [.deepFront]
  · subst hdeep
    rw [Glob.compile, hread] at h
    obtain rfl := Except.ok.inj h
    simp [isMatch, matchesSteps, restsAfter]
  · have htakes := htakes.resolve_left hdeep
    have hflat : ∀ p ∈ pieces, isFlat p = true := fun p hp =>
      htakes.flat p (List.mem_reverse.mpr hp)
    rw [compile_of_read hread hdeep] at h
    obtain rfl := Except.ok.inj h
    have hleaves := htakes.leaves []
    rw [List.reverse_reverse, List.append_nil] at hleaves
    exact (isMatch_iff_of_flat hflat _).mpr hleaves

/-- A text without classes, alternatives and escapes is a glob that matches it. -/
theorem isMatch_self {text : List Char} {g : Glob} (hordinary : ∀ c ∈ text, isOrdinary c = true)
    (h : Glob.compile text = .ok g) : g.isMatch (bytes text) = true := by
  cases hread : read text with
  | error e => simp [Glob.compile, hread, Except.map] at h
  | ok pieces =>
      exact isMatch_of_takes hread (reading_nil.run hordinary (Nat.lt_succ_self _) hread) h

/-- Two stars for a step of a path, and a star after them. -/
theorem readPieces_deepStar {p : GlobPiece} (h : EndsStep p) (before : List GlobPiece)
    (fuel : Nat) : readPieces (fuel + 3) [([], p :: before)] (some '/') ['*', '*', '/', '*'] =
      .ok (.star :: deepen p :: before).reverse := by
  cases h <;> rfl

/-- With `/**/*` after it, such a text is a glob that matches all that begins with it and a slash. -/
theorem isMatch_below {text : List Char} {g : Glob}
    (hordinary : ∀ c ∈ text, isOrdinary c = true)
    (h : Glob.compile (text ++ ['/', '*', '*', '/', '*']) = .ok g) (below : List UInt8) :
    g.isMatch (bytes (text ++ ['/']) ++ below) = true := by
  have hsplit : text ++ ['/', '*', '*', '/', '*'] = (text ++ ['/']) ++ ['*', '*', '/', '*'] := by
    simp
  have hslash : ∀ c ∈ text ++ ['/'], isOrdinary c = true := by
    intro c hc
    obtain hc | hc := List.mem_append.mp hc
    · exact hordinary c hc
    · obtain rfl := List.mem_singleton.mp hc
      rfl
  rw [hsplit] at h
  obtain ⟨e, he⟩ | ⟨fuel, ps, hfuel, reading, hread⟩ :=
    reading_nil.through hslash (by simp) (Nat.lt_succ_self _) rfl
  · change read _ = _ at he
    rw [Glob.compile, he] at h
    simp [Except.map] at h
  · obtain ⟨p, before, rfl, hends, -⟩ := reading.ends rfl
    obtain ⟨more, rfl⟩ : ∃ more, fuel = more + 3 := Nat.exists_eq_add_of_le' (by
      simp only [List.length_cons, List.length_nil] at hfuel
      omega)
    rw [readPieces_deepStar hends] at hread
    have hflat : ∀ q ∈ (.star :: deepen p :: before).reverse, isFlat q = true := by
      obtain ⟨-, hbefore⟩ := List.forall_mem_cons.mp reading.takes.flat
      have hdeepen : isFlat (deepen p) = true := by cases hends <;> rfl
      simpa [or_imp, forall_and] using ⟨hbefore, hdeepen, rfl⟩
    have hdeep : (.star :: deepen p :: before).reverse ≠ [.deepFront] := by
      intro heq
      have hlength := congrArg List.length heq
      simp at hlength
    rw [compile_of_read hread.symm hdeep] at h
    obtain rfl := Except.ok.inj h
    rw [isMatch_iff_of_flat hflat]
    -- the deeper piece spans all steps but the last one, which the star takes
    obtain ⟨last, hlast, hnoSlash⟩ := exists_lastStep below
    have hleaves := reading.takes.leaves below
    rw [List.nil_append, List.reverse_cons, List.flatMap_append, leaves_append] at hleaves
    obtain ⟨next, hbefore, hp⟩ := hleaves
    rw [List.reverse_cons, List.reverse_cons, List.flatMap_append, List.flatMap_append, leaves_append]
    refine ⟨last, leaves_append.mpr ⟨next, hbefore, ?_⟩, ?_⟩
    · simpa using hends.leaves_deepen_below (by simpa using hp) hlast
    · simpa [stepsOf] using leaves_singleton.mpr (nil_mem_withinStep hnoSlash)

/-- Such a text that ends in two stars for a step is matched too, when a slash and a star are
added. -/
theorem isMatch_self_deep {text : List Char} {g : Glob}
    (hordinary : ∀ c ∈ text, isOrdinary c = true)
    (h : Glob.compile (text ++ ['/', '*', '*', '/', '*']) = .ok g) :
    g.isMatch (bytes (text ++ ['/', '*', '*'])) = true := by
  have hmatch := isMatch_below hordinary h (bytes ['*', '*'])
  rwa [← bytes_append, List.append_assoc] at hmatch

/-! ## Globs without special characters -/

/-- Characters that stand for themselves. -/
def isPlain (c : Char) : Bool :=
  isOrdinary c && c != '*' && c != '?' && c != '\x7d'

/-- Plain characters are read as literals. -/
theorem readPieces_plain {text : List Char} (h : ∀ c ∈ text, isPlain c = true) (fuel : Nat)
    (ps : List GlobPiece) (previous : Option Char) (after : List Char) :
    readPieces (text.length + fuel) [([], ps)] previous (text ++ after) =
      readPieces fuel [([], (text.map .literal).reverse ++ ps)] (text.getLast?.or previous) after := by
  induction text generalizing ps previous with
  | nil => simp
  | cons c text ih =>
      obtain ⟨hc, htext⟩ := List.forall_mem_cons.mp h
      have hstep : readPieces (text.length + fuel + 1) [([], ps)] previous (c :: (text ++ after)) =
          readPieces (text.length + fuel) [([], .literal c :: ps)] (some c) (text ++ after) := by
        conv_lhs => unfold readPieces
        split <;> first | rfl | simp [isPlain, isOrdinary] at hc
      have hlast : ((c :: text).getLast?.or previous) = text.getLast?.or (some c) := by
        rw [List.getLast?_cons]
        cases text.getLast? <;> rfl
      rw [List.length_cons, Nat.add_right_comm, List.cons_append, hstep, ih htext, hlast]
      simp

theorem flatMap_stepsOf_literal (text : List Char) :
    (text.map GlobPiece.literal).flatMap stepsOf = (bytes text).map .byte := by
  induction text with
  | nil => rfl
  | cons c text ih =>
      rw [List.map_cons, List.flatMap_cons, ih, bytes, bytes, List.flatMap_cons, List.map_append]
      rfl

theorem isFlat_of_mem_literals {text : List Char} {p : GlobPiece}
    (h : p ∈ text.map GlobPiece.literal) : isFlat p = true := by
  obtain ⟨c, -, rfl⟩ := List.mem_map.mp h
  rfl

/-- A plain text is a glob for itself only. -/
theorem exists_compile_plain {text : List Char} (h : ∀ c ∈ text, isPlain c = true) :
    ∃ g, Glob.compile text = .ok g ∧ ∀ path, g.isMatch path = true ↔ path = bytes text := by
  have hread : read text = .ok (text.map .literal) := by
    have hplain := readPieces_plain h 1 [] none []
    rw [List.append_nil] at hplain
    rw [read, hplain]
    simp [readPieces]
  have hdeep : text.map GlobPiece.literal ≠ [.deepFront] := by
    intro heq
    have hmem : GlobPiece.deepFront ∈ text.map GlobPiece.literal := by simp [heq]
    obtain ⟨c, -, hc⟩ := List.mem_map.mp hmem
    simp at hc
  refine ⟨_, compile_of_read hread hdeep, fun path => ?_⟩
  rw [isMatch_iff_of_flat fun p => isFlat_of_mem_literals, flatMap_stepsOf_literal, leaves_bytes,
    List.append_nil]

/-- With `/**/*` after it, a plain text is a glob for paths that begin with it and a slash only. -/
theorem exists_compile_plain_below {text : List Char} (h : ∀ c ∈ text, isPlain c = true) :
    ∃ g, Glob.compile (text ++ ['/', '*', '*', '/', '*']) = .ok g ∧
      ∀ path, g.isMatch path = true → bytes text ++ [slash] <+: path := by
  have hread : read (text ++ ['/', '*', '*', '/', '*']) =
      .ok (text.map .literal ++ [.deepInside, .star]) := by
    have hplain := readPieces_plain h 6 [] none ['/', '*', '*', '/', '*']
    have hends : readPieces 6 [([], (text.map GlobPiece.literal).reverse)]
        (text.getLast?.or none) ['/', '*', '*', '/', '*'] =
          .ok (.star :: deepen (.literal '/') :: (text.map GlobPiece.literal).reverse).reverse :=
      readPieces_deepStar .slash _ 2
    rw [List.append_nil, hends] at hplain
    rw [read, List.length_append]
    exact hplain.trans (by simp [deepen])
  have hflat : ∀ p ∈ text.map GlobPiece.literal ++ [.deepInside, .star], isFlat p = true := by
    intro p hp
    obtain hp | hp := List.mem_append.mp hp
    · exact isFlat_of_mem_literals hp
    · obtain rfl | rfl : p = .deepInside ∨ p = .star := by simpa using hp
      all_goals rfl
  have hdeep : text.map GlobPiece.literal ++ [.deepInside, .star] ≠ [.deepFront] := by
    intro heq
    have hlength := congrArg List.length heq
    simp at hlength
  refine ⟨_, compile_of_read hread hdeep, fun path hpath => ?_⟩
  rw [isMatch_iff_of_flat hflat, List.flatMap_append, flatMap_stepsOf_literal, leaves_append] at hpath
  obtain ⟨next, hnext, _ | ⟨hinside, -⟩⟩ := hpath
  obtain rfl := leaves_bytes.mp hnext
  obtain ⟨below, rfl, -⟩ := mem_restsAfter_inside.mp hinside
  exact ⟨below, by simp⟩

end QuietEmit.Glob
