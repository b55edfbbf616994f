/-
  QuietEmit.Proofs.FileTree.Writing

  What writing files leaves as it was. Files written below a directory change what is
  below it and otherwise only add the directories that lead to it
  (`ChangedBelow.storeAfter`). Files written anywhere keep the tree well-formed, and no
  directory goes away (`ChangedBelow.of_storeAfter`, where all is below the root).
-/
import QuietEmit.Proofs.FileTree.WellFormed
import QuietEmit.Proofs.Program.Attempts

namespace QuietEmit

namespace FileTree

variable {t t' : FileTree} {loc : Location} {e : Entry}

/-! ## Changes below a directory -/

/-- Only what is below a location changes, and directories are added that lead to it. No directory
goes away. -/
structure ChangedBelow (dir : Location) (t t' : FileTree) : Prop where
  wellFormed : t'.WellFormed
  workingDir : t'.workingDir = t.workingDir
  dirs : ∀ l, t.at? l = some .dir → t'.at? l = some .dir
  elsewhere : ∀ l, ¬ (dir <+: l ∧ l ≠ dir) →
    t'.at? l = t.at? l ∨ l <+: dir ∧ t.at? l = none ∧ t'.at? l = some .dir

namespace ChangedBelow

variable {dir : Location}

theorem refl (wf : t.WellFormed) : ChangedBelow dir t t :=
  ⟨wf, rfl, fun _ h => h, fun _ _ => .inl rfl⟩

theorem trans {t'' : FileTree} (h : ChangedBelow dir t t') (h' : ChangedBelow dir t' t'') :
    ChangedBelow dir t t'' := by
  refine ⟨h'.wellFormed, h'.workingDir.trans h.workingDir, fun l hl => h'.dirs l (h.dirs l hl), ?_⟩
  intro l hl
  obtain hsame | ⟨hbegins, hnone, hdir⟩ := h.elsewhere l hl
  · rw [← hsame]
    exact h'.elsewhere l hl
  · exact .inr ⟨hbegins, hnone, h'.dirs l hdir⟩

/-- An entry below the directory changes nothing else. -/
theorem put_below (wf : t.WellFormed) (h : Named loc) (hbelow : dir <+: loc) (hne : loc ≠ dir)
    (hdir : t.at? loc.dropLast = some .dir) (hkeep : t.at? loc ≠ some .dir) :
    ChangedBelow dir t (t.put loc e) := by
  have hloc : loc ≠ [] := by
    rintro rfl
    exact hne (List.prefix_nil.mp hbelow).symm
  have hother : ∀ l, l ≠ loc → (t.put loc e).at? l = t.at? l := fun l hl => by
    rw [at?_put hloc, if_neg hl]
  refine ⟨wf.put h hloc hdir hkeep, rfl, fun l hl => ?_, fun l hl => .inl (hother l ?_)⟩
  · rwa [hother l fun heq => hkeep (heq ▸ hl)]
  · rintro rfl
    exact hl ⟨hbelow, hne⟩

/-- A new directory that is below the directory or leads to it changes nothing else. -/
theorem put_dir (wf : t.WellFormed) (h : Named loc) (hdir : t.at? loc.dropLast = some .dir)
    (hnone : t.at? loc = none) (hcomparable : dir <+: loc ∨ loc <+: dir) :
    ChangedBelow dir t (t.put loc .dir) := by
  have hloc : loc ≠ [] := by
    rintro rfl
    simp at hnone
  have hkeep : t.at? loc ≠ some .dir := by simp [hnone]
  by_cases hbelow : dir <+: loc ∧ loc ≠ dir
  · exact put_below wf h hbelow.1 hbelow.2 hdir hkeep
  · -- what is not below the directory leads to it
    have hbegins : loc <+: dir := by
      obtain hbase | hbegins := hcomparable
      · obtain rfl : loc = dir := by
          by_contra hne
          exact hbelow ⟨hbase, hne⟩
        exact List.prefix_rfl
      · exact hbegins
    have hother : ∀ l, l ≠ loc → (t.put loc .dir).at? l = t.at? l := fun l hl => by
      rw [at?_put hloc, if_neg hl]
    refine ⟨wf.put h hloc hdir hkeep, rfl, fun l hl => ?_, fun l _ => ?_⟩
    · rwa [hother l fun heq => hkeep (heq ▸ hl)]
    · by_cases hl : l = loc
      · subst hl
        exact .inr ⟨hbegins, hnone, by rw [at?_put hloc, if_pos rfl]⟩
      · exact .inl (hother l hl)

end ChangedBelow

/-! ## Making directories and writing files -/

theorem makeDir_eq_ok {p : Path} (h : t.makeDir p = .ok t') :
    ∃ loc, t.locate p = .ok loc ∧ t.at? loc = none ∧ t' = t.put loc .dir := by
  cases hlocate : t.locate p with
  | error cause => simp [makeDir, hlocate, bind, Except.bind] at h
  | ok loc =>
      refine ⟨loc, rfl, ?_⟩
      cases hat : t.at? loc with
      | some e => simp [makeDir, hlocate, hat, bind, Except.bind, throw, throwThe] at h
      | none => simpa [makeDir, hlocate, hat, bind, Except.bind, pure, Except.pure, eq_comm] using h

theorem writeFile_eq_ok {p : Path} {text : String} (h : t.writeFile p text = .ok t') :
    ∃ loc, t.locate p = .ok loc ∧ t.at? loc ≠ some .dir ∧
      t' = t.put loc (.file text.toUTF8) := by
  cases hlocate : t.locate p with
  | error cause => simp [writeFile, hlocate, bind, Except.bind] at h
  | ok loc =>
      refine ⟨loc, rfl, ?_⟩
      cases hat : t.at? loc with
      | none =>
          simpa [writeFile, hlocate, hat, bind, Except.bind, pure, Except.pure, eq_comm] using h
      | some e =>
          cases e with
          | dir => simp [writeFile, hlocate, hat, bind, Except.bind, throw, throwThe] at h
          | file bytes =>
              simpa [writeFile, hlocate, hat, bind, Except.bind, pure, Except.pure, eq_comm] using h

/-- What each directory that is made keeps, on the way up from a path, making them all keeps. -/
theorem makeDirs_induct (OnWay : Path → Prop) {Keeps : FileTree → Prop}
    (hup : ∀ p, OnWay p → OnWay p.parentOrEmpty)
    (hmake : ∀ t t' p, OnWay p → Keeps t → t.makeDir p = .ok t' → Keeps t') {fuel : Nat} {p : Path}
    (hp : OnWay p) (ht : Keeps t) (hok : t.makeDirs fuel p = .ok t') : Keeps t' := by
  induction fuel generalizing p t' with
  | zero => simp [makeDirs] at hok
  | succ fuel ih =>
      rw [makeDirs] at hok
      split at hok
      · obtain rfl : t = t' := by simpa using hok
        exact ht
      · cases hfirst : t.makeDir p with
        | ok made =>
            obtain rfl : made = t' := by simpa [hfirst] using hok
            exact hmake t made p hp ht hfirst
        | error cause =>
            simp only [hfirst] at hok
            split at hok
            · -- the directories above are made first
              cases habove : t.makeDirs fuel p.parentOrEmpty with
              | error cause => simp [habove, bind, Except.bind] at hok
              | ok next =>
                  have hnext := ih (hup p hp) habove
                  cases hsecond : next.makeDir p with
                  | ok made =>
                      obtain rfl : made = t' := by
                        simpa [habove, hsecond, bind, Except.bind, pure, Except.pure] using hok
                      exact hmake next made p hp hnext hsecond
                  | error cause =>
                      simp only [habove, hsecond, bind, Except.bind] at hok
                      split at hok
                      · obtain rfl : next = t' := by simpa [pure, Except.pure] using hok
                        exact hnext
                      · simp [throw, throwThe, MonadExceptOf.throw] at hok
            · split at hok
              · obtain rfl : t = t' := by simpa using hok
                exact ht
              · simp at hok

/-- After an attempt to write a file the tree is as it was, or as it is with the file. -/
theorem writeText_store (t : FileTree) (o : Output) :
    (FileStore.writeText t o.path o.text).2 = t ∨
      t.writeText o.path o.text = .ok (FileStore.writeText t o.path o.text).2 := by
  cases hwrite : t.writeText o.path o.text with
  | ok written => exact .inr (by simp [FileStore.writeText, hwrite])
  | error e => exact .inl (by simp [FileStore.writeText, hwrite])

/-! ## Writing anywhere -/

namespace ChangedBelow

theorem of_put (wf : t.WellFormed) {p : Path} (hlocate : t.locate p = .ok loc)
    (hkeep : t.at? loc ≠ some .dir) : ChangedBelow [] t (t.put loc e) := by
  obtain ⟨hnamed, hdir⟩ := wf.of_locate hlocate
  have hne : loc ≠ [] := by
    rintro rfl
    simp at hkeep
  exact put_below wf hnamed (List.nil_prefix ..) hne hdir hkeep

theorem of_makeDir (wf : t.WellFormed) {p : Path} (hok : t.makeDir p = .ok t') :
    ChangedBelow [] t t' := by
  obtain ⟨loc, hlocate, hnone, rfl⟩ := makeDir_eq_ok hok
  exact of_put wf hlocate (by simp [hnone])

theorem of_writeFile (wf : t.WellFormed) {p : Path} {text : String}
    (hok : t.writeFile p text = .ok t') : ChangedBelow [] t t' := by
  obtain ⟨loc, hlocate, hkeep, rfl⟩ := writeFile_eq_ok hok
  exact of_put wf hlocate hkeep

/-- Writing a file, whatever its path. -/
theorem of_writeText (wf : t.WellFormed) {p : Path} {text : String}
    (hok : t.writeText p text = .ok t') : ChangedBelow [] t t' := by
  rw [FileTree.writeText] at hok
  cases hparent : p.parent with
  | none => exact of_writeFile wf (by simpa [hparent] using hok)
  | some parent =>
      cases hmade : t.makeDirs (parent.text.length + 2) parent with
      | error cause => simp [hparent, hmade, bind, Except.bind] at hok
      | ok made =>
          have hchanged : ChangedBelow [] t made :=
            makeDirs_induct (fun _ => True) (fun _ _ => trivial)
              (fun _ _ _ _ hnow hmake => hnow.trans (of_makeDir hnow.wellFormed hmake)) trivial
              (refl wf) hmade
          have hwrite : made.writeFile p text = .ok t' := by
            simpa [hparent, hmade, bind, Except.bind] using hok
          exact hchanged.trans (of_writeFile hchanged.wellFormed hwrite)

/-- Writing files, whatever their paths and whatever becomes of each. -/
theorem of_storeAfter (wf : t.WellFormed) (outputs : List Output) :
    ChangedBelow [] t (QuietEmit.storeAfter t outputs) := by
  induction outputs generalizing t with
  | nil => exact refl wf
  | cons o outputs ih =>
      have hfirst : ChangedBelow [] t (FileStore.writeText t o.path o.text).2 := by
        obtain hsame | hok := writeText_store t o
        · rw [hsame]
          exact refl wf
        · exact of_writeText wf hok
      exact hfirst.trans (ih hfirst.wellFormed)

end ChangedBelow

/-! ## Writing below a directory -/

namespace ChangedBelow

variable {dir whole : Location}

theorem makeDir (wf : t.WellFormed) (h : Named loc) (hcomparable : dir <+: loc ∨ loc <+: dir)
    (hok : t.makeDir (pathOf loc) = .ok t') : ChangedBelow dir t t' := by
  obtain ⟨r, hlocate, hnone, rfl⟩ := makeDir_eq_ok hok
  obtain ⟨rfl, hdir⟩ := eq_of_locate h hlocate
  exact put_dir wf h hdir hnone hcomparable

/-- Making the directories that lead to a place below the directory. -/
theorem makeDirs (wf : t.WellFormed) (hwhole : Named whole) (hdir : dir <+: whole) {fuel : Nat}
    (hloc : loc <+: whole) (hok : t.makeDirs fuel (pathOf loc) = .ok t') :
    ChangedBelow dir t t' := by
  -- above the root is the empty path, at which nothing is made
  refine makeDirs_induct (fun p => p = ⟨""⟩ ∨ ∃ loc, loc <+: whole ∧ p = pathOf loc) ?_ ?_
    (.inr ⟨loc, hloc, rfl⟩) (refl wf) hok
  · rintro p (rfl | ⟨loc, hloc, rfl⟩)
    · exact .inl (by decide)
    · rcases List.eq_nil_or_concat loc with rfl | ⟨above, s, rfl⟩
      · exact .inl (by decide)
      · rw [List.concat_eq_append] at hloc ⊢
        have hnamed : Named (above ++ [s]) := fun s hs => hwhole s (hloc.subset hs)
        exact .inr ⟨above, (List.prefix_append above [s]).trans hloc, parentOrEmpty_pathOf hnamed⟩
  · rintro now next p (rfl | ⟨loc, hloc, rfl⟩) hnow hmake
    · obtain ⟨r, hlocate, -⟩ := makeDir_eq_ok hmake
      simp [locate] at hlocate
    · have hnamed : Named loc := fun s hs => hwhole s (hloc.subset hs)
      have hcomparable := List.prefix_or_prefix_of_prefix hdir hloc
      exact hnow.trans (makeDir hnow.wellFormed hnamed hcomparable hmake)

/-- Writing a file below the directory. -/
theorem writeText (wf : t.WellFormed) (hloc : Named loc) (hdir : dir <+: loc) (hne : loc ≠ dir)
    {text : String} (hok : t.writeText (pathOf loc) text = .ok t') : ChangedBelow dir t t' := by
  rcases List.eq_nil_or_concat loc with rfl | ⟨above, s, rfl⟩
  · exact absurd (List.prefix_nil.mp hdir).symm hne
  · rw [List.concat_eq_append] at hloc hdir hne hok
    rw [FileTree.writeText, parent_pathOf hloc] at hok
    cases hmade : t.makeDirs ((pathOf above).text.length + 2) (pathOf above) with
    | error cause => simp [hmade, bind, Except.bind] at hok
    | ok made =>
        have hchanged := makeDirs wf hloc hdir (List.prefix_append above [s]) hmade
        have hwrite : made.writeFile (pathOf (above ++ [s])) text = .ok t' := by
          simpa [hmade, bind, Except.bind] using hok
        obtain ⟨r, hlocate, hkeep, rfl⟩ := writeFile_eq_ok hwrite
        obtain ⟨rfl, hparent⟩ := eq_of_locate hloc hlocate
        -- the file itself is below, whatever directories had to be made for it
        exact hchanged.trans (put_below hchanged.wellFormed hloc hdir hne hparent hkeep)

/-- Writing files below the directory, whatever becomes of each. -/
theorem storeAfter (wf : t.WellFormed) {outputs : List Output}
    (h : ∀ o ∈ outputs, ∃ rest, rest ≠ [] ∧ Named (dir ++ rest) ∧ o.path = pathOf (dir ++ rest)) :
    ChangedBelow dir t (storeAfter t outputs) := by
  induction outputs generalizing t with
  | nil => exact refl wf
  | cons o outputs ih =>
      obtain ⟨⟨rest, hne, hnamed, hpath⟩, houtputs⟩ := List.forall_mem_cons.mp h
      have hfirst : ChangedBelow dir t (FileStore.writeText t o.path o.text).2 := by
        obtain hsame | hok := writeText_store t o
        · rw [hsame]
          exact refl wf
        · rw [hpath] at hok ⊢
          exact writeText wf hnamed (List.prefix_append dir rest) (by simpa using hne) hok
      exact hfirst.trans (ih hfirst.wellFormed houtputs)

end ChangedBelow

/-! ## Reading afterwards -/

/-- What was followed is followed again where no directory has gone. -/
theorem follow_of_dirs (hdirs : ∀ l, t.at? l = some .dir → t'.at? l = some .dir)
    {parts : List (List Char)} {base r : Location} (h : t.follow base parts = .ok r) :
    t'.follow base parts = .ok r := by
  induction parts generalizing base with
  | nil => simpa [follow] using h
  | cons part parts ih =>
      rw [follow] at h ⊢
      split at h
      · simp at h
      · simp at h
      · next hbase =>
          rw [hdirs _ hbase]
          split at h
          · next hidle => simpa [hidle] using ih h
          · next hidle =>
              split at h
              · next hup => simpa [hidle, hup] using ih h
              · next hup => simpa [hidle, hup] using ih h

variable {dir : Location}

/-- Directories can be found as before. -/
theorem ChangedBelow.isDir (h : ChangedBelow dir t t') {p : Path} (hp : t.isDir p = true) :
    t'.isDir p = true := by
  -- the way to a directory leads through directories, all of which are still there
  have hlookup : t.lookup p = .ok .dir := by
    rw [FileTree.isDir] at hp
    split at hp
    · assumption
    · simp at hp
  cases hlocate : t.locate p with
  | error cause => simp [lookup, hlocate, bind, Except.bind] at hlookup
  | ok loc =>
      have hdir : t.at? loc = some .dir := by
        cases hat : t.at? loc with
        | none => simp [lookup, hlocate, hat, bind, Except.bind, throw, throwThe,
            MonadExceptOf.throw] at hlookup
        | some e => simpa [lookup, hlocate, hat, bind, Except.bind, pure, Except.pure] using hlookup
      have hlocate' : t'.locate p = .ok loc := by
        rw [locate] at hlocate ⊢
        rw [h.workingDir]
        split at hlocate
        · simp at hlocate
        · next htext =>
            rw [if_neg htext]
            exact follow_of_dirs h.dirs hlocate
      simp [FileTree.isDir, lookup, hlocate', h.dirs _ hdir, bind, Except.bind, pure, Except.pure]

end FileTree

end QuietEmit
