/-
  QuietEmit.Proofs.Project.Override

  What lists of patterns say. The last pattern that matches decides (`wanted_eq`), and
  patterns that match alike can stand for each other (`wanted_congr`). The lines of a project
  that name a location are read as patterns for it: one that leaves out an ordinary name
  matches this name (`applies_of_leaveOut`), and one that takes in a plain name matches
  nothing but this name, or what is below it (`exists_read_plain`,
  `exists_read_plain_below`).
-/
import Mathlib.Data.List.Forall2
import QuietEmit.Proofs.FileTree.Location
import QuietEmit.Proofs.Project.Glob
import QuietEmit.Project.Inputs

namespace QuietEmit

open Glob (bytes isOrdinary isPlain)

/-! ## The last pattern decides -/

/-- Whether a pattern has a say about a path. -/
def OverridePattern.applies (p : OverridePattern) (path : List UInt8) (isDir : Bool) : Bool :=
  (!p.directoriesOnly || isDir) && p.glob.isMatch path

/-- The last pattern that has a say decides. -/
theorem wanted_eq (patterns : List OverridePattern) (path : List UInt8) (isDir : Bool) :
    wanted patterns path isDir =
      ((patterns.reverse.find? (·.applies path isDir)).map (·.leavesOut)).elim
        (if isDir then .undecided else .no) fun leavesOut => if leavesOut then .no else .yes := by
  rw [wanted]
  simp only [OverridePattern.applies]
  split
  · next p hp => rw [hp]; rfl
  · next hnone => rw [hnone]; rfl

/-- A pattern at the end that has a say decides. -/
theorem wanted_concat {p : OverridePattern} {path : List UInt8} {isDir : Bool}
    (h : p.applies path isDir = true) (patterns : List OverridePattern) :
    wanted (patterns ++ [p]) path isDir = if p.leavesOut then .no else .yes := by
  rw [wanted_eq, List.reverse_append, List.reverse_singleton, List.singleton_append,
    List.find?_cons, h]
  rfl

/-- Two patterns say the same about a path. -/
def SayAlike (path : List UInt8) (isDir : Bool) (p q : OverridePattern) : Prop :=
  p.leavesOut = q.leavesOut ∧ p.applies path isDir = q.applies path isDir

theorem wanted_congr {ps qs : List OverridePattern} {path : List UInt8} {isDir : Bool}
    (h : List.Forall₂ (SayAlike path isDir) ps qs) :
    wanted ps path isDir = wanted qs path isDir := by
  have hfind : ∀ {ps qs : List OverridePattern}, List.Forall₂ (SayAlike path isDir) ps qs →
      (ps.find? (·.applies path isDir)).map (·.leavesOut) =
        (qs.find? (·.applies path isDir)).map (·.leavesOut) := by
    intro ps qs h
    induction h with
    | nil => rfl
    | @cons p q ps qs hpq _ ih =>
        obtain ⟨hleaves, happlies⟩ := hpq
        rw [List.find?_cons, List.find?_cons, happlies]
        cases q.applies path isDir <;> simp [ih, hleaves]
  rw [wanted_eq, wanted_eq, hfind (List.forall₂_reverse_iff.mpr h)]

/-! ## Reading lines -/

/-- Texts at the end of which a line loses nothing. -/
structure EndsFirm (text : List Char) : Prop where
  not_slash : text.getLast? ≠ some '/'
  not_blank : ∀ c, text.getLast? = some c → Unicode.isBlank c = false

/-- The glob of a line: two stars for a last step stand for what is in a directory. -/
def globText (text : List Char) : List Char :=
  if ['*', '*', '/'].isPrefixOf text.reverse then text ++ ['/', '*'] else text

theorem exists_eq_of_stars {text : List Char}
    (h : ['*', '*', '/'].isPrefixOf text.reverse = true) :
    ∃ front, text = front ++ ['/', '*', '*'] := by
  obtain ⟨rest, hrest⟩ := List.isPrefixOf_iff_prefix.mp h
  exact ⟨rest.reverse, by rw [← List.reverse_reverse text, ← hrest]; simp⟩

theorem dropRightWhile_of_getLast? {f : Char → Bool} {cs : List Char}
    (h : ∀ c, cs.getLast? = some c → f c = false) : Text.dropRightWhile f cs = cs := by
  rw [Text.dropRightWhile]
  cases hcs : cs.reverse with
  | nil => simpa using hcs.symm
  | cons c rest =>
      have hlast : cs.getLast? = some c := by rw [← List.head?_reverse, hcs]; rfl
      rw [List.dropWhile_cons_of_neg (by simp [h c hlast]), ← hcs, List.reverse_reverse]

/-- The line for a text, to leave out or to take in what it matches. -/
def lineFor (leavesOut : Bool) (text : List Char) : List Char :=
  if leavesOut then '!' :: '/' :: text else '/' :: text

theorem withoutTrailingBlanks_lineFor {text : List Char} (h : EndsFirm text) (hne : text ≠ [])
    (leavesOut : Bool) :
    OverridePattern.withoutTrailingBlanks (lineFor leavesOut text) = lineFor leavesOut text := by
  have hlast : (lineFor leavesOut text).getLast? = text.getLast? := by
    obtain ⟨c, cs, rfl⟩ := List.exists_cons_of_ne_nil hne
    cases leavesOut <;> simp [lineFor]
  rw [OverridePattern.withoutTrailingBlanks]
  split
  · rfl
  · exact dropRightWhile_of_getLast? fun c hc => h.not_blank c (hlast ▸ hc)

/-- A line is read as a glob anchored at the root. -/
theorem read_lineFor {text : List Char} (h : EndsFirm text) (hne : text ≠ []) (leavesOut : Bool) :
    OverridePattern.read (lineFor leavesOut text) =
      match Glob.compile (globText text) with
      | .ok glob => .ok ⟨glob, leavesOut, false⟩
      | .error cause => .error ⟨String.ofList (lineFor leavesOut text), cause⟩ := by
  rw [OverridePattern.read, withoutTrailingBlanks_lineFor h hne]
  have hglob : globText text =
      if ['*', '*', '/'] <+: text.reverse then text ++ ['/', '*'] else text := by simp [globText]
  rw [hglob]
  cases hcompile : Glob.compile
      (if ['*', '*', '/'] <+: text.reverse then text ++ ['/', '*'] else text) <;>
    cases leavesOut <;> simp [lineFor, h.not_slash, hcompile]

/-! ## Patterns for names -/

/-- A pattern that leaves out an ordinary text matches this text, whatever else it matches. -/
theorem applies_of_leaveOut {text : List Char} {p : OverridePattern} (h : EndsFirm text)
    (hne : text ≠ []) (hordinary : ∀ c ∈ text, isOrdinary c = true)
    (hread : OverridePattern.read (lineFor true text) = .ok p) (isDir : Bool) :
    p.leavesOut = true ∧ p.applies (bytes text) isDir = true := by
  rw [read_lineFor h hne] at hread
  split at hread
  · next g hcompile =>
      obtain rfl := Except.ok.inj hread
      refine ⟨rfl, ?_⟩
      have hmatch : g.isMatch (bytes text) = true := by
        rw [globText] at hcompile
        split at hcompile
        · next hstars =>
            obtain ⟨front, rfl⟩ := exists_eq_of_stars hstars
            have hfront : ∀ c ∈ front, isOrdinary c = true := fun c hc =>
              hordinary c (List.mem_append_left _ hc)
            exact Glob.isMatch_self_deep hfront (by simpa using hcompile)
        · exact Glob.isMatch_self hordinary hcompile
      simp [OverridePattern.applies, hmatch]
  · simp at hread

/-- A pattern that takes in a plain text matches nothing else. -/
theorem exists_read_plain {text : List Char} (h : EndsFirm text) (hne : text ≠ [])
    (hplain : ∀ c ∈ text, isPlain c = true) :
    ∃ p, OverridePattern.read (lineFor false text) = .ok p ∧ p.leavesOut = false ∧
      ∀ path isDir, p.applies path isDir = true ↔ path = bytes text := by
  obtain ⟨g, hcompile, hmatch⟩ := Glob.exists_compile_plain hplain
  have hglob : globText text = text := by
    rw [globText, if_neg]
    intro hstars
    obtain ⟨front, rfl⟩ := exists_eq_of_stars hstars
    simpa [isPlain] using hplain '*' (by simp)
  refine ⟨⟨g, false, false⟩, ?_, rfl, fun path isDir => ?_⟩
  · rw [read_lineFor h hne, hglob, hcompile]
  · rw [← hmatch, OverridePattern.applies]
    rfl

/-- A line that takes in what is below a text. -/
theorem read_below (text : List Char) :
    OverridePattern.read (lineFor false (text ++ ['/', '*', '*'])) =
      match Glob.compile (text ++ ['/', '*', '*', '/', '*']) with
      | .ok glob => .ok ⟨glob, false, false⟩
      | .error cause => .error ⟨String.ofList (lineFor false (text ++ ['/', '*', '*'])), cause⟩ := by
  have hfirm : EndsFirm (text ++ ['/', '*', '*']) := by
    refine ⟨by simp, fun c hc => ?_⟩
    obtain rfl : '*' = c := by simpa using hc
    decide
  have hglob : globText (text ++ ['/', '*', '*']) = text ++ ['/', '*', '*', '/', '*'] := by
    simp [globText]
  rw [read_lineFor hfirm (by simp), hglob]

/-- A pattern that takes in what is below an ordinary text matches all that begins with it and a
slash. -/
theorem applies_of_takeBelow {text : List Char} {p : OverridePattern}
    (hordinary : ∀ c ∈ text, isOrdinary c = true)
    (hread : OverridePattern.read (lineFor false (text ++ ['/', '*', '*'])) = .ok p)
    (below : List UInt8) (isDir : Bool) :
    p.applies (bytes (text ++ ['/']) ++ below) isDir = true := by
  rw [read_below] at hread
  split at hread
  · next g hcompile =>
      obtain rfl := Except.ok.inj hread
      have hmatch := Glob.isMatch_below hordinary hcompile below
      rw [OverridePattern.applies, hmatch]
      rfl
  · cases hread

/-- One that takes in what is below a plain text matches nothing else. -/
theorem exists_read_plain_below {text : List Char} (hplain : ∀ c ∈ text, isPlain c = true) :
    ∃ p, OverridePattern.read (lineFor false (text ++ ['/', '*', '*'])) = .ok p ∧
      p.leavesOut = false ∧
      ∀ path isDir, p.applies path isDir = true → bytes text ++ [Glob.slash] <+: path := by
  obtain ⟨g, hcompile, hmatch⟩ := Glob.exists_compile_plain_below hplain
  refine ⟨⟨g, false, false⟩, ?_, rfl, fun path isDir hpath => hmatch path hpath⟩
  rw [read_below, hcompile]

/-- A pattern of two stars for any steps and a star for the last one matches all paths. -/
theorem applies_of_takeAll {p : OverridePattern}
    (hread : OverridePattern.read (lineFor false ['*', '*', '/', '*']) = .ok p)
    (path : List UInt8) (isDir : Bool) : p.applies path isDir = true := by
  have hpattern : OverridePattern.read (lineFor false ['*', '*', '/', '*']) =
      .ok ⟨⟨[[.deepFront, .star]]⟩, false, false⟩ := rfl
  obtain rfl := Except.ok.inj (hpattern.symm.trans hread)
  obtain ⟨last, hlast, hslash⟩ := Glob.exists_lastStep path
  have htakes : Glob.matchesSteps [.deepFront, .star] path = true :=
    Glob.matchesSteps_iff.mpr
      (.step hlast (Glob.leaves_singleton.mpr (Glob.nil_mem_withinStep hslash)))
  simp [OverridePattern.applies, Glob.isMatch, htakes]

end QuietEmit
