/-
  QuietEmit.Proofs.Specifier.Shortcut

  The shortcut for options under which no rule applies. `reviseInFull` searches the
  tree whatever the options are, and is otherwise as `revise`. When every reference
  is kept, a search of any tree ends with what it started from
  (`Findings.search_of_keep`), so that both agree (`revise_eq_reviseInFull`), and
  with such options nothing is found and the splice gives the text back
  (`inert_search_finds_nothing`).
-/
import QuietEmit.Proofs.Specifier.Search

namespace QuietEmit

open Syntax (Tree)

/-- Redirect the specifiers of a module with a search of the tree under all options. -/
def reviseInFull (redirection : Redirection) (path : Path) (text : String) (tree : Tree) :
    Except Rejection Revision :=
  (Findings.none.search text.toList (Reference.verdict redirection path) tree).outcome.map
    (Revision.ofReplacements path text)

/-! ## Searches that keep everything -/

namespace Findings

theorem note_keep (f : Findings) : f.note .keep = f := by
  rw [note, add]
  split <;> rfl

/-- Verdicts that keep their references add nothing. -/
theorem foldl_note_of_keep {vs : List Verdict} (h : ∀ v ∈ vs, v = .keep) (f : Findings) :
    vs.foldl note f = f := by
  induction vs with
  | nil => rfl
  | cons v vs ih =>
      rw [List.foldl_cons, h v List.mem_cons_self, note_keep,
        ih fun u hu => h u (List.mem_cons_of_mem v hu)]

/-- A search that keeps every reference finds nothing more, whatever the tree is and wherever its
references are in the text. -/
theorem search_of_keep {judge : Reference → Verdict} (h : ∀ r, judge r = .keep)
    (text : List Char) (f : Findings) (tree : Tree) : search text judge f tree = f := by
  rw [search_eq_foldl]
  refine foldl_note_of_keep (fun v hv => ?_) f
  obtain ⟨r, -, rfl⟩ := List.mem_map.mp hv
  exact h r

end Findings

/-! ## Options under which no rule applies -/

/-- A search under such options comes to nothing. -/
theorem reviseInFull_of_isInert {redirection : Redirection} (h : redirection.isInert) (path : Path)
    (text : String) (tree : Tree) :
    reviseInFull redirection path text tree = .ok (.unchanged path text) := by
  rw [reviseInFull, Findings.search_of_keep (verdict_of_isInert h path), Findings.outcome,
    Findings.none, List.reverse_nil, List.mergeSort_nil]
  rfl

/-- The shortcut decides nothing: with it and without it the outcome is the same. -/
theorem revise_eq_reviseInFull (redirection : Redirection) (path : Path) (text : String)
    (tree : Tree) :
    revise redirection path text tree = reviseInFull redirection path text tree := by
  rw [revise]
  split
  · next h => exact (reviseInFull_of_isInert h path text tree).symm
  · rfl

/-- Under options for which the shortcut is taken, the rule leaves each specifier of each file as it
is, and a search of any tree for any text finds no replacement and no error, as the shortcut says.
What such a search comes to is no revision, and the splice that it asks for runs through and gives
the text. -/
theorem inert_search_finds_nothing {redirection : Redirection} (h : redirection.isInert) :
    (∀ specifier file, redirection.redirect specifier file = .ok .unchanged) ∧
    ∀ path text tree, ∃ rev,
      reviseInFull redirection path text tree = .ok rev ∧
      revise redirection path text tree = .ok rev ∧
      rev = .unchanged path text ∧ rev.change? = none ∧ rev.result = text ∧
      substitute? rev.replacements 0 text.toList = some text.toList := by
  refine ⟨redirect_of_isInert h, fun path text tree => ?_⟩
  refine ⟨.unchanged path text, ?_, ?_, rfl, rfl, rfl, ?_⟩
  · exact reviseInFull_of_isInert h path text tree
  · rw [revise_eq_reviseInFull]
    exact reviseInFull_of_isInert h path text tree
  · rfl

/-- A base directory that no text stands for leaves nested calls as they are. -/
theorem inert_search_finds_nothing_nestedCalls :
    (Redirection.empty.setBaseUrl (.ofText "/base")).isInert ∧
    reviseInFull (Redirection.empty.setBaseUrl (.ofText "/base")) nestedCallsPath nestedCalls
      nestedCallsTree = .ok (.unchanged nestedCallsPath nestedCalls) := by
  have hinert : (Redirection.empty.setBaseUrl (.ofText "/base")).isInert := rfl
  obtain ⟨rev, hfull, -, rfl, -⟩ :=
    (inert_search_finds_nothing hinert).2 nestedCallsPath nestedCalls nestedCallsTree
  exact ⟨hinert, hfull⟩

end QuietEmit
