/-
  QuietEmit.Proofs.Specifier.Search

  What the search of a tree comes to. A search is a fold of verdicts over the
  references from the top down (`search_eq_foldl`); of the verdicts the first
  rejection decides (`foldl_note_of_rejected`), and without one the changes count
  (`foldl_note_of_accepted`). So a whole revision depends on the candidates that
  count alone: `revise_rejects` for the first one that the rule rejects,
  `revise_accepts` when there is none, and both together in
  `revise_by_candidates`.
-/
import QuietEmit.Proofs.Specifier.Candidates

namespace QuietEmit

open Syntax (Form Tree)

/-! ## The rule on a candidate -/

/-- The text that the rule puts in the place of a specifier, if it is another one. -/
def Redirection.change? (redirection : Redirection) (file : Path) (specifier : String) :
    Option String :=
  match redirection.redirect specifier file with
  | .ok (.changed text) => if text = specifier then none else some text
  | _ => none

/-- The rule changes a specifier to another one. -/
theorem Redirection.change?_eq_some_iff {redirection : Redirection} {file : Path}
    {specifier new : String} :
    redirection.change? file specifier = some new ↔
      redirection.redirect specifier file = .ok (.changed new) ∧ new ≠ specifier := by
  rw [change?]
  cases redirection.redirect specifier file with
  | error e => simp
  | ok r =>
      cases r with
      | unchanged => simp
      | changed text =>
          by_cases h : text = specifier
          · simp only [if_pos h, reduceCtorEq, false_iff]
            rintro ⟨heq, hne⟩
            cases heq
            exact hne h
          · simp only [if_neg h, Option.some_inj, Except.ok.injEq, Redirected.changed.injEq]
            exact ⟨fun heq => ⟨heq, heq ▸ h⟩, fun heq => heq.1⟩

/-- The error of the rule, if it rejects a specifier. -/
def Redirection.rejection? (redirection : Redirection) (file : Path) (specifier : String) :
    Option OutsideBase :=
  match redirection.redirect specifier file with
  | .error e => some e
  | .ok _ => none

namespace Candidate

/-- The rule changes the candidate. -/
def changes (redirection : Redirection) (file : Path) (text : List Char) (c : Candidate) : Bool :=
  (redirection.change? file (c.specifier text)).isSome

/-- The replacement for a candidate that the rule changes: kind, place and quote stay. -/
def replacement? (redirection : Redirection) (file : Path) (text : List Char) (c : Candidate) :
    Option Replacement :=
  (redirection.change? file (c.specifier text)).map fun new =>
    ⟨c.reference text, c.carrier, c.span, new, c.quote text⟩

/-- The error for a candidate that the rule rejects. -/
def rejection? (redirection : Redirection) (file : Path) (text : List Char) (c : Candidate) :
    Option Rejection :=
  (redirection.rejection? file (c.specifier text)).map fun e => ⟨file, c.span.start, e⟩

end Candidate

namespace Verdict

/-- The replacement that a verdict asks for. -/
def replacement? : Verdict → Option Replacement
  | .change r => some r
  | _ => none

/-- The error that a verdict is. -/
def rejection? : Verdict → Option Rejection
  | .reject e => some e
  | _ => none

theorem isChange_eq (v : Verdict) : v.isChange = v.replacement?.isSome := by
  cases v <;> rfl

end Verdict

section Verdicts

variable (redirection : Redirection) (file : Path) (text : List Char) (c : Candidate)

theorem replacement?_verdict :
    ((c.reference text).verdict redirection file).replacement? =
      c.replacement? redirection file text := by
  rw [Reference.verdict, Candidate.replacement?, Redirection.change?, Candidate.reference]
  cases redirection.redirect (c.specifier text) file with
  | error e => rfl
  | ok r =>
      cases r with
      | unchanged => rfl
      | changed new => by_cases h : new = c.specifier text <;> simp [h] <;> rfl

theorem rejection?_verdict :
    ((c.reference text).verdict redirection file).rejection? =
      c.rejection? redirection file text := by
  rw [Reference.verdict, Candidate.rejection?, Redirection.rejection?, Candidate.reference]
  cases redirection.redirect (c.specifier text) file with
  | error e => rfl
  | ok r =>
      cases r with
      | unchanged => rfl
      | changed new => by_cases h : new = c.specifier text <;> simp [h] <;> rfl

theorem isChange_verdict :
    ((c.reference text).verdict redirection file).isChange = c.changes redirection file text := by
  rw [Verdict.isChange_eq, replacement?_verdict, Candidate.replacement?, Option.isSome_map,
    Candidate.changes]

end Verdicts

/-! ## A search as a fold -/

namespace Findings

/-- The findings after one more verdict. -/
def note (f : Findings) (v : Verdict) : Findings := (f.add v).2

theorem add_of_error {f : Findings} (h : f.error.isSome) (v : Verdict) : f.add v = (false, f) := by
  simp [add, h]

/-- After an error no verdict counts. -/
theorem foldl_note_of_error {f : Findings} (h : f.error.isSome) (vs : List Verdict) :
    vs.foldl note f = f := by
  induction vs with
  | nil => rfl
  | cons v vs ih => rw [List.foldl_cons, note, add_of_error h, ih]

/-- A verdict changes the reference exactly when it is a change and no error came before. -/
theorem fst_add (f : Findings) (v : Verdict) :
    (f.add v).1 = (f.error.isNone && v.isChange) := by
  cases he : f.error <;> cases v <;> simp [add, he, Verdict.isChange]

/-- Searching trees notes their verdicts one after the other, if searching each of them does. -/
theorem searchAll_eq_foldl (text : List Char) (judge : Reference → Verdict) {ts : List Tree}
    (h : ∀ t ∈ ts, ∀ f, search text judge f t =
      ((references text (fun r => (judge r).isChange) t).map judge).foldl note f)
    (f : Findings) :
    searchAll text judge f ts =
      ((referencesAll text (fun r => (judge r).isChange) ts).map judge).foldl note f := by
  induction ts generalizing f with
  | nil => rfl
  | cons t ts ih =>
      rw [searchAll, referencesAll, List.map_append, List.foldl_append,
        h t List.mem_cons_self, ih fun u hu => h u (List.mem_cons_of_mem t hu)]

/-- Searching a tree notes the verdicts on its references from the top down. -/
theorem search_eq_foldl (text : List Char) (judge : Reference → Verdict) (f : Findings)
    (t : Tree) :
    search text judge f t =
      ((references text (fun r => (judge r).isChange) t).map judge).foldl note f := by
  induction t using Syntax.Tree.induction generalizing f with
  | node form span parts ih =>
      have hparts := searchAll_eq_foldl text judge ih
      rw [search, references]
      cases Reference.ofTree? text (.node form span parts) with
      | none => exact hparts f
      | some r =>
          by_cases he : f.error.isSome
          · -- nothing counts any more, wherever the search goes
            simp only [add_of_error he, hparts, foldl_note_of_error he]
          · have hchange : (f.add (judge r)).1 = (judge r).isChange := by
              simp [fst_add, Option.not_isSome_iff_eq_none.mp he]
            rcases hadd : f.add (judge r) with ⟨changed, f'⟩
            have hnote : f.note (judge r) = f' := by rw [note, hadd]
            rw [hadd] at hchange
            simp only [hadd, ← hchange]
            cases changed with
            | true => simp [hnote]
            | false => simp [hnote, hparts]

/-! ## What the verdicts come to -/

/-- Without an error among the verdicts each change is kept. -/
theorem foldl_note_of_accepted {f : Findings} {vs : List Verdict} (hf : f.error = Option.none)
    (h : ∀ v ∈ vs, v.rejection? = Option.none) :
    vs.foldl note f =
      ⟨(vs.filterMap Verdict.replacement?).reverse ++ f.replacements, Option.none⟩ := by
  induction vs generalizing f with
  | nil => simp [← hf]
  | cons v vs ih =>
      have hvs := fun u hu => h u (List.mem_cons_of_mem v hu)
      have hv := h v List.mem_cons_self
      rw [List.foldl_cons]
      cases v with
      | keep =>
          rw [show f.note .keep = f by simp [note, add, hf], ih hf hvs]
          rfl
      | change r =>
          rw [show f.note (.change r) = { f with replacements := r :: f.replacements } by
            simp [note, add, hf], ih (by exact hf) hvs]
          simp [Verdict.replacement?]
      | reject e => simp [Verdict.rejection?] at hv

/-- The first error among the verdicts stays. -/
theorem foldl_note_of_rejected {f : Findings} {before after : List Verdict} {v : Verdict}
    {e : Rejection} (hf : f.error = Option.none)
    (h : ∀ v ∈ before, v.rejection? = Option.none) (hv : v.rejection? = some e) :
    ((before ++ v :: after).foldl note f).error = some e := by
  obtain rfl : v = .reject e := by
    cases v <;> simp_all [Verdict.rejection?]
  rw [List.foldl_append, foldl_note_of_accepted hf h, List.foldl_cons, note, add]
  exact congrArg Findings.error (foldl_note_of_error rfl after)

end Findings

/-! ## Revisions -/

theorem splice_nil (text : String) : splice text [] = text := by
  rw [splice, substitute?]
  exact String.ofList_toList

namespace Revision

variable (path : Path) (text : String) (replacements : List Replacement)

@[simp] theorem path_ofReplacements : (ofReplacements path text replacements).path = path := by
  rw [ofReplacements]
  split <;> rfl

@[simp] theorem replacements_ofReplacements :
    (ofReplacements path text replacements).replacements = replacements := by
  rw [ofReplacements]
  split
  · next hempty => exact (List.isEmpty_iff.mp hempty).symm
  · rfl

/-- The text after is that with the new literals, also when there are none. -/
@[simp] theorem result_ofReplacements :
    (ofReplacements path text replacements).result = splice text replacements := by
  rw [ofReplacements]
  split
  · next hempty =>
      rw [List.isEmpty_iff.mp hempty, splice_nil]
      rfl
  · rfl

/-- The code is a new text just if something was replaced. -/
theorem isRevised_ofReplacements :
    (ofReplacements path text replacements).isRevised = true ↔ replacements ≠ [] := by
  rw [ofReplacements]
  split
  · next hempty => simp [isRevised, unchanged, List.isEmpty_iff.mp hempty]
  · next hne => simpa [isRevised] using hne

/-- With something to replace the code is a new text, even one that says the same. -/
theorem code_ofReplacements {replacements : List Replacement} (h : replacements ≠ []) :
    (ofReplacements path text replacements).code = .new (splice text replacements) := by
  rw [ofReplacements, if_neg (by simpa using h)]

theorem ofReplacements_nil : ofReplacements path text [] = unchanged path text := rfl

/-- What a pass leaves of a module is the text after, whether that is new or not. -/
theorem change?_ofReplacements :
    (ofReplacements path text replacements).change?.getD text = splice text replacements := by
  rw [ofReplacements]
  split
  · next hempty =>
      rw [List.isEmpty_iff.mp hempty, splice_nil]
      rfl
  · rfl

end Revision

/-- Options under which no rule applies leave every specifier as it is. -/
theorem redirect_of_isInert {redirection : Redirection} (h : redirection.isInert) (s : String)
    (file : OsPath) : redirection.redirect s file = .ok .unchanged := by
  simp only [Redirection.isInert, Bool.and_eq_true, Bool.or_eq_true, AliasTable.isEmpty,
    List.isEmpty_iff, Option.isNone_iff_eq_none] at h
  obtain ⟨⟨halias, hhook⟩, hbase⟩ := h
  rw [Redirection.redirect, AliasTable.answer, halias, Redirection.hookAnswer, hhook]
  rcases hbase with hbase | hproject
  · simp [hbase]
  · cases hb : redirection.baseUrl <;> simp [hproject]

theorem verdict_of_isInert {redirection : Redirection} (h : redirection.isInert) (file : Path)
    (r : Reference) : r.verdict redirection file = .keep := by
  rw [Reference.verdict, redirect_of_isInert h]

/-- The candidates of a module that count for a rule. -/
def Syntax.Tree.counted (redirection : Redirection) (file : Path) (text : List Char)
    (tree : Tree) : List Candidate :=
  tree.exposed (Candidate.changes redirection file text)

/-- The replacements of candidates, in the order of the text. -/
def Candidate.replacements (redirection : Redirection) (file : Path) (text : List Char)
    (cs : List Candidate) : List Replacement :=
  (cs.filterMap (Candidate.replacement? redirection file text)).mergeSort fun r s =>
    r.old.span.start ≤ s.old.span.start

section Revise

variable {redirection : Redirection} {path : Path} {text : String} {tree : Tree}

/-- The verdicts that a search meets are those on the candidates that count. -/
theorem search_eq_counted (h : LiteralsPlaced text.toList tree) :
    Findings.none.search text.toList (Reference.verdict redirection path) tree =
      ((tree.counted redirection path text.toList).map fun c =>
        (c.reference text.toList).verdict redirection path).foldl Findings.note .none := by
  rw [Findings.search_eq_foldl, references_eq_exposed _ h.quoted, List.map_map]
  simp only [isChange_verdict]
  rfl

/-- The first candidate that the rule rejects decides the outcome. -/
theorem revise_rejects (h : LiteralsPlaced text.toList tree) {before after : List Candidate}
    {c : Candidate} {e : Rejection}
    (hcounted : tree.counted redirection path text.toList = before ++ c :: after)
    (hbefore : ∀ b ∈ before, b.rejection? redirection path text.toList = none)
    (hc : c.rejection? redirection path text.toList = some e) :
    revise redirection path text tree = .error e := by
  have hactive : ¬ redirection.isInert := by
    intro hinert
    simp [Candidate.rejection?, Redirection.rejection?, redirect_of_isInert hinert] at hc
  have herror : (Findings.none.search text.toList (Reference.verdict redirection path)
      tree).error = some e := by
    rw [search_eq_counted h, hcounted, List.map_append, List.map_cons]
    refine Findings.foldl_note_of_rejected rfl ?_ ?_
    · intro v hv
      obtain ⟨b, hb, rfl⟩ := List.mem_map.mp hv
      rw [rejection?_verdict, hbefore b hb]
    · rw [rejection?_verdict, hc]
  rw [revise, if_neg hactive, Findings.outcome, herror]
  rfl

/-- Without a rejected candidate the changes that count are the replacements. -/
theorem revise_accepts (h : LiteralsPlaced text.toList tree)
    (hok : ∀ c ∈ tree.counted redirection path text.toList,
      c.rejection? redirection path text.toList = none) :
    revise redirection path text tree =
      .ok (.ofReplacements path text (Candidate.replacements redirection path text.toList
        (tree.counted redirection path text.toList))) := by
  by_cases hinert : redirection.isInert
  · have hnone : Candidate.replacement? redirection path text.toList = fun _ => none := by
      funext c
      simp [Candidate.replacement?, Redirection.change?, redirect_of_isInert hinert]
    rw [revise, if_pos hinert, Candidate.replacements, hnone,
      List.filterMap_eq_nil_iff.mpr fun _ _ => rfl, List.mergeSort_nil,
      Revision.ofReplacements_nil]
  · have hsearch : Findings.none.search text.toList (Reference.verdict redirection path) tree =
        ⟨((tree.counted redirection path text.toList).filterMap
          (Candidate.replacement? redirection path text.toList)).reverse, none⟩ := by
      rw [search_eq_counted h, Findings.foldl_note_of_accepted rfl]
      · simp only [List.filterMap_map, Function.comp_def, replacement?_verdict]
        simp [Findings.none]
      · intro v hv
        obtain ⟨c, hc, rfl⟩ := List.mem_map.mp hv
        rw [rejection?_verdict, hok c hc]
    rw [revise, if_neg hinert, hsearch, Findings.outcome, List.reverse_reverse]
    rfl

/-- A revision that comes out is that of the changes that count, none of them rejected. -/
theorem revise_eq_ok (h : LiteralsPlaced text.toList tree) {rev : Revision}
    (hrev : revise redirection path text tree = .ok rev) :
    (∀ c ∈ tree.counted redirection path text.toList,
        c.rejection? redirection path text.toList = none) ∧
      rev = .ofReplacements path text (Candidate.replacements redirection path text.toList
        (tree.counted redirection path text.toList)) := by
  cases hfirst : (tree.counted redirection path text.toList).findSome?
      (Candidate.rejection? redirection path text.toList) with
  | none =>
      have hok := List.findSome?_eq_none_iff.mp hfirst
      rw [revise_accepts h hok] at hrev
      exact ⟨hok, (Except.ok.inj hrev).symm⟩
  | some e =>
      obtain ⟨before, c, after, hcounted, hc, hbefore⟩ := List.findSome?_eq_some_iff.mp hfirst
      rw [revise_rejects h hcounted hbefore hc] at hrev
      cases hrev

/-- An error is about the first candidate that counts and is rejected. -/
theorem revise_eq_error (h : LiteralsPlaced text.toList tree) {e : Rejection}
    (herror : revise redirection path text tree = .error e) :
    ∃ before c after, tree.counted redirection path text.toList = before ++ c :: after ∧
      (∀ b ∈ before, b.rejection? redirection path text.toList = none) ∧
      c.rejection? redirection path text.toList = some e := by
  cases hfirst : (tree.counted redirection path text.toList).findSome?
      (Candidate.rejection? redirection path text.toList) with
  | none =>
      rw [revise_accepts h (List.findSome?_eq_none_iff.mp hfirst)] at herror
      cases herror
  | some e' =>
      obtain ⟨before, c, after, hcounted, hc, hbefore⟩ := List.findSome?_eq_some_iff.mp hfirst
      rw [revise_rejects h hcounted hbefore hc] at herror
      obtain rfl := Except.error.inj herror
      exact ⟨before, c, after, hcounted, hbefore, hc⟩

end Revise

/-! ## Order of the replacements -/

section Order

variable {redirection : Redirection} {path : Path} {text : List Char} {tree : Tree}

/-- A literal takes at least the two bytes of its quotes. -/
theorem Candidate.IsQuoted.length_le {c : Candidate} (h : c.IsQuoted text) :
    c.span.start + 2 ≤ c.span.stop := by
  obtain ⟨q, body, hs⟩ := h
  obtain ⟨before, after, -, -, hstop⟩ := Text.slice?_eq_some_iff.mp hs
  rw [q.utf8Length_quoted] at hstop
  omega

theorem replacement?_eq_some_iff {c : Candidate} {r : Replacement} :
    c.replacement? redirection path text = some r ↔
      ∃ new, redirection.change? path (c.specifier text) = some new ∧
        r = ⟨c.reference text, c.carrier, c.span, new, c.quote text⟩ := by
  rw [Candidate.replacement?, Option.map_eq_some_iff]
  exact exists_congr fun new => and_congr_right fun _ => eq_comm

/-- The replacements are those of the candidates that count and change. -/
theorem mem_replacements {cs : List Candidate} {r : Replacement} :
    r ∈ Candidate.replacements redirection path text cs ↔
      ∃ c ∈ cs, c.replacement? redirection path text = some r := by
  rw [Candidate.replacements, List.mem_mergeSort, List.mem_filterMap]

/-- Each replacement ends before the next one starts. -/
theorem replacements_pairwise (h : LiteralsPlaced text tree) {cs : List Candidate}
    (hcs : cs.Sublist tree.candidates) :
    (Candidate.replacements redirection path text cs).Pairwise fun r s =>
      r.old.span.stop ≤ s.old.span.start := by
  have hspan : ∀ r ∈ Candidate.replacements redirection path text cs,
      r.old.span.start + 2 ≤ r.old.span.stop := by
    intro r hr
    obtain ⟨c, hc, hcr⟩ := mem_replacements.mp hr
    obtain ⟨new, -, rfl⟩ := replacement?_eq_some_iff.mp hcr
    exact (h.quoted c (hcs.subset hc)).length_le
  have hapart : (Candidate.replacements redirection path text cs).Pairwise fun r s =>
      r.old.span.stop ≤ s.old.span.start ∨ s.old.span.stop ≤ r.old.span.start := by
    refine List.Pairwise.perm ?_ (List.mergeSort_perm _ _).symm Or.symm
    rw [List.pairwise_filterMap]
    refine (h.apart.sublist hcs).imp ?_
    intro c d hcd r hr s hs
    obtain ⟨-, -, rfl⟩ := replacement?_eq_some_iff.mp hr
    obtain ⟨-, -, rfl⟩ := replacement?_eq_some_iff.mp hs
    exact hcd
  have hsorted : (Candidate.replacements redirection path text cs).Pairwise fun r s =>
      r.old.span.start ≤ s.old.span.start := by
    refine (List.pairwise_mergeSort ?_ ?_ _).imp fun hle => of_decide_eq_true hle
    · intro a b c hab hbc
      simp only [decide_eq_true_eq] at hab hbc ⊢
      omega
    · intro a b
      simp only [Bool.or_eq_true, decide_eq_true_eq]
      omega
  refine (hapart.and hsorted).imp_of_mem ?_
  intro r s hr hs hrs
  have h1 := hspan r hr
  have h2 := hspan s hs
  omega

end Order

/-! ## The outcome by the candidates -/

/-- The error of a rejected specifier. -/
theorem Redirection.rejection?_eq_some_iff {redirection : Redirection} {path : Path}
    {specifier : String} {e : OutsideBase} :
    redirection.rejection? path specifier = some e ↔
      redirection.redirect specifier path = .error e := by
  rw [rejection?]
  cases redirection.redirect specifier path <;> simp

/-- The rule either rejects a candidate or not. -/
theorem Candidate.rejection?_eq_none_iff {redirection : Redirection} {path : Path}
    {text : List Char} {c : Candidate} :
    c.rejection? redirection path text = none ↔
      ∃ r, redirection.redirect (c.specifier text) path = .ok r := by
  rw [Candidate.rejection?, Redirection.rejection?]
  cases redirection.redirect (c.specifier text) path <;> simp

/-- Redirecting a module comes to what the candidates that count say. The first of them that the
rule rejects is the error. If there is none, the replacements are exactly the changes among them
in the order of the text, and each keeps the kind, the place and the quote of its candidate. The
code is a new text just if there is one, the text with the new literals, and else the text that was
there. -/
theorem revise_by_candidates (redirection : Redirection) (path : Path) {text : String}
    {tree : Tree} (h : LiteralsPlaced text.toList tree) :
    (∀ before c after e,
      tree.counted redirection path text.toList = before ++ c :: after →
      (∀ b ∈ before, ∃ r, redirection.redirect (b.specifier text.toList) path = .ok r) →
      redirection.redirect (c.specifier text.toList) path = .error e →
      revise redirection path text tree = .error ⟨path, c.span.start, e⟩) ∧
    ((∀ c ∈ tree.counted redirection path text.toList,
        ∃ r, redirection.redirect (c.specifier text.toList) path = .ok r) →
      ∃ rev, revise redirection path text tree = .ok rev ∧
        rev.path = path ∧
        rev.replacements.Perm ((tree.counted redirection path text.toList).filterMap
          (Candidate.replacement? redirection path text.toList)) ∧
        rev.replacements.Pairwise (fun r s => r.old.span.start < s.old.span.start) ∧
        (rev.isRevised ↔ rev.replacements ≠ []) ∧
        (rev.isRevised → rev.code = .new (splice text rev.replacements)) ∧
        (¬ rev.isRevised → rev.code = .same text ∧ rev.result = text)) := by
  constructor
  · intro before c after e hcounted hbefore hc
    refine revise_rejects h hcounted
      (fun b hb => Candidate.rejection?_eq_none_iff.mpr (hbefore b hb)) ?_
    rw [Candidate.rejection?, Redirection.rejection?_eq_some_iff.mpr hc]
    rfl
  · intro hok
    have hsub : (tree.counted redirection path text.toList).Sublist tree.candidates :=
      exposed_sublist_candidates _ tree
    refine ⟨_, revise_accepts h fun c hc => Candidate.rejection?_eq_none_iff.mpr (hok c hc),
      Revision.path_ofReplacements .., ?_, ?_, ?_, ?_, ?_⟩
    · rw [Revision.replacements_ofReplacements]
      exact List.mergeSort_perm _ _
    · rw [Revision.replacements_ofReplacements]
      refine (replacements_pairwise h hsub).imp_of_mem ?_
      intro r s hr hs hrs
      obtain ⟨c, hc, hcr⟩ := mem_replacements.mp hr
      obtain ⟨new, -, rfl⟩ := replacement?_eq_some_iff.mp hcr
      have hlen : c.span.start + 2 ≤ c.span.stop := (h.quoted c (hsub.subset hc)).length_le
      have hle : c.span.stop ≤ s.old.span.start := hrs
      show c.span.start < s.old.span.start
      omega
    · rw [Revision.replacements_ofReplacements]
      exact Revision.isRevised_ofReplacements ..
    · rw [Revision.replacements_ofReplacements, Revision.isRevised_ofReplacements]
      exact Revision.code_ofReplacements path text
    · rw [Revision.isRevised_ofReplacements, ne_eq, not_not]
      intro hnone
      rw [hnone]
      exact ⟨rfl, rfl⟩

/-- A base directory that `./b` does not lie in. -/
def otherBase : Redirection := (Redirection.empty.setBaseUrl (.ofText "/base")).setProject "@p"

/-- A hook that puts a letter before each specifier. -/
def prefixing : Redirection := Redirection.empty.setHook fun specifier _ => some ("x" ++ specifier)

/-- What the hook makes of the outer one of nested calls. -/
def outerReplacement : Replacement :=
  ⟨⟨.dynamicImport, ⟨7, 10⟩, "a", .single⟩, ⟨.dynamicImport, ⟨7, 10⟩, "xa", .single⟩⟩

/-- A hook that answers leaves nothing to reject. -/
theorem redirect_prefixing (specifier : String) (file : OsPath) :
    prefixing.redirect specifier file = .ok (.changed ("x" ++ specifier)) := by
  have hne : ("x" ++ specifier).isEmpty = false := by
    simp [String.isEmpty_eq_false_iff]
  have hhook : prefixing.hookAnswer specifier file = some ("x" ++ specifier) := by
    show Option.filter (fun answer => !answer.isEmpty) (some ("x" ++ specifier)) = _
    rw [Option.filter_some, hne]
    rfl
  rw [Redirection.redirect, hhook]
  rfl

/-- The hook rejects nothing, so that every module is revised. -/
theorem revise_prefixing {path : Path} {text : String} {tree : Tree}
    (h : LiteralsPlaced text.toList tree) :
    revise prefixing path text tree =
      .ok (.ofReplacements path text (Candidate.replacements prefixing path text.toList
        (tree.counted prefixing path text.toList))) :=
  revise_accepts h fun _ _ => Candidate.rejection?_eq_none_iff.mpr ⟨_, redirect_prefixing _ _⟩

/-- In nested calls the inner one is rejected under one rule, and hidden under another. -/
theorem revise_by_candidates_nestedCalls :
    LiteralsPlaced nestedCalls.toList nestedCallsTree ∧
    revise otherBase nestedCallsPath nestedCalls nestedCallsTree =
      .error ⟨nestedCallsPath, 19, "./b", ⟨"/b"⟩, .ofText "/base"⟩ ∧
    ∃ rev, revise prefixing nestedCallsPath nestedCalls nestedCallsTree = .ok rev ∧
      rev.replacements = [outerReplacement] := by
  have h := literalsPlaced_nestedCalls
  refine ⟨h, ?_, ?_⟩
  · have hcounted : nestedCallsTree.counted otherBase nestedCallsPath nestedCalls.toList =
        [outerCall] ++ innerCall :: [] := by
      decide +kernel
    refine (revise_by_candidates otherBase nestedCallsPath h).1 _ _ _ _ hcounted ?_ ?_
    · intro b hb
      rw [List.mem_singleton.mp hb]
      exact Candidate.rejection?_eq_none_iff.mp (by decide +kernel)
    · exact Redirection.rejection?_eq_some_iff.mp (by decide +kernel)
  · obtain ⟨rev, hrev, -, hperm, -⟩ := (revise_by_candidates prefixing nestedCallsPath h).2
      fun c _ => ⟨_, redirect_prefixing _ _⟩
    refine ⟨rev, hrev, List.perm_singleton.mp ?_⟩
    refine hperm.trans (List.Perm.of_eq ?_)
    decide +kernel

end QuietEmit
