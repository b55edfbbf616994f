/-
  QuietEmit.Proofs.Specifier.Splice

  Splicing new literals into a text. `Spliced` says what may happen to a text:
  it is cut into gaps and old pieces, the gaps stay, and each old piece gives way
  to a new one. Putting new texts into spans gives exactly the text that is
  spliced so (`Edit.applyAll?_eq_some_iff`), in order spans it never fails
  (`Edit.exists_spliced`), and it is undone by putting the old pieces back
  (`Edit.Spliced.undo`).

  The replacements of a revision are such edits. `revise_splices` says what its
  text is, in characters and in bytes; `changed_candidate_replaced` which
  candidates have a new literal in it.
-/
import QuietEmit.Proofs.Specifier.Search

namespace QuietEmit

open Syntax (Form Tree)

/-! ## Edits -/

/-- A new text for a span. -/
structure Edit where
  span : Span
  text : List Char
deriving DecidableEq, Repr

namespace Edit

/-- Put the new texts into their spans; `cursor` is the byte offset of `text`. There is no result
if a span is out of reach or splits a character. -/
def applyAll? : List Edit → Nat → List Char → Option (List Char)
  | [], _, text => some text
  | e :: es, cursor, text =>
    if cursor ≤ e.span.start ∧ e.span.start ≤ e.span.stop then do
      let (gap, rest) ← Text.splitBytes? (e.span.start - cursor) text
      let (_, after) ← Text.splitBytes? (e.span.stop - e.span.start) rest
      let tail ← applyAll? es e.span.stop after
      return gap ++ e.text ++ tail
    else none

/-- The second text is the first one, which starts at a byte offset, with new texts in the spans
of the edits and everything between them as it was. -/
inductive Spliced : List Edit → Nat → List Char → List Char → Prop
  | done {cursor : Nat} {rest : List Char} : Spliced [] cursor rest rest
  | step {e : Edit} {es : List Edit} {cursor : Nat} {gap old rest rest' : List Char}
      (hgap : cursor + Text.utf8Length gap = e.span.start)
      (hold : e.span.start + Text.utf8Length old = e.span.stop)
      (hrest : Spliced es e.span.stop rest rest') :
      Spliced (e :: es) cursor (gap ++ old ++ rest) (gap ++ e.text ++ rest')

/-- Edits give a result exactly when they can be spliced, and it is the spliced text. -/
theorem applyAll?_eq_some_iff {es : List Edit} {cursor : Nat} {a b : List Char} :
    applyAll? es cursor a = some b ↔ Spliced es cursor a b := by
  constructor
  · intro h
    induction es generalizing cursor a b with
    | nil =>
        cases h
        exact .done
    | cons e es ih =>
        rw [applyAll?] at h
        by_cases hle : cursor ≤ e.span.start ∧ e.span.start ≤ e.span.stop
        · simp only [if_pos hle, Option.bind_eq_bind, Option.bind_eq_some_iff] at h
          obtain ⟨⟨gap, rest⟩, h1, ⟨old, after⟩, h2, tail, h3, h4⟩ := h
          obtain ⟨rfl, hgap⟩ := Text.splitBytes?_eq_some_iff.mp h1
          obtain ⟨rfl, hold⟩ := Text.splitBytes?_eq_some_iff.mp h2
          obtain rfl : gap ++ e.text ++ tail = b := by simpa using h4
          rw [← List.append_assoc]
          exact .step (by omega) (by omega) (ih h3)
        · simp [hle] at h
  · intro h
    induction h with
    | done => rfl
    | @step e es cursor gap old rest rest' hgap hold _ ih =>
        have h1 : e.span.start - cursor = Text.utf8Length gap := by omega
        have h2 : e.span.stop - e.span.start = Text.utf8Length old := by omega
        rw [applyAll?, if_pos ⟨by omega, by omega⟩, h1, h2, List.append_assoc,
          Text.splitBytes?_append]
        simp [Text.splitBytes?_append, ih]

/-- Edits in order whose spans end at characters of the text can be spliced. -/
theorem exists_spliced {es : List Edit} {text : List Char}
    (hslice : ∀ e ∈ es, (Text.slice? text e.span).isSome)
    (horder : es.Pairwise fun e f => e.span.stop ≤ f.span.start)
    (before rest : List Char) (htext : text = before ++ rest)
    (hcursor : ∀ e ∈ es, Text.utf8Length before ≤ e.span.start) :
    ∃ result, Spliced es (Text.utf8Length before) rest result := by
  induction es generalizing before rest with
  | nil => exact ⟨rest, .done⟩
  | cons e es ih =>
      obtain ⟨old, hold⟩ := Option.isSome_iff_exists.mp (hslice e List.mem_cons_self)
      obtain ⟨a, b, hab, hstart, hstop⟩ := Text.slice?_eq_some_iff.mp hold
      have hle := hcursor e List.mem_cons_self
      have hsplit : before ++ rest = a ++ (old ++ b) := by
        rw [← htext, hab, List.append_assoc]
      obtain ⟨gap, rfl, rfl⟩ := Text.exists_append_of_utf8Length_le hsplit (by omega)
      rw [Text.utf8Length_append] at hstart
      have hlen : Text.utf8Length (before ++ gap ++ old) = e.span.stop := by
        simp only [Text.utf8Length_append]
        omega
      obtain ⟨horder₁, horder₂⟩ := List.pairwise_cons.mp horder
      obtain ⟨result, hresult⟩ := ih (fun f hf => hslice f (List.mem_cons_of_mem e hf)) horder₂
        (before ++ gap ++ old) b (by simp [htext])
        (fun f hf => by rw [hlen]; exact horder₁ f hf)
      rw [hlen] at hresult
      refine ⟨gap ++ e.text ++ result, ?_⟩
      rw [← List.append_assoc]
      exact .step (by omega) (by omega) hresult

/-- Around the span of one edit the earlier and the later ones are spliced on their own. -/
theorem Spliced.split {es₁ es₂ : List Edit} {e : Edit} {cursor : Nat} {a b : List Char}
    (h : Spliced (es₁ ++ e :: es₂) cursor a b) :
    ∃ before old after before' after',
      a = before ++ old ++ after ∧ cursor + Text.utf8Length before = e.span.start ∧
      e.span.start + Text.utf8Length old = e.span.stop ∧ b = before' ++ e.text ++ after' ∧
      Spliced es₁ cursor before before' ∧ Spliced es₂ e.span.stop after after' := by
  induction es₁ generalizing cursor a b with
  | nil =>
      cases h with
      | @step _ _ _ gap old rest rest' hgap hold hrest =>
          exact ⟨gap, old, rest, gap, rest', rfl, hgap, hold, rfl, .done, hrest⟩
  | cons f es₁ ih =>
      cases h with
      | @step _ _ _ gap oldf rest rest' hgap hold hrest =>
          obtain ⟨before, old, after, before', after', rfl, hbefore, hlen, rfl, h₁, h₂⟩ := ih hrest
          refine ⟨gap ++ oldf ++ before, old, after, gap ++ f.text ++ before', after',
            by simp, ?_, hlen, by simp, .step hgap hold h₁, h₂⟩
          simp only [Text.utf8Length_append]
          omega

/-! ## Putting the old texts back -/

/-- The edits that undo edits of a text: in the place of each new text the one that stood in its
span. The cursors are the byte offsets in the text before and after. -/
def undo (text : List Char) : List Edit → Nat → Nat → List Edit
  | [], _, _ => []
  | e :: es, cursor, cursor' =>
    let start := cursor' + (e.span.start - cursor)
    let stop := start + Text.utf8Length e.text
    ⟨⟨start, stop⟩, (Text.slice? text e.span).getD []⟩ :: undo text es e.span.stop stop

/-- What was spliced goes back to what it was. -/
theorem Spliced.undo {es : List Edit} {cursor : Nat} {a b : List Char}
    (h : Spliced es cursor a b) {text : List Char} (before : List Char) (htext : text = before ++ a)
    (hcursor : Text.utf8Length before = cursor) (cursor' : Nat) :
    Spliced (undo text es cursor cursor') cursor' b a := by
  induction h generalizing before cursor' with
  | done => exact .done
  | @step e es cursor gap old rest rest' hgap hold _ ih =>
      have hslice : Text.slice? text e.span = some old := by
        refine Text.slice?_eq_some_iff.mpr ⟨before ++ gap, rest, by simp [htext], ?_, hold⟩
        rw [Text.utf8Length_append]
        omega
      rw [Edit.undo, hslice, Option.getD_some]
      refine .step ?_ rfl (ih (before ++ gap ++ old) (by simp [htext]) ?_ _)
      · show cursor' + Text.utf8Length gap = cursor' + (e.span.start - cursor)
        omega
      · simp only [Text.utf8Length_append]
        omega

/-! ## The same in bytes -/

/-- The bytes with new texts in the spans of the edits; `cursor` is where they start to count. -/
def overwrite (bytes : ByteArray) : List Edit → Nat → ByteArray
  | [], cursor => bytes.extract cursor bytes.size
  | e :: es, cursor =>
    bytes.extract cursor e.span.start ++ (String.ofList e.text).toUTF8 ++
      overwrite bytes es e.span.stop

/-- A spliced text has the bytes of the text before outside the spans. -/
theorem Spliced.utf8Encode_eq {es : List Edit} {cursor : Nat} {a b : List Char}
    (h : Spliced es cursor a b) {text : List Char} (before : List Char) (htext : text = before ++ a)
    (hcursor : Text.utf8Length before = cursor) :
    b.utf8Encode = overwrite text.utf8Encode es cursor := by
  induction h generalizing before with
  | @done cursor rest =>
      have hall := Text.extract_utf8Encode before rest []
      rw [List.append_nil, ← htext, ← Text.utf8Length_append, ← htext, hcursor] at hall
      rw [overwrite, Text.size_utf8Encode, hall]
  | @step e es cursor gap old rest rest' hgap hold _ ih =>
      have hpiece := Text.extract_utf8Encode before gap (old ++ rest)
      rw [← List.append_assoc gap, ← htext, hcursor, hgap] at hpiece
      have hrest := ih (before ++ gap ++ old) (by simp [htext])
        (by simp only [Text.utf8Length_append]; omega)
      rw [overwrite, hpiece, ← hrest, String.toUTF8_eq_toByteArray, String.toByteArray_ofList,
        List.utf8Encode_append, List.utf8Encode_append]

end Edit

/-! ## The text of a revision -/

/-- The edit that a replacement makes. -/
def Replacement.edit (r : Replacement) : Edit := ⟨r.old.span, r.new.literal⟩

theorem substitute?_eq_applyAll? (rs : List Replacement) (cursor : Nat) (text : List Char) :
    substitute? rs cursor text = Edit.applyAll? (rs.map Replacement.edit) cursor text := by
  induction rs generalizing cursor text with
  | nil => rfl
  | cons r rs ih =>
      simp only [substitute?, List.map_cons, Edit.applyAll?, ih]
      rfl

section Revise

variable {redirection : Redirection} {path : Path} {text : String} {tree : Tree} {rev : Revision}

/-- The text of a revision is the splice of its replacements. -/
theorem result_of_revise (h : LiteralsPlaced text.toList tree)
    (hrev : revise redirection path text tree = .ok rev) :
    rev.result = splice text rev.replacements := by
  obtain ⟨-, rfl⟩ := revise_eq_ok h hrev
  rw [Revision.result_ofReplacements, Revision.replacements_ofReplacements]

/-- The replacements of a revision come from candidates that count. -/
theorem mem_replacements_of_revise (h : LiteralsPlaced text.toList tree)
    (hrev : revise redirection path text tree = .ok rev) {r : Replacement} :
    r ∈ rev.replacements ↔ ∃ c ∈ tree.counted redirection path text.toList,
      c.replacement? redirection path text.toList = some r := by
  obtain ⟨-, rfl⟩ := revise_eq_ok h hrev
  rw [Revision.replacements_ofReplacements]
  exact mem_replacements

/-- The span of a replacement is that of a literal of the text. -/
theorem exists_slice?_of_revise (h : LiteralsPlaced text.toList tree)
    (hrev : revise redirection path text tree = .ok rev) {r : Replacement}
    (hr : r ∈ rev.replacements) : ∃ old, Text.slice? text.toList r.old.span = some old := by
  obtain ⟨c, hc, hcr⟩ := (mem_replacements_of_revise h hrev).mp hr
  obtain ⟨new, -, rfl⟩ := replacement?_eq_some_iff.mp hcr
  obtain ⟨q, body, hs⟩ := h.quoted c ((exposed_sublist_candidates _ tree).subset hc)
  exact ⟨_, hs⟩

/-- The replacements of a revision stand in the order of the text and apart from each other. -/
theorem replacements_pairwise_of_revise (h : LiteralsPlaced text.toList tree)
    (hrev : revise redirection path text tree = .ok rev) :
    rev.replacements.Pairwise fun r s => r.old.span.stop ≤ s.old.span.start := by
  obtain ⟨-, rfl⟩ := revise_eq_ok h hrev
  rw [Revision.replacements_ofReplacements]
  exact replacements_pairwise h (exposed_sublist_candidates _ tree)

/-- The new literals are spliced into the text. -/
theorem spliced_of_revise (h : LiteralsPlaced text.toList tree)
    (hrev : revise redirection path text tree = .ok rev) :
    Edit.Spliced (rev.replacements.map Replacement.edit) 0 text.toList rev.result.toList := by
  have hslice : ∀ e ∈ rev.replacements.map Replacement.edit,
      (Text.slice? text.toList e.span).isSome := by
    intro e he
    obtain ⟨r, hr, rfl⟩ := List.mem_map.mp he
    exact Option.isSome_iff_exists.mpr (exists_slice?_of_revise h hrev hr)
  have horder : (rev.replacements.map Replacement.edit).Pairwise
      fun e f => e.span.stop ≤ f.span.start :=
    List.pairwise_map.mpr (replacements_pairwise_of_revise h hrev)
  obtain ⟨result, hresult⟩ :=
    Edit.exists_spliced hslice horder [] text.toList rfl fun e _ => Nat.zero_le _
  have hsub : substitute? rev.replacements 0 text.toList = some result := by
    rw [substitute?_eq_applyAll?]
    exact Edit.applyAll?_eq_some_iff.mpr hresult
  rw [result_of_revise h hrev, splice, hsub]
  simpa using hresult

/-- Redirecting touches nothing but the literals it replaces. Each of them lies between two
positions of the text, and they follow each other, so that cutting never fails; the result is the
text with the new literals in their places and all else as it was, in characters and in bytes; and
putting the old literals back gives the text. -/
theorem revise_splices (h : LiteralsPlaced text.toList tree)
    (hrev : revise redirection path text tree = .ok rev) :
    (∀ r ∈ rev.replacements,
      (⟨r.old.span.start⟩ : String.Pos.Raw).IsValid text ∧
      (⟨r.old.span.stop⟩ : String.Pos.Raw).IsValid text ∧
      r.old.span.start ≤ r.old.span.stop) ∧
    rev.replacements.Pairwise (fun r s => r.old.span.stop ≤ s.old.span.start) ∧
    substitute? rev.replacements 0 text.toList = some rev.result.toList ∧
    Edit.Spliced (rev.replacements.map Replacement.edit) 0 text.toList rev.result.toList ∧
    rev.result.toUTF8 = Edit.overwrite text.toUTF8 (rev.replacements.map Replacement.edit) 0 ∧
    Edit.applyAll? (Edit.undo text.toList (rev.replacements.map Replacement.edit) 0 0) 0
      rev.result.toList = some text.toList := by
  have hspliced := spliced_of_revise h hrev
  refine ⟨?_, replacements_pairwise_of_revise h hrev, ?_, hspliced, ?_, ?_⟩
  · intro r hr
    obtain ⟨old, hold⟩ := exists_slice?_of_revise h hrev hr
    obtain ⟨before, after, htext, hstart, hstop⟩ := Text.slice?_eq_some_iff.mp hold
    have hvalid := Text.isValid_of_append htext
    rw [Text.utf8Length_append, hstart, hstop] at hvalid
    rw [List.append_assoc] at htext
    exact ⟨hstart ▸ Text.isValid_of_append htext, hvalid, by omega⟩
  · rw [substitute?_eq_applyAll?]
    exact Edit.applyAll?_eq_some_iff.mpr hspliced
  · have hbytes := hspliced.utf8Encode_eq [] rfl rfl
    rwa [List.nil_append, String.utf8Encode_toList, String.utf8Encode_toList] at hbytes
  · exact Edit.applyAll?_eq_some_iff.mpr (hspliced.undo [] rfl rfl 0)

end Revise

/-- What the hook makes of nested calls. -/
def nestedRevision : Revision :=
  ⟨nestedCallsPath, .new (splice nestedCalls [outerReplacement]), [outerReplacement]⟩

theorem counted_nestedCalls :
    nestedCallsTree.counted prefixing nestedCallsPath nestedCalls.toList = [outerCall] := by
  decide +kernel

theorem revise_nestedCalls :
    revise prefixing nestedCallsPath nestedCalls nestedCallsTree = .ok nestedRevision := by
  have hreplacements : Candidate.replacements prefixing nestedCallsPath nestedCalls.toList
      [outerCall] = [outerReplacement] := by
    decide +kernel
  rw [revise_prefixing literalsPlaced_nestedCalls, counted_nestedCalls, hreplacements]
  rfl

/-- The literal of the outer call is replaced, and goes back to what it was. -/
theorem revise_splices_nestedCalls :
    nestedRevision.result.toUTF8 = Edit.overwrite nestedCalls.toUTF8 [⟨⟨7, 10⟩, "'xa'".toList⟩] 0 ∧
    Edit.applyAll? [⟨⟨7, 11⟩, "'a'".toList⟩] 0 nestedRevision.result.toList =
      some nestedCalls.toList := by
  have hedits : nestedRevision.replacements.map Replacement.edit =
      [⟨⟨7, 10⟩, "'xa'".toList⟩] := by
    decide +kernel
  have hback : Edit.undo nestedCalls.toList [⟨⟨7, 10⟩, "'xa'".toList⟩] 0 0 =
      [⟨⟨7, 11⟩, "'a'".toList⟩] := by
    decide +kernel
  obtain ⟨-, -, -, -, hbytes, hundo⟩ := revise_splices literalsPlaced_nestedCalls revise_nestedCalls
  rw [hedits] at hbytes hundo
  rw [hback] at hundo
  exact ⟨hbytes, hundo⟩

section Revise

variable {redirection : Redirection} {path : Path} {text : String} {tree : Tree} {rev : Revision}

/-! ## Candidates that are replaced -/

/-- A replacement stands in a revision of a text, and the new literal in the place of the old one;
what stands before and after comes of the replacements before and after. -/
def Revision.Replaces (rev : Revision) (text : String) (r : Replacement) : Prop :=
  ∃ earlier later before old after before' after',
    rev.replacements = earlier ++ r :: later ∧
    text.toList = before ++ old ++ after ∧
    Text.utf8Length before = r.old.span.start ∧
    r.old.span.start + Text.utf8Length old = r.old.span.stop ∧
    rev.result.toList = before' ++ r.new.literal ++ after' ∧
    Edit.Spliced (earlier.map Replacement.edit) 0 before before' ∧
    Edit.Spliced (later.map Replacement.edit) r.old.span.stop after after'

/-- Every replacement of a revision has its literal in the result. -/
theorem replaces_of_mem (h : LiteralsPlaced text.toList tree)
    (hrev : revise redirection path text tree = .ok rev) {r : Replacement}
    (hr : r ∈ rev.replacements) : rev.Replaces text r := by
  obtain ⟨earlier, later, hsplit⟩ := List.append_of_mem hr
  have hspliced := spliced_of_revise h hrev
  rw [hsplit, List.map_append, List.map_cons] at hspliced
  obtain ⟨before, old, after, before', after', hold, hstart, hstop, hnew, h₁, h₂⟩ :=
    hspliced.split
  rw [Nat.zero_add] at hstart
  exact ⟨earlier, later, before, old, after, before', after', hsplit,
    hold, hstart, hstop, hnew, h₁, h₂⟩

/-- A candidate that the rule changes is replaced, and its new literal stands in the result,
unless it lies below another one that changes; then nothing is replaced at its place. -/
theorem changed_candidate_replaced (h : LiteralsPlaced text.toList tree)
    (hrev : revise redirection path text tree = .ok rev) {o : Occurrence}
    (ho : o ∈ tree.occurrences) {c : Candidate} (hc : o.tree.candidate? = some c) {new : String}
    (hnew : redirection.change? path (c.specifier text.toList) = some new) :
    (o.isHidden (Candidate.changes redirection path text.toList) = false →
      rev.Replaces text ⟨c.reference text.toList, (c.reference text.toList).saying new⟩) ∧
    (o.isHidden (Candidate.changes redirection path text.toList) = true →
      ∀ r ∈ rev.replacements, r.old.span ≠ c.span) := by
  constructor
  · intro hvisible
    refine replaces_of_mem h hrev ((mem_replacements_of_revise h hrev).mpr ⟨c, ?_, ?_⟩)
    · exact mem_exposed.mpr ⟨o, ho, hvisible, hc⟩
    · exact replacement?_eq_some_iff.mpr ⟨new, hnew, rfl⟩
  · intro hhidden r hr hspan
    obtain ⟨d, hd, hdr⟩ := (mem_replacements_of_revise h hrev).mp hr
    obtain ⟨o', ho', hvisible, hd'⟩ := mem_exposed.mp hd
    obtain ⟨other, -, rfl⟩ := replacement?_eq_some_iff.mp hdr
    have hne : o ≠ o' := by
      rintro rfl
      simp [hhidden] at hvisible
    have hlen := (h.quoted c (List.mem_filterMap.mpr ⟨o, ho, hc⟩)).length_le
    have hd_span : d.span = c.span := hspan
    -- literals found at two places do not share text, so one span is not that of both
    have hapart := h.apart_of_ne ho ho' hne c hc d hd'
    rw [Candidate.Apart, hd_span] at hapart
    omega

end Revise

/-- Not every candidate that the rule changes is replaced: the inner one of nested calls is not. -/
theorem hidden_candidate_not_replaced :
    ¬ ∀ (redirection : Redirection) (path : Path) (text : String) (rev : Revision),
      reviseText redirection path text = .ok rev →
      ∀ o ∈ (Syntax.Source.read (.ofPath path) text).tree.occurrences,
      ∀ c, o.tree.candidate? = some c →
      ∀ new, redirection.change? path (c.specifier text.toList) = some new →
        ∃ r ∈ rev.replacements, r.old.span = c.span := by
  intro hall
  have hmem : innerCall ∈ nestedCallsTree.candidates := by
    simp [candidates_nestedCalls]
  obtain ⟨o, ho, hc⟩ := List.mem_filterMap.mp hmem
  obtain ⟨r, hr, hspan⟩ := hall prefixing nestedCallsPath nestedCalls nestedRevision
    revise_nestedCalls o ho innerCall hc "x./b" (by decide +kernel)
  rw [nestedRevision, List.mem_singleton] at hr
  rw [hr] at hspan
  exact absurd hspan (by decide)

/-- The outer one of nested calls is replaced, the inner one is hidden. -/
theorem changed_candidate_replaced_nestedCalls :
    nestedRevision.Replaces nestedCalls outerReplacement ∧
    ∀ r ∈ nestedRevision.replacements, r.old.span ≠ innerCall.span := by
  have h := literalsPlaced_nestedCalls
  constructor
  · have hmem : outerCall ∈ nestedCallsTree.counted prefixing nestedCallsPath
        nestedCalls.toList := by
      simp [counted_nestedCalls]
    have hreference : outerCall.reference nestedCalls.toList = outerReplacement.old := by
      decide +kernel
    have hnew : prefixing.change? nestedCallsPath (outerCall.specifier nestedCalls.toList) =
        some "xa" := by
      decide +kernel
    obtain ⟨o, ho, hvisible, hc⟩ := mem_exposed.mp hmem
    have hreplaces := (changed_candidate_replaced h revise_nestedCalls ho hc hnew).1 hvisible
    rwa [hreference] at hreplaces
  · have hmem : innerCall ∈ nestedCallsTree.candidates := by
      simp [candidates_nestedCalls]
    have hnew : prefixing.change? nestedCallsPath (innerCall.specifier nestedCalls.toList) =
        some "x./b" := by
      decide +kernel
    obtain ⟨o, ho, hc⟩ := List.mem_filterMap.mp hmem
    refine (changed_candidate_replaced h revise_nestedCalls ho hc hnew).2 ?_
    cases hhidden : o.isHidden (Candidate.changes prefixing nestedCallsPath nestedCalls.toList) with
    | true => rfl
    | false =>
        -- were it not hidden, it would be among the candidates that count
        have hcounted : innerCall ∈ nestedCallsTree.counted prefixing nestedCallsPath
            nestedCalls.toList := mem_exposed.mpr ⟨o, ho, hhidden, hc⟩
        rw [counted_nestedCalls] at hcounted
        exact absurd hcounted (by decide)

end QuietEmit
