/-
  QuietEmit.Proofs.Specifier.Relocation

  Where things stand after new texts were spliced into a text. A position moves by
  what the edits before it add and take away (`Edit.moved`), and keeps its place
  among the others (`Edit.moved_mono`). At the span of an edit stands its text
  (`Edit.Spliced.standsAt_new`), and whatever shares nothing with the edits stands
  unchanged where its span has moved (`Edit.Spliced.standsAt_moved`).

  Both texts are followed from a pair of offsets on, as a splice goes on behind an
  edit with the rest of each.

  `Tree.edited` is what a parser is taken to make of such a text: each tree stands
  where its span has moved, a string in the span of an edit says what the new literal
  says, and nothing else changes. The candidates of that tree are those of the tree
  before, each edited in the same way (`Syntax.Tree.candidates_edited`).
-/
import QuietEmit.Proofs.Specifier.Splice
import QuietEmit.Syntax.Lexer

namespace QuietEmit

/-! ## Pieces at spans -/

/-- A piece of a text, which starts at a byte offset, stands at a span. -/
def Text.StandsAt (offset : Nat) (text : List Char) (span : Span) (piece : List Char) : Prop :=
  ∃ before after, text = before ++ piece ++ after ∧
    offset + utf8Length before = span.start ∧ span.start + utf8Length piece = span.stop

namespace Text.StandsAt

variable {offset : Nat} {before text after piece : List Char} {span : Span}

/-- What stands in the rest of a text stands in the whole of it. -/
theorem append_left (h : StandsAt (offset + utf8Length before) text span piece) :
    StandsAt offset (before ++ text) span piece := by
  obtain ⟨between, behind, rfl, hstart, hstop⟩ := h
  refine ⟨before ++ between, behind, by simp, ?_, hstop⟩
  rw [utf8Length_append]
  omega

/-- A piece that starts behind the beginning of a text stands in the rest of it. -/
theorem of_append_left (h : StandsAt offset (before ++ text) span piece)
    (hle : offset + utf8Length before ≤ span.start) :
    StandsAt (offset + utf8Length before) text span piece := by
  obtain ⟨front, behind, hsplit, hstart, hstop⟩ := h
  rw [List.append_assoc front] at hsplit
  obtain ⟨more, rfl, rfl⟩ := exists_append_of_utf8Length_le hsplit (by omega)
  rw [utf8Length_append] at hstart
  exact ⟨more, behind, by simp, by omega, hstop⟩

/-- A piece that ends before the rest of a text stands before it, whatever the rest is. -/
theorem of_append_right (h : StandsAt offset (text ++ after) span piece)
    (hle : span.stop ≤ offset + utf8Length text) (other : List Char) :
    StandsAt offset (text ++ other) span piece := by
  obtain ⟨front, behind, hsplit, hstart, hstop⟩ := h
  obtain ⟨more, rfl, -⟩ := exists_append_of_utf8Length_le hsplit.symm
    (by rw [utf8Length_append]; omega)
  exact ⟨front, more ++ other, by simp, hstart, hstop⟩

/-- Offsets count from where the text starts. -/
theorem from_offset (h : StandsAt offset text span piece) (offset' : Nat) :
    StandsAt offset' text ⟨offset' + (span.start - offset), offset' + (span.stop - offset)⟩
      piece := by
  obtain ⟨front, behind, rfl, hstart, hstop⟩ := h
  refine ⟨front, behind, rfl, ?_, ?_⟩
  · show offset' + utf8Length front = offset' + (span.start - offset)
    omega
  · show offset' + (span.start - offset) + utf8Length piece = offset' + (span.stop - offset)
    omega

end Text.StandsAt

/-- The characters of a span are the piece that stands there. -/
theorem Text.slice?_eq_some_iff_standsAt {text piece : List Char} {span : Span} :
    slice? text span = some piece ↔ StandsAt 0 text span piece := by
  simp only [slice?_eq_some_iff, StandsAt, Nat.zero_add]

namespace Edit

/-! ## Positions -/

/-- Where a position of the text before the edits is in the text after them; the cursors are where
what is left of both texts starts. Inside of a span that gives way there is nothing to follow. -/
def moved : List Edit → Nat → Nat → Nat → Nat
  | [], cursor, cursor', p => cursor' + (p - cursor)
  | e :: es, cursor, cursor', p =>
    if p ≤ e.span.start then cursor' + (p - cursor)
    else moved es e.span.stop (cursor' + (e.span.start - cursor) + Text.utf8Length e.text) p

/-- A span of the text before the edits in the text after them. -/
def movedSpan (es : List Edit) (cursor cursor' : Nat) (span : Span) : Span :=
  ⟨moved es cursor cursor' span.start, moved es cursor cursor' span.stop⟩

theorem moved_of_le {e : Edit} {es : List Edit} {cursor cursor' p : Nat} (h : p ≤ e.span.start) :
    moved (e :: es) cursor cursor' p = cursor' + (p - cursor) :=
  if_pos h

theorem moved_of_lt {e : Edit} {es : List Edit} {cursor cursor' p : Nat} (h : e.span.start < p) :
    moved (e :: es) cursor cursor' p =
      moved es e.span.stop (cursor' + (e.span.start - cursor) + Text.utf8Length e.text) p :=
  if_neg (Nat.not_le.mpr h)

/-- No position moves before the start. -/
theorem le_moved (es : List Edit) (cursor cursor' p : Nat) :
    cursor' ≤ moved es cursor cursor' p := by
  induction es generalizing cursor cursor' with
  | nil => exact Nat.le_add_right ..
  | cons e es ih =>
      by_cases h : p ≤ e.span.start
      · rw [moved_of_le h]
        omega
      · rw [moved_of_lt (Nat.not_le.mp h)]
        have hrest := ih e.span.stop (cursor' + (e.span.start - cursor) + Text.utf8Length e.text)
        omega

/-- Positions keep their order. -/
theorem moved_mono (es : List Edit) (cursor cursor' : Nat) {p q : Nat} (hpq : p ≤ q) :
    moved es cursor cursor' p ≤ moved es cursor cursor' q := by
  induction es generalizing cursor cursor' with
  | nil =>
      rw [moved, moved]
      omega
  | cons e es ih =>
      by_cases hq : q ≤ e.span.start
      · rw [moved_of_le hq, moved_of_le (Nat.le_trans hpq hq)]
        omega
      · rw [moved_of_lt (Nat.not_le.mp hq)]
        by_cases hp : p ≤ e.span.start
        · -- the first one stays before the new text, which the other one is behind
          have hrest := le_moved es e.span.stop
            (cursor' + (e.span.start - cursor) + Text.utf8Length e.text) q
          rw [moved_of_le hp]
          omega
        · rw [moved_of_lt (Nat.not_le.mp hp)]
          exact ih ..

theorem movedSpan_of_le {e : Edit} {es : List Edit} {cursor cursor' : Nat} {span : Span}
    (hstart : span.start ≤ e.span.start) (hstop : span.stop ≤ e.span.start) :
    movedSpan (e :: es) cursor cursor' span =
      ⟨cursor' + (span.start - cursor), cursor' + (span.stop - cursor)⟩ := by
  rw [movedSpan, moved_of_le hstart, moved_of_le hstop]

theorem movedSpan_of_lt {e : Edit} {es : List Edit} {cursor cursor' : Nat} {span : Span}
    (hstart : e.span.start < span.start) (hstop : e.span.start < span.stop) :
    movedSpan (e :: es) cursor cursor' span =
      movedSpan es e.span.stop (cursor' + (e.span.start - cursor) + Text.utf8Length e.text)
        span := by
  rw [movedSpan, moved_of_lt hstart, moved_of_lt hstop, movedSpan]

/-! ## Spliced texts -/

variable {es : List Edit} {e : Edit} {cursor : Nat} {a b : List Char}

/-- Edits are behind the start of what they are spliced into. -/
theorem Spliced.le_of_mem (h : Spliced es cursor a b) (he : e ∈ es) :
    cursor ≤ e.span.start ∧ e.span.start ≤ e.span.stop := by
  induction h with
  | done => cases he
  | step hgap hold _ ih =>
      rcases List.mem_cons.mp he with rfl | he
      · omega
      · have hrest := ih he
        omega

/-- The start goes to the start. -/
theorem Spliced.moved_cursor (h : Spliced es cursor a b) (cursor' : Nat) :
    moved es cursor cursor' cursor = cursor' := by
  cases h with
  | done => rw [moved, Nat.sub_self, Nat.add_zero]
  | step hgap hold _ => rw [moved_of_le (by omega), Nat.sub_self, Nat.add_zero]

/-- At the span of an edit stands its text. -/
theorem Spliced.standsAt_new (h : Spliced es cursor a b)
    (hsome : ∀ f ∈ es, f.span.start < f.span.stop) (he : e ∈ es) (cursor' : Nat) :
    Text.StandsAt cursor' b (movedSpan es cursor cursor' e.span) e.text := by
  induction h generalizing cursor' with
  | done => cases he
  | @step f es cursor gap old rest rest' hgap hold hrest ih =>
      have hf := hsome f List.mem_cons_self
      have hgap' : f.span.start - cursor = Text.utf8Length gap := by omega
      rcases List.mem_cons.mp he with rfl | he
      · refine ⟨gap, rest', rfl, ?_, ?_⟩
        · rw [movedSpan, moved_of_le (Nat.le_refl _), hgap']
        · rw [movedSpan, moved_of_le (Nat.le_refl _), moved_of_lt hf, hrest.moved_cursor]
      · obtain ⟨hstart, hstop⟩ := hrest.le_of_mem he
        rw [movedSpan_of_lt (by omega) (by omega), hgap', Nat.add_assoc, ← Text.utf8Length_append]
        exact (ih (fun g hg => hsome g (List.mem_cons_of_mem f hg)) he _).append_left

/-- What shares nothing with the edits stands where its span has moved. -/
theorem Spliced.standsAt_moved (h : Spliced es cursor a b)
    (hsome : ∀ f ∈ es, f.span.start < f.span.stop) {span : Span} {piece : List Char}
    (hpiece : Text.StandsAt cursor a span piece)
    (hapart : ∀ f ∈ es, span.stop ≤ f.span.start ∨ f.span.stop ≤ span.start) (cursor' : Nat) :
    Text.StandsAt cursor' b (movedSpan es cursor cursor' span) piece := by
  induction h generalizing cursor' with
  | done => exact hpiece.from_offset cursor'
  | @step f es cursor gap old rest rest' hgap hold hrest ih =>
      have hf := hsome f List.mem_cons_self
      have hle : span.start ≤ span.stop := by
        obtain ⟨-, -, -, -, hstop⟩ := hpiece
        omega
      have hgap' : f.span.start - cursor = Text.utf8Length gap := by omega
      rcases hapart f List.mem_cons_self with hbehind | hbefore
      · -- the edit is behind the piece, which then stands in the gap before it
        rw [List.append_assoc] at hpiece ⊢
        rw [movedSpan_of_le (by omega) hbehind]
        exact (hpiece.of_append_right (by omega) _).from_offset cursor'
      · -- the edit is before the piece, which then stands in what is left behind it
        have hstop : cursor + Text.utf8Length (gap ++ old) = f.span.stop := by
          rw [Text.utf8Length_append]
          omega
        have hrest' := hpiece.of_append_left (by omega)
        rw [hstop] at hrest'
        rw [movedSpan_of_lt (by omega) (by omega), hgap', Nat.add_assoc, ← Text.utf8Length_append]
        exact (ih (fun g hg => hsome g (List.mem_cons_of_mem f hg)) hrest'
          (fun g hg => hapart g (List.mem_cons_of_mem f hg)) _).append_left

/-- At a position that no edit lies around, a splice is cut in two: the edits before it are spliced
into what stands before it, which ends where the position has moved. -/
theorem Spliced.exists_cut (h : Spliced es cursor a b)
    (hsome : ∀ f ∈ es, f.span.start < f.span.stop) {front rest : List Char} (ha : a = front ++ rest)
    (hapart : ∀ f ∈ es, cursor + Text.utf8Length front ≤ f.span.start ∨
      f.span.stop ≤ cursor + Text.utf8Length front) (cursor' : Nat) :
    ∃ earlier later front' rest', es = earlier ++ later ∧ b = front' ++ rest' ∧
      Spliced earlier cursor front front' ∧
      (∀ f ∈ earlier, f.span.stop ≤ cursor + Text.utf8Length front) ∧
      cursor' + Text.utf8Length front' =
        moved es cursor cursor' (cursor + Text.utf8Length front) := by
  induction h generalizing front cursor' with
  | @done cursor text =>
      refine ⟨[], [], front, rest, rfl, ha, .done, List.forall_mem_nil _, ?_⟩
      rw [moved, Nat.add_sub_cancel_left]
  | @step f es cursor gap old behind behind' hgap hold hrest ih =>
      have hf := hsome f List.mem_cons_self
      rcases hapart f List.mem_cons_self with hbehind | hbefore
      · -- the position is in the gap before the first edit
        rw [List.append_assoc] at ha
        obtain ⟨more, rfl, -⟩ := Text.exists_append_of_utf8Length_le ha.symm (by omega)
        refine ⟨[], f :: es, front, more ++ f.text ++ behind', rfl, by simp, .done,
          List.forall_mem_nil _, ?_⟩
        rw [moved_of_le hbehind, Nat.add_sub_cancel_left]
      · -- the position is behind the first edit
        obtain ⟨more, rfl, hmore⟩ := Text.exists_append_of_utf8Length_le ha (by
          rw [Text.utf8Length_append]
          omega)
        have hplace : cursor + Text.utf8Length (gap ++ old ++ more) =
            f.span.stop + Text.utf8Length more := by
          simp only [Text.utf8Length_append]
          omega
        have hgap' : f.span.start - cursor = Text.utf8Length gap := by omega
        rw [hplace] at hbefore hapart ⊢
        obtain ⟨earlier, later, front', rest', rfl, rfl, hearlier, hstop, hmoved⟩ :=
          ih (fun g hg => hsome g (List.mem_cons_of_mem f hg)) hmore
            (fun g hg => hapart g (List.mem_cons_of_mem f hg))
            (cursor' + Text.utf8Length (gap ++ f.text))
        refine ⟨f :: earlier, later, gap ++ f.text ++ front', rest', rfl, by simp,
          .step hgap hold hearlier, ?_, ?_⟩
        · intro g hg
          rcases List.mem_cons.mp hg with rfl | hg
          · exact hbefore
          · exact hstop g hg
        · rw [moved_of_lt (by omega), hgap', Nat.add_assoc cursor', ← Text.utf8Length_append,
            ← hmoved, Text.utf8Length_append (gap ++ f.text), Nat.add_assoc]

/-- A character that neither the old pieces nor the new ones hold is there as often as before. -/
theorem Spliced.count_eq (h : Spliced es cursor a b) {c : Char} (hnew : ∀ f ∈ es, c ∉ f.text)
    (hold : ∀ f ∈ es, ∀ old, Text.StandsAt cursor a f.span old → c ∉ old) :
    b.count c = a.count c := by
  induction h with
  | done => rfl
  | @step f es cursor gap old rest rest' hgap hlength hrest ih =>
      have hstop : cursor + Text.utf8Length (gap ++ old) = f.span.stop := by
        rw [Text.utf8Length_append]
        omega
      have hrest := ih (fun g hg => hnew g (List.mem_cons_of_mem f hg)) fun g hg piece hpiece =>
        hold g (List.mem_cons_of_mem f hg) piece (Text.StandsAt.append_left (hstop ▸ hpiece))
      have htext : f.text.count c = 0 := List.count_eq_zero_of_not_mem (hnew f List.mem_cons_self)
      have hpiece : old.count c = 0 := List.count_eq_zero_of_not_mem
        (hold f List.mem_cons_self old ⟨gap, rest, rfl, hgap, hlength⟩)
      simp only [List.count_append, hrest, htext, hpiece]

end Edit

/-! ## New literals -/

open Syntax (Form Tree)

namespace Edit

/-- What the text of an edit says, and whether in halves, if it is one string token. -/
def string? (e : Edit) : Option (String × Bool) :=
  match Syntax.Lexer.scanToken e.text.length e.text with
  | ⟨.string value halves, [], []⟩ => some (value, halves)
  | _ => none

/-- What the string in a span says after the edits, if one of them puts it there. -/
def stringAt? (es : List Edit) (span : Span) : Option (String × Bool) :=
  (es.find? (·.span = span)).bind string?

end Edit

/-- A span after edits of a whole text. -/
def Span.edited (es : List Edit) (span : Span) : Span := Edit.movedSpan es 0 0 span

/-- The form of a tree that stood in a span: a string may say something else. -/
def Syntax.Form.edited (es : List Edit) (span : Span) : Form → Form
  | .string value halves =>
    match Edit.stringAt? es span with
    | some (value, halves) => .string value halves
    | none => .string value halves
  | form => form

namespace Syntax.Tree

mutual

/-- The tree after edits of string literals. -/
def edited (es : List Edit) : Tree → Tree
  | .node form span parts => .node (form.edited es span) (span.edited es) (editedAll es parts)

/-- Trees after edits of string literals. -/
def editedAll (es : List Edit) : List Tree → List Tree
  | [] => []
  | t :: ts => edited es t :: editedAll es ts

end

theorem editedAll_eq (es : List Edit) (ts : List Tree) : editedAll es ts = ts.map (edited es) := by
  induction ts with
  | nil => rfl
  | cons t ts ih => rw [editedAll, ih, List.map_cons]

theorem edited_node (es : List Edit) (form : Form) (span : Span) (parts : List Tree) :
    (Tree.node form span parts).edited es =
      .node (form.edited es span) (span.edited es) (parts.map (edited es)) := by
  rw [edited, editedAll_eq]

end Syntax.Tree

/-! ## Candidates -/

/-- The candidate after edits of string literals. -/
def Candidate.edited (es : List Edit) (c : Candidate) : Candidate :=
  ⟨c.carrier, c.span.edited es, ((Edit.stringAt? es c.span).map Prod.fst).getD c.value⟩

namespace Syntax.Tree

theorem named?_edited (es : List Edit) (carrier : Carrier) (t : Tree) :
    named? carrier (t.edited es) = (named? carrier t).map (Candidate.edited es) := by
  rcases t with ⟨form, span, parts⟩
  rw [edited_node]
  cases form with
  | string value halves =>
      rw [Form.edited, named?, Option.map_some, Candidate.edited]
      cases Edit.stringAt? es span with
      | none => rfl
      | some new => rfl
  | _ => rfl

/-- A tree is a candidate after the edits exactly when it was one before. -/
theorem candidate?_edited (es : List Edit) (t : Tree) :
    (t.edited es).candidate? = t.candidate?.map (Candidate.edited es) := by
  rcases t with ⟨form, span, parts⟩
  rw [edited_node]
  cases form with
  | importDeclaration typeOnly phase =>
      match parts with
      | [_, source, _] => exact named?_edited es .importDeclaration source
      | [] | [_] | [_, _] | _ :: _ :: _ :: _ :: _ => rfl
  | exportNamed typeOnly =>
      match parts with
      | [_, _, source, _] => exact named?_edited es .exportDeclaration source
      | [] | [_] | [_, _] | [_, _, _] | _ :: _ :: _ :: _ :: _ :: _ => rfl
  | exportAll typeOnly =>
      match parts with
      | [_, source, _] => exact named?_edited es .exportDeclaration source
      | [] | [_] | [_, _] | _ :: _ :: _ :: _ :: _ => rfl
  | importCall phase =>
      match parts with
      | [source, _] => exact named?_edited es .dynamicImport source
      | [] | [_] | _ :: _ :: _ :: _ => rfl
  | importType =>
      match parts with
      | source :: _ => exact named?_edited es .importType source
      | [] => rfl
  | string value halves =>
      rw [Form.edited]
      cases Edit.stringAt? es span <;> rfl
  | _ => rfl

/-- Edits of string literals neither add candidates nor drop any. -/
theorem candidates_edited (es : List Edit) (t : Tree) :
    (t.edited es).candidates = t.candidates.map (Candidate.edited es) := by
  induction t using Syntax.Tree.induction with
  | node form span parts ih =>
      have hparts : (parts.map (edited es)).flatMap candidates =
          (parts.flatMap candidates).map (Candidate.edited es) := by
        rw [List.map_flatMap, List.flatMap_map, List.flatMap_def, List.flatMap_def]
        exact congrArg List.flatten (List.map_congr_left ih)
      have hown := candidate?_edited es (.node form span parts)
      rw [edited_node] at hown ⊢
      rw [candidates_node, candidates_node, hown, hparts, List.map_append]
      cases (Tree.node form span parts).candidate? <;> rfl

end Syntax.Tree

/-! ## Comparing trees -/

deriving instance DecidableEq for Syntax.Form

namespace Syntax.Tree

mutual

/-- Whether two trees are the same. -/
def same (t u : Tree) : Decidable (t = u) :=
  match t, u with
  | .node form span parts, .node form' span' parts' =>
    match decEq form form', decEq span span', sameAll parts parts' with
    | isTrue hform, isTrue hspan, isTrue hparts => isTrue (by rw [hform, hspan, hparts])
    | isFalse hne, _, _ => isFalse fun h => hne (Tree.node.inj h).1
    | _, isFalse hne, _ => isFalse fun h => hne (Tree.node.inj h).2.1
    | _, _, isFalse hne => isFalse fun h => hne (Tree.node.inj h).2.2

/-- Whether trees are the same, one after the other. -/
def sameAll (ts us : List Tree) : Decidable (ts = us) :=
  match ts, us with
  | [], [] => isTrue rfl
  | t :: ts, u :: us =>
    match same t u, sameAll ts us with
    | isTrue hhead, isTrue hrest => isTrue (by rw [hhead, hrest])
    | isFalse hne, _ => isFalse fun h => hne (List.cons.inj h).1
    | _, isFalse hne => isFalse fun h => hne (List.cons.inj h).2
  | [], _ :: _ => isFalse (List.cons_ne_nil _ _).symm
  | _ :: _, [] => isFalse (List.cons_ne_nil _ _)

end

instance : DecidableEq Tree := same

end Syntax.Tree

end QuietEmit
