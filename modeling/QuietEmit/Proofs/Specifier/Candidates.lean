/-
  QuietEmit.Proofs.Specifier.Candidates

  The specifiers of a module as its tree has them, before any rule is asked.
  `Tree.occurrences` lists every tree from the top down, each with the trees it
  lies in; a candidate is a tree with a literal that names a module
  (`Tree.candidate?`). The candidates that count (`Tree.exposed`) are those that
  lie below none that changes: a filter on the whole list, where the search
  itself stops going down.

  What a parser promises of the literals is `LiteralsPlaced`. Under it the
  pruned listing of references is the filtered list of candidates
  (`references_eq_exposed`).
-/
import Mathlib.Data.List.Pairwise
import QuietEmit.Proofs.Text.Cuts
import QuietEmit.Specifier.Revision

namespace QuietEmit

open Syntax (Form Tree)

/-! ## Trees and the trees they lie in -/

/-- A tree found in another one. -/
structure Occurrence where
  tree : Tree
  /-- The trees it lies in, the innermost first. -/
  above : List Tree

/-- The same occurrence seen from a tree further out. -/
def Occurrence.within (outer : Tree) (o : Occurrence) : Occurrence :=
  { o with above := o.above ++ [outer] }

/-- A literal that names a module, and the kind of tree that carries it. -/
structure Candidate where
  carrier : Carrier
  /-- The place of the literal with its quotes. -/
  span : Span
  /-- What the literal denotes. -/
  value : String
deriving DecidableEq, Repr

namespace Syntax.Tree

mutual

/-- Every tree in a tree, itself included, from the top down. -/
def occurrences : Tree → List Occurrence
  | .node form span parts =>
    ⟨.node form span parts, []⟩ ::
      (occurrencesAll parts).map (Occurrence.within (.node form span parts))

/-- Every tree in some trees, one after the other. -/
def occurrencesAll : List Tree → List Occurrence
  | [] => []
  | t :: ts => occurrences t ++ occurrencesAll ts

end

/-- The candidate made of a string. -/
def named? (carrier : Carrier) : Tree → Option Candidate
  | .node (.string value _) span _ => some ⟨carrier, span, value⟩
  | _ => Option.none

/-- The candidate that a tree is. It imports or exports from a source, calls for a module named by
a string, or is a type of a module. -/
def candidate? : Tree → Option Candidate
  | .node (.importDeclaration _ _) _ [_, source, _] => named? .importDeclaration source
  | .node (.exportNamed _) _ [_, _, source, _] => named? .exportDeclaration source
  | .node (.exportAll _) _ [_, source, _] => named? .exportDeclaration source
  | .node (.importCall _) _ [source, _] => named? .dynamicImport source
  | .node .importType _ (source :: _) => named? .importType source
  | _ => Option.none

/-- The candidates of a tree from the top down. -/
def candidates (t : Tree) : List Candidate := t.occurrences.filterMap (·.tree.candidate?)

/-- Trees are built from their parts. -/
theorem induction {motive : Tree → Prop}
    (node : ∀ form span parts, (∀ t ∈ parts, motive t) → motive (.node form span parts)) :
    ∀ t, motive t
  | .node form span parts => node form span parts fun t _ => induction node t

theorem occurrencesAll_eq (ts : List Tree) : occurrencesAll ts = ts.flatMap occurrences := by
  induction ts with
  | nil => rfl
  | cons t ts ih => rw [occurrencesAll, ih, List.flatMap_cons]

theorem occurrences_node (form : Form) (span : Span) (parts : List Tree) :
    (Tree.node form span parts).occurrences =
      ⟨.node form span parts, []⟩ ::
        (parts.flatMap occurrences).map (Occurrence.within (.node form span parts)) := by
  rw [occurrences, occurrencesAll_eq]

/-- The candidates of a tree are its own and those of its parts. -/
theorem candidates_node (form : Form) (span : Span) (parts : List Tree) :
    (Tree.node form span parts).candidates =
      (Tree.node form span parts).candidate?.toList ++ parts.flatMap candidates := by
  simp only [candidates, occurrences_node, List.filterMap_cons, List.filterMap_map,
    List.filterMap_flatMap]
  cases (Tree.node form span parts).candidate? <;> rfl

end Syntax.Tree

/-! ## Candidates that count -/

/-- A tree further out is a candidate that changes. -/
def Occurrence.isHidden (changes : Candidate → Bool) (o : Occurrence) : Bool :=
  o.above.any fun t => t.candidate?.any changes

/-- The candidates that lie below none that changes, from the top down. -/
def Syntax.Tree.exposed (changes : Candidate → Bool) (t : Tree) : List Candidate :=
  (t.occurrences.filter fun o => !o.isHidden changes).filterMap (·.tree.candidate?)

theorem Occurrence.isHidden_within (changes : Candidate → Bool) (outer : Tree) (o : Occurrence) :
    (o.within outer).isHidden changes =
      (o.isHidden changes || outer.candidate?.any changes) := by
  simp [isHidden, within, List.any_append]

/-- An occurrence that is not hidden and is a candidate counts, and nothing else does. -/
theorem mem_exposed {changes : Candidate → Bool} {t : Tree} {c : Candidate} :
    c ∈ t.exposed changes ↔
      ∃ o ∈ t.occurrences, o.isHidden changes = false ∧ o.tree.candidate? = some c := by
  simp [Syntax.Tree.exposed, and_assoc]

theorem exposed_sublist_candidates (changes : Candidate → Bool) (t : Tree) :
    (t.exposed changes).Sublist t.candidates :=
  List.filter_sublist.filterMap _

/-- Below a candidate that changes nothing counts; otherwise what counts in the parts does. -/
theorem exposed_node (changes : Candidate → Bool) (form : Form) (span : Span)
    (parts : List Tree) :
    (Syntax.Tree.node form span parts).exposed changes =
      (Syntax.Tree.node form span parts).candidate?.toList ++
        if (Syntax.Tree.node form span parts).candidate?.any changes then []
        else parts.flatMap (Syntax.Tree.exposed changes) := by
  rw [Syntax.Tree.exposed, Syntax.Tree.occurrences_node, List.filter_cons_of_pos (by rfl),
    List.filterMap_cons, List.filter_map, List.filterMap_map]
  have hrest : ((parts.flatMap Syntax.Tree.occurrences).filter
        ((fun o => !o.isHidden changes) ∘ Occurrence.within (.node form span parts))).filterMap
        ((·.tree.candidate?) ∘ Occurrence.within (.node form span parts)) =
      if (Syntax.Tree.node form span parts).candidate?.any changes then []
      else parts.flatMap (Syntax.Tree.exposed changes) := by
    by_cases hc : (Syntax.Tree.node form span parts).candidate?.any changes
    · simp [Function.comp_def, Occurrence.isHidden_within, hc]
    · simp only [Function.comp_def, Occurrence.isHidden_within, Bool.eq_false_iff.mpr hc]
      simp only [Bool.or_false, List.filter_flatMap, List.filterMap_flatMap]
      rfl
  rw [hrest]
  cases (Syntax.Tree.node form span parts).candidate? <;> rfl

/-! ## References of candidates -/

namespace Candidate

/-- What the candidate says: what its literal denotes for a type, else the text between the
quotes. -/
def specifier (text : List Char) (c : Candidate) : String :=
  match c.carrier with
  | .importType => c.value
  | _ => String.ofList ((Text.slice? text ⟨c.span.start + 1, c.span.stop - 1⟩).getD [])

/-- The quote that the literal opens with. -/
def quote (text : List Char) (c : Candidate) : Quote :=
  if Text.slice? text ⟨c.span.start, c.span.start + 1⟩ = some ['\''] then .single else .double

/-- The reference of a candidate. -/
def reference (text : List Char) (c : Candidate) : Reference :=
  ⟨c.carrier, c.span, c.specifier text, c.quote text⟩

/-- The place of the candidate holds a literal: two quotes of one kind around a text. -/
def IsQuoted (text : List Char) (c : Candidate) : Prop :=
  ∃ (q : Quote) (body : List Char), Text.slice? text c.span = some (q.char :: body ++ [q.char])

/-- The text between the quotes is what is left of the literal without its ends. -/
theorem isQuoted_iff {text : List Char} {c : Candidate} :
    c.IsQuoted text ↔ ∃ q ∈ [Quote.single, Quote.double], Text.slice? text c.span =
      some (q.char :: (((Text.slice? text c.span).getD []).drop 1).dropLast ++ [q.char]) := by
  constructor
  · rintro ⟨q, body, hliteral⟩
    refine ⟨q, by cases q <;> simp, ?_⟩
    rw [hliteral]
    simp
  · rintro ⟨q, -, hliteral⟩
    exact ⟨q, _, hliteral⟩

instance (text : List Char) (c : Candidate) : Decidable (c.IsQuoted text) :=
  decidable_of_iff _ isQuoted_iff.symm

end Candidate

/-- Two literals share no text, whichever of them comes first. -/
def Candidate.Apart (c d : Candidate) : Prop :=
  c.span.stop ≤ d.span.start ∨ d.span.stop ≤ c.span.start

instance (c d : Candidate) : Decidable (c.Apart d) := inferInstanceAs (Decidable (_ ∨ _))

/-- The candidates of two trees share no text. -/
def Occurrence.Apart (o o' : Occurrence) : Prop :=
  ∀ c, o.tree.candidate? = some c → ∀ d, o'.tree.candidate? = some d → c.Apart d

instance : Std.Symm Occurrence.Apart where
  symm _ _ h c hc d hd := (h d hd c hc).symm

/-- What a parser promises of the literals that name modules: each stands at its place in quotes,
and no two share any text. -/
structure LiteralsPlaced (text : List Char) (tree : Tree) : Prop where
  quoted : ∀ c ∈ tree.candidates, c.IsQuoted text
  apart : tree.candidates.Pairwise Candidate.Apart

/-- The literals of a tree with known candidates are placed if those of the candidates are. -/
theorem LiteralsPlaced.of_candidates_eq {text : List Char} {tree : Tree} {cs : List Candidate}
    (hcandidates : tree.candidates = cs) (hquoted : ∀ c ∈ cs, c.IsQuoted text)
    (hapart : cs.Pairwise Candidate.Apart) : LiteralsPlaced text tree :=
  ⟨hcandidates ▸ hquoted, hcandidates ▸ hapart⟩

/-- Literals found at two places of a tree do not share any text. -/
theorem LiteralsPlaced.apart_of_ne {text : List Char} {tree : Tree}
    (h : LiteralsPlaced text tree) {o o' : Occurrence} (ho : o ∈ tree.occurrences)
    (ho' : o' ∈ tree.occurrences) (hne : o ≠ o') : o.Apart o' := by
  have hpair : tree.occurrences.Pairwise Occurrence.Apart := List.pairwise_filterMap.mp h.apart
  exact hpair.forall ho ho' hne

/-! ## Quotes -/

theorem Quote.utf8Size_char (q : Quote) : q.char.utf8Size = 1 := by
  cases q <;> decide

/-- Quotes take two bytes more than what they enclose. -/
theorem Quote.utf8Length_quoted (q : Quote) (body : List Char) :
    Text.utf8Length (q.char :: body ++ [q.char]) = Text.utf8Length body + 2 := by
  simp only [List.cons_append, Text.utf8Length_cons, Text.utf8Length_append,
    Text.utf8Length_nil, q.utf8Size_char]
  omega

namespace Candidate

variable {text body : List Char} {c : Candidate} {q : Quote}

/-- The text between the quotes of a literal. -/
theorem slice?_inside (h : Text.slice? text c.span = some (q.char :: body ++ [q.char])) :
    Text.slice? text ⟨c.span.start + 1, c.span.stop - 1⟩ = some body := by
  obtain ⟨before, after, htext, hstart, hstop⟩ := Text.slice?_eq_some_iff.mp h
  rw [q.utf8Length_quoted] at hstop
  refine Text.slice?_eq_some_iff.mpr ⟨before ++ [q.char], q.char :: after, ?_, ?_, ?_⟩
  · simp [htext]
  · simp [hstart, q.utf8Size_char]
  · show c.span.start + 1 + Text.utf8Length body = c.span.stop - 1
    omega

/-- The first character of a literal. -/
theorem slice?_opening (h : Text.slice? text c.span = some (q.char :: body ++ [q.char])) :
    Text.slice? text ⟨c.span.start, c.span.start + 1⟩ = some [q.char] := by
  obtain ⟨before, after, htext, hstart, -⟩ := Text.slice?_eq_some_iff.mp h
  refine Text.slice?_eq_some_iff.mpr ⟨before, body ++ [q.char] ++ after, ?_, hstart, ?_⟩
  · simp [htext]
  · simp [q.utf8Size_char]

theorem quote_eq (h : Text.slice? text c.span = some (q.char :: body ++ [q.char])) :
    c.quote text = q := by
  rw [quote, slice?_opening h]
  cases q <;> decide

theorem quoteOf_eq (q : Quote) (rest : List Char) : Reference.quoteOf (q.char :: rest) = q := by
  cases q <;> rfl

/-- Outside types the specifier is the text between the quotes. -/
theorem specifier_eq (h : Text.slice? text c.span = some (q.char :: body ++ [q.char]))
    (hc : c.carrier ≠ .importType) : c.specifier text = String.ofList body := by
  rw [specifier, slice?_inside h]
  cases hk : c.carrier <;> simp_all

/-- A literal that is read as written gives the reference of its candidate. -/
theorem ofRaw?_eq (h : c.IsQuoted text) (hc : c.carrier ≠ .importType) :
    Reference.ofRaw? c.carrier text c.span = some (c.reference text) := by
  obtain ⟨q, body, hs⟩ := h
  rw [Reference.ofRaw?, hs, reference, specifier_eq hs hc, quote_eq hs]
  simp [quoteOf_eq]

/-- A literal that is read for what it denotes gives the reference of its candidate. -/
theorem ofValue_eq (h : c.IsQuoted text) (hc : c.carrier = .importType) :
    Reference.ofValue .importType text c.span c.value = c.reference text := by
  obtain ⟨q, body, hs⟩ := h
  rw [Reference.ofValue, hs, reference, specifier, hc, quote_eq hs]
  simp [quoteOf_eq]

end Candidate

/-- The reference made of a string: types say what it denotes, the others what is written. -/
def Reference.ofCandidate? (text : List Char) (c : Candidate) : Option Reference :=
  match c.carrier with
  | .importType => some (ofValue .importType text c.span c.value)
  | carrier => ofRaw? carrier text c.span

/-- A tree carries a reference only through its candidate. -/
theorem ofTree?_eq_bind (text : List Char) (t : Tree) :
    Reference.ofTree? text t = t.candidate?.bind (Reference.ofCandidate? text) := by
  fun_cases Syntax.Tree.candidate? t with
  | case1 _ _ _ _ source _ => rcases source with ⟨form, _, _⟩; cases form <;> rfl
  | case2 _ _ _ _ source _ => rcases source with ⟨form, _, _⟩; cases form <;> rfl
  | case3 _ _ _ source _ => rcases source with ⟨form, _, _⟩; cases form <;> rfl
  | case4 _ _ source _ => rcases source with ⟨form, _, _⟩; cases form <;> rfl
  | case5 _ source _ => rcases source with ⟨form, _, _⟩; cases form <;> rfl
  | case6 t h1 h2 h3 h4 h5 =>
      unfold Reference.ofTree?
      split
      · exact (h1 _ _ _ _ _ _ rfl).elim
      · exact (h2 _ _ _ _ _ _ rfl).elim
      · exact (h3 _ _ _ _ _ rfl).elim
      · exact (h4 _ _ _ _ rfl).elim
      · exact (h5 _ _ _ rfl).elim
      · rfl

/-- The reference that a tree carries is that of its candidate. -/
theorem ofTree?_eq {text : List Char} {t : Tree} (h : ∀ c ∈ t.candidate?, c.IsQuoted text) :
    Reference.ofTree? text t = t.candidate?.map (Candidate.reference text) := by
  rw [ofTree?_eq_bind]
  cases ht : t.candidate? with
  | none => rfl
  | some c =>
      have hc : c.IsQuoted text := h c ht
      rw [Option.bind_some, Option.map_some, Reference.ofCandidate?]
      cases hk : c.carrier with
      | importType => exact congrArg some (Candidate.ofValue_eq hc hk)
      | _ =>
          rw [← Candidate.ofRaw?_eq hc (by rw [hk]; simp), hk]

/-! ## Listing references -/

theorem referencesAll_eq (text : List Char) (hides : Reference → Bool) (ts : List Tree) :
    referencesAll text hides ts = ts.flatMap (references text hides) := by
  induction ts with
  | nil => rfl
  | cons t ts ih => rw [referencesAll, ih, List.flatMap_cons]

/-- Going down only where nothing changes lists the candidates that count. -/
theorem references_eq_exposed {text : List Char} (hides : Reference → Bool) {t : Tree}
    (h : ∀ c ∈ t.candidates, c.IsQuoted text) :
    references text hides t =
      (t.exposed fun c => hides (c.reference text)).map (Candidate.reference text) := by
  induction t using Syntax.Tree.induction with
  | node form span parts ih =>
      rw [Syntax.Tree.candidates_node] at h
      have hown : ∀ c ∈ (Syntax.Tree.node form span parts).candidate?, c.IsQuoted text :=
        fun c hc => h c (List.mem_append_left _ (by simpa using hc))
      have hparts : parts.flatMap (references text hides) =
          (parts.flatMap (Syntax.Tree.exposed fun c => hides (c.reference text))).map
            (Candidate.reference text) := by
        rw [List.map_flatMap, List.flatMap_def, List.flatMap_def]
        refine congrArg List.flatten (List.map_congr_left fun p hp => ih p hp fun c hc => h c ?_)
        exact List.mem_append_right _ (List.mem_flatMap.mpr ⟨p, hp, hc⟩)
      rw [references, ofTree?_eq hown, exposed_node, referencesAll_eq]
      cases hc : (Syntax.Tree.node form span parts).candidate? with
      | none => simpa using hparts
      | some c =>
          by_cases hh : hides (c.reference text)
          · simp [hh]
          · simpa [hh] using hparts

/-! ## A module with one candidate in another -/

/-- A call for a module among the options of another one. -/
def nestedCalls : String := "import('a', import('./b'));"

/-- The file of that module. -/
def nestedCallsPath : Path := ⟨"/m.ts"⟩

/-- The tree that is read from it. -/
def nestedCallsTree : Tree := (Syntax.Source.read (.ofPath nestedCallsPath) nestedCalls).tree

/-- The outer call. -/
def outerCall : Candidate := ⟨.dynamicImport, ⟨7, 10⟩, "a"⟩

/-- The call among its options. -/
def innerCall : Candidate := ⟨.dynamicImport, ⟨19, 24⟩, "./b"⟩

theorem candidates_nestedCalls : nestedCallsTree.candidates = [outerCall, innerCall] := by
  decide +kernel

theorem literalsPlaced_nestedCalls : LiteralsPlaced nestedCalls.toList nestedCallsTree :=
  .of_candidates_eq candidates_nestedCalls (by decide +kernel) (by decide)

end QuietEmit
