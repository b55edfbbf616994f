/-
  QuietEmit.Proofs.Specifier.Decoding

  Redirecting and the meaning of literals. A new literal denotes what the rule
  answers for the specifier (`denotes_literal`), so all depends on what the
  specifier is. The literal of an import type is read for what it denotes, and
  there the rule commutes with decoding; the other literals are read as they are
  written, which is the same exactly if they hold no escape
  (`replacement_commutes_unless_escaped`).
-/
import QuietEmit.Proofs.Specifier.Splice
import QuietEmit.Proofs.Syntax.StringLiteral

namespace QuietEmit

open Syntax (Tree)
open StringLiteral (Denotes denoted?)

/-- What a parser promises of the values of literals that name modules: each is what the literal
denotes, if that is a text. -/
def LiteralsDecoded (text : List Char) (tree : Tree) : Prop :=
  ∀ c ∈ tree.candidates, ∀ raw value, Text.slice? text c.span = some raw →
    Denotes raw value → c.value = value

/-- The rule commutes with decoding at a replacement: the new literal denotes what the rule answers
for what the old one denotes. -/
def Replacement.Commutes (redirection : Redirection) (file : Path) (text : List Char)
    (r : Replacement) : Prop :=
  ∀ raw value, Text.slice? text r.old.span = some raw → Denotes raw value →
    ∃ answer, redirection.redirect value file = .ok answer ∧
      Denotes r.new.literal (answer.text value)

/-! ## Specifiers and what literals denote -/

/-- The literal of a reference denotes its specifier. -/
theorem Reference.denotes_literal (r : Reference) : Denotes r.literal r.specifier :=
  StringLiteral.denotes_write r.quote r.specifier

/-- A quote is no backslash, so a literal holds one only between its quotes. -/
theorem backslash_not_mem_quoted {q : Quote} {body : List Char} :
    '\\' ∉ q.char :: body ++ [q.char] ↔ '\\' ∉ body := by
  have hquote : '\\' ≠ q.char := (StringLiteral.quoteChar_ne q).1.symm
  simp [hquote]

namespace Candidate

variable {text raw : List Char} {tree : Tree} {c : Candidate}

/-- Outside types a literal denotes the specifier exactly if it holds no backslash. -/
theorem denotes_specifier_iff (h : c.IsQuoted text) (hc : c.carrier ≠ .importType)
    (hraw : Text.slice? text c.span = some raw) (hdenoted : (denoted? raw).isSome) :
    Denotes raw (c.specifier text) ↔ '\\' ∉ raw := by
  obtain ⟨q, body, hs⟩ := h
  obtain rfl : q.char :: body ++ [q.char] = raw := Option.some.inj (hs.symm.trans hraw)
  rw [specifier_eq hs hc, StringLiteral.denotes_inside_iff hdenoted, backslash_not_mem_quoted]

/-- The specifier is what the literal denotes, in a type and where no escape is. -/
theorem specifier_eq_of_denotes (h : LiteralsPlaced text tree) (hdec : LiteralsDecoded text tree)
    (hmem : c ∈ tree.candidates) (hraw : Text.slice? text c.span = some raw) {value : String}
    (hvalue : Denotes raw value) (hplain : c.carrier = .importType ∨ '\\' ∉ raw) :
    c.specifier text = value := by
  by_cases hc : c.carrier = .importType
  · rw [specifier, hc]
    exact hdec c hmem raw value hraw hvalue
  · have hnone : '\\' ∉ raw := hplain.resolve_left hc
    have hdenoted : (denoted? raw).isSome := Option.isSome_of_eq_some hvalue
    have hspec := (denotes_specifier_iff (h.quoted c hmem) hc hraw hdenoted).mpr hnone
    exact hspec.unique hvalue

end Candidate

/-! ## Replacements -/

section Revise

variable {redirection : Redirection} {path : Path} {text : String} {tree : Tree} {rev : Revision}

/-- The new literal of a replacement denotes what the rule answers for the specifier. That commutes
with decoding for an import type, and for the other carriers if the old literal holds no backslash;
these have as specifier the text between the quotes, which is what the literal denotes exactly
then. -/
theorem replacement_commutes_unless_escaped (h : LiteralsPlaced text.toList tree)
    (hdec : LiteralsDecoded text.toList tree)
    (hrev : revise redirection path text tree = .ok rev) {r : Replacement}
    (hr : r ∈ rev.replacements) :
    ∃ raw new, Text.slice? text.toList r.old.span = some raw ∧
      redirection.redirect r.old.specifier path = .ok (.changed new) ∧
      Denotes r.new.literal new ∧
      (r.old.carrier = .importType ∨ '\\' ∉ raw → r.Commutes redirection path text.toList) ∧
      (r.old.carrier ≠ .importType →
        (∃ q : Quote, raw = q.char :: r.old.specifier.toList ++ [q.char]) ∧
        ((denoted? raw).isSome → (Denotes raw r.old.specifier ↔ '\\' ∉ raw))) := by
  obtain ⟨c, hc, hcr⟩ := (mem_replacements_of_revise h hrev).mp hr
  obtain ⟨new, hnew, rfl⟩ := replacement?_eq_some_iff.mp hcr
  obtain ⟨hredirect, -⟩ := Redirection.change?_eq_some_iff.mp hnew
  have hmem : c ∈ tree.candidates := (exposed_sublist_candidates _ tree).subset hc
  have hquoted : c.IsQuoted text.toList := h.quoted c hmem
  obtain ⟨q, body, hraw⟩ := hquoted
  refine ⟨_, new, hraw, hredirect, Reference.denotes_literal _, ?_, ?_⟩
  · intro hplain raw value hraw' hvalue
    obtain rfl : q.char :: body ++ [q.char] = raw := Option.some.inj (hraw.symm.trans hraw')
    have hspec := Candidate.specifier_eq_of_denotes h hdec hmem hraw hvalue hplain
    rw [hspec] at hredirect
    exact ⟨.changed new, hredirect, Reference.denotes_literal _⟩
  · intro hcarrier
    constructor
    · refine ⟨q, ?_⟩
      show _ = q.char :: (c.specifier text.toList).toList ++ [q.char]
      rw [Candidate.specifier_eq hraw hcarrier, String.toList_ofList]
    · exact Candidate.denotes_specifier_iff ⟨q, body, hraw⟩ hcarrier hraw

end Revise

/-! ## Escapes in an import and in an import type -/

/-- The file of the modules. -/
def escapedPath : Path := ⟨"/m.ts"⟩

/-- An import of `ab` with an escape. -/
def escapedImport : String := "import 'a\\x62';"

/-- The tree that is read from it. -/
def escapedImportTree : Tree := (Syntax.Source.read (.ofPath escapedPath) escapedImport).tree

/-- What the import becomes: the escape is written out. -/
def escapedImportReplacement : Replacement :=
  ⟨⟨.importDeclaration, ⟨7, 14⟩, "a\\x62", .single⟩,
    ⟨.importDeclaration, ⟨7, 14⟩, "xa\\x62", .single⟩⟩

/-- The rule need not commute with decoding: the new literal of the import denotes a backslash. -/
theorem escaped_import_not_commutes :
    ¬ ∀ (redirection : Redirection) (path : Path) (text : String) (rev : Revision),
      reviseText redirection path text = .ok rev →
      ∀ r ∈ rev.replacements, r.Commutes redirection path text.toList := by
  intro hall
  have hone : escapedImportTree.candidates = [⟨.importDeclaration, ⟨7, 14⟩, "ab"⟩] := by
    decide +kernel
  have hplaced : LiteralsPlaced escapedImport.toList escapedImportTree :=
    .of_candidates_eq hone (by decide +kernel) (List.pairwise_singleton _ _)
  have hmem : escapedImportReplacement ∈ Candidate.replacements prefixing escapedPath
      escapedImport.toList
      (escapedImportTree.counted prefixing escapedPath escapedImport.toList) := by
    decide +kernel
  have hcommutes := hall prefixing escapedPath escapedImport _ (revise_prefixing hplaced)
    escapedImportReplacement (by rwa [Revision.replacements_ofReplacements])
  obtain ⟨answer, hanswer, hdenotes⟩ :=
    hcommutes "'a\\x62'".toList "ab" (by decide +kernel) (by decide +kernel)
  rw [redirect_prefixing] at hanswer
  cases hanswer
  exact absurd hdenotes (by decide +kernel)

/-- An import type of `ab` with the same escape. -/
def escapedType : String := "type T = import('a\\x62');"

/-- The tree that is read from it. -/
def escapedTypeTree : Tree := (Syntax.Source.read (.ofPath escapedPath) escapedType).tree

/-- What the type becomes: the specifier is `ab`. -/
def escapedTypeReplacement : Replacement :=
  ⟨⟨.importType, ⟨16, 23⟩, "ab", .single⟩, ⟨.importType, ⟨16, 23⟩, "xab", .single⟩⟩

/-- The rule commutes with decoding at the import type, though its literal holds an escape. -/
theorem replacement_commutes_unless_escaped_importType :
    escapedTypeReplacement.Commutes prefixing escapedPath escapedType.toList := by
  have hone : escapedTypeTree.candidates = [⟨.importType, ⟨16, 23⟩, "ab"⟩] := by
    decide +kernel
  have hplaced : LiteralsPlaced escapedType.toList escapedTypeTree :=
    .of_candidates_eq hone (by decide +kernel) (List.pairwise_singleton _ _)
  have hdecoded : LiteralsDecoded escapedType.toList escapedTypeTree := by
    intro c hc raw value hraw hvalue
    rw [hone, List.mem_singleton] at hc
    subst hc
    have hliteral : Text.slice? escapedType.toList ⟨16, 23⟩ = some "'a\\x62'".toList := by
      decide +kernel
    obtain rfl : "'a\\x62'".toList = raw := Option.some.inj (hliteral.symm.trans hraw)
    have hab : Denotes "'a\\x62'".toList "ab" := by decide +kernel
    exact hab.unique hvalue
  have hmem : escapedTypeReplacement ∈ Candidate.replacements prefixing escapedPath
      escapedType.toList
      (escapedTypeTree.counted prefixing escapedPath escapedType.toList) := by
    decide +kernel
  have hrev : revise prefixing escapedPath escapedType escapedTypeTree = .ok _ :=
    revise_prefixing hplaced
  obtain ⟨raw, new, -, -, -, hcommutes, -⟩ :=
    replacement_commutes_unless_escaped hplaced hdecoded hrev (r := escapedTypeReplacement)
      (by rwa [Revision.replacements_ofReplacements])
  exact hcommutes (.inl rfl)

end QuietEmit
