/-
  QuietEmit.Proofs.Json.Records

  Records that survive their JSON form. The parts of a record are members that its shape
  fits, so the record is read back from them in any order, and what is absent may be
  left out or be given as `null` (`Diagnostic.ofJson_members`). What is written is one
  of these texts (`diagnostics_survive_json`).
-/
import QuietEmit.Diagnostic.Json
import QuietEmit.Proofs.Json.Members
import QuietEmit.Proofs.Project.Inputs

namespace QuietEmit

open Json Json.Reader

/-! ## Positions -/

namespace Position

/-- The members of a position. -/
def members (p : Position) : List (Member Position) :=
  [⟨"line", toString p.line, fun q => { q with line := p.line }⟩,
    ⟨"column", toString p.column, fun q => { q with column := p.column }⟩]

theorem fits_of_mem_members {p : Position} {m : Member Position} (h : m ∈ p.members) :
    shape.Fits m := by
  simp only [members, List.mem_cons, List.not_mem_nil, or_false] at h
  rcases h with rfl | rfl
  · exact .of_reads (fun n (q : Position) => { q with line := n }) rfl (reads_word32 p.line)
  · exact .of_reads (fun n (q : Position) => { q with column := n }) rfl (reads_word32 p.column)

/-- A position is read back, whatever the reader starts from. -/
theorem reads_toJson (p initial : Position) : Reads (shape.read initial) p.toJson.toList p := by
  have hkeys : p.members.map (·.key) = ["line", "column"] := rfl
  refine Shape.reads_object (fun _ => fits_of_mem_members) ?_ ?_ initial
  · rw [hkeys]
    decide
  · simp [shape, hkeys]

end Position

/-! ## Diagnostics -/

namespace Category

theorem ofText?_text (c : Category) : ofText? c.text = some c := by
  cases c
  all_goals rfl

theorem text_mem_words (c : Category) : c.text ∈ words := by
  cases c
  all_goals decide

theorem reads_text (c : Category) : Reads read (quoted c.text).toList c := by
  have hread := (reads_variant (text_mem_words c)).map fun word => (ofText? word).getD .message
  rwa [ofText?_text] at hread

end Category

namespace Diagnostic

/-- The file as a member, `null` if there is none. -/
def fileMember (r : Diagnostic) : Member Diagnostic :=
  ⟨"file", orNull (r.file.map fun f => quoted f.text), fun s => { s with file := r.file }⟩

/-- The position as a member, `null` if there is none. -/
def positionMember (r : Diagnostic) : Member Diagnostic :=
  ⟨"position", orNull (r.position.map Position.toJson), fun s => { s with position := r.position }⟩

/-- The members that every record has. -/
def ownMembers (r : Diagnostic) : List (Member Diagnostic) :=
  [⟨"category", quoted r.category.text, fun s => { s with category := r.category }⟩,
    ⟨"code", toString r.code, fun s => { s with code := r.code }⟩,
    ⟨"message", quoted r.message, fun s => { s with message := r.message }⟩]

/-- The members of a record. An absent file or position is left out unless it is to be given
as `null`. -/
def members (r : Diagnostic) (nullFile nullPosition : Bool) : List (Member Diagnostic) :=
  r.ownMembers ++ (if r.file.isSome || nullFile then [r.fileMember] else []) ++
    (if r.position.isSome || nullPosition then [r.positionMember] else [])

section

variable {r : Diagnostic} {m : Member Diagnostic}

theorem fits_fileMember : shape.Fits r.fileMember := by
  have hread := reads_optional_text "path string" (r.file.map (·.text))
  have hfile : (r.file.map (·.text)).map Path.mk = r.file := by
    cases r.file
    all_goals rfl
  have hfits : shape.Fits ⟨"file", _, _⟩ :=
    .of_reads (fun name (s : Diagnostic) => { s with file := name.map Path.mk }) rfl hread
  rwa [hfile, Option.map_map] at hfits

theorem fits_positionMember : shape.Fits r.positionMember := by
  have hread : ∀ p : Position, Reads (Position.shape.read ⟨0, 0⟩) p.toJson.toList p :=
    fun p => p.reads_toJson ⟨0, 0⟩
  have hhead : ∀ p : Position, ∃ c cs, p.toJson.toList = c :: cs ∧ isSpace c = false ∧ c ≠ 'n' :=
    fun p => ⟨'\x7b', _, Member.toList_object p.members, by decide, by decide⟩
  exact .of_reads (fun p (s : Diagnostic) => { s with position := p }) rfl
    (reads_optional hread hhead r.position)

theorem fits_of_mem_ownMembers (h : m ∈ r.ownMembers) : shape.Fits m := by
  simp only [ownMembers, List.mem_cons, List.not_mem_nil, or_false] at h
  rcases h with rfl | rfl | rfl
  · exact .of_reads (fun c (s : Diagnostic) => { s with category := c }) rfl
      (Category.reads_text r.category)
  · exact .of_reads (fun n (s : Diagnostic) => { s with code := n }) rfl (reads_word32 r.code)
  · exact .of_reads (fun text (s : Diagnostic) => { s with message := text }) rfl
      (reads_text _ r.message)

variable {nullFile nullPosition : Bool}

/-- All that can be among the members of a record. -/
theorem mem_allMembers (h : m ∈ r.members nullFile nullPosition) :
    m ∈ r.ownMembers ++ [r.fileMember, r.positionMember] := by
  simp only [members, List.mem_append] at h ⊢
  rcases h with (hown | hfile) | hposition
  · exact .inl hown
  · split at hfile
    · exact .inr (List.mem_cons.mpr (.inl (List.mem_singleton.mp hfile)))
    · cases hfile
  · split at hposition
    · exact .inr (List.mem_cons_of_mem _ hposition)
    · cases hposition

theorem fits_of_mem_members (h : m ∈ r.members nullFile nullPosition) : shape.Fits m := by
  rcases List.mem_append.mp (mem_allMembers h) with hown | hmore
  · exact fits_of_mem_ownMembers hown
  · simp only [List.mem_cons, List.not_mem_nil, or_false] at hmore
    rcases hmore with rfl | rfl
    · exact fits_fileMember
    · exact fits_positionMember

/-- Each member sets a field of its own. -/
theorem update_comm (h : m ∈ r.members nullFile nullPosition) {m' : Member Diagnostic}
    (h' : m' ∈ r.members nullFile nullPosition) (s : Diagnostic) :
    m'.update (m.update s) = m.update (m'.update s) := by
  have hall := mem_allMembers h
  have hall' := mem_allMembers h'
  simp only [ownMembers, List.cons_append, List.nil_append, List.mem_cons, List.not_mem_nil,
    or_false] at hall hall'
  rcases hall with rfl | rfl | rfl | rfl | rfl
  all_goals rcases hall' with rfl | rfl | rfl | rfl | rfl
  all_goals rfl

end

theorem keys_members (r : Diagnostic) (nullFile nullPosition : Bool) :
    (r.members nullFile nullPosition).map (·.key) = ["category", "code", "message"] ++
      (if r.file.isSome || nullFile then ["file"] else []) ++
      (if r.position.isSome || nullPosition then ["position"] else []) := by
  simp only [members, List.map_append, apply_ite (List.map Member.key)]
  rfl

/-- The members of a record are read back in any order, and so is `null` for what is absent. -/
theorem ofJson_members (r : Diagnostic) (nullFile nullPosition : Bool)
    {order : List (Member Diagnostic)} (hperm : order.Perm (r.members nullFile nullPosition)) :
    ofJson (Member.object order) = .ok r := by
  have hkeys : ((r.members nullFile nullPosition).map (·.key)).Nodup := by
    rw [keys_members]
    generalize (r.file.isSome || nullFile) = withFile
    generalize (r.position.isSome || nullPosition) = withPosition
    revert withFile withPosition
    decide
  have hrequired : ∀ field ∈ shape.fields, field.required = true →
      field.name ∈ (r.members nullFile nullPosition).map (·.key) := by
    simp [shape, keys_members]
  have happly : Member.apply (r.members nullFile nullPosition) ⟨.message, 0, "", none, none⟩ = r := by
    rcases r with ⟨category, code, message, file, position⟩
    cases file
    all_goals cases position
    all_goals cases nullFile
    all_goals cases nullPosition
    all_goals rfl
  have hread := Shape.reads_object_perm hperm (fun _ hm _ hm' => update_comm hm hm')
    (fun _ => fits_of_mem_members) hkeys hrequired ⟨.message, 0, "", none, none⟩
  rw [happly] at hread
  exact hread.run

/-- What is written leaves out what is absent. -/
theorem toJson_eq (r : Diagnostic) : r.toJson = Member.object (r.members false false) := by
  rcases r with ⟨category, code, message, file, position⟩
  cases file
  all_goals cases position
  all_goals rfl

end Diagnostic

/-- A record is read back from what is written for it, and one that was read from any text is
read again from what is written for it then. -/
theorem diagnostics_survive_json :
    (∀ r : Diagnostic, Diagnostic.ofJson r.toJson = .ok r) ∧
      ∀ text r, Diagnostic.ofJson text = .ok r → Diagnostic.ofJson r.toJson = .ok r := by
  have hback : ∀ r : Diagnostic, Diagnostic.ofJson r.toJson = .ok r := by
    intro r
    rw [r.toJson_eq]
    exact r.ofJson_members false false (List.Perm.refl _)
  exact ⟨hback, fun _ r _ => hback r⟩

/-- A text with its members in another order, spelt and spaced in another way, with `null` for a
position and with a member that no record has. -/
theorem diagnostics_survive_json_reordered :
    let text := "\x7b \"position\" : null, \"note\":[1], \"message\":\"a\\u0041\\n\", \"code\":7, " ++
      "\"category\":\x7b\"warning\":null\x7d \x7d"
    let r : Diagnostic := ⟨.warning, 7, "aA\n", none, none⟩
    Diagnostic.ofJson text = .ok r ∧
      r.toJson = "\x7b\"category\":\"warning\",\"code\":7,\"message\":\"aA\\n\"\x7d" ∧
      Diagnostic.ofJson r.toJson = .ok r := by
  intro text r
  have hread : Diagnostic.ofJson text = .ok r := eq_ok_of_toOption (by decide +kernel)
  exact ⟨hread, by decide +kernel, diagnostics_survive_json.2 text r hread⟩

end QuietEmit
