/-
  QuietEmit.Proofs.Json.Members

  Reading objects and lists that were written. An object is read member by member: if
  each of them is read as some change of the record, the object is read as all of these
  changes one after the other, in the order of the text (`Shape.reads_object`). Where the
  order of the changes does not matter, that of the members does not either
  (`Shape.reads_object_perm`). A list is read element by element: if each of them is read
  back, the list is read back with its elements in the same order (`reads_list`).
-/
import Mathlib.Data.List.Nodup
import QuietEmit.Proofs.Json.Written

namespace QuietEmit.Json

namespace Reader

/-! ## Members in a text -/

/-- A member of an object: how it is written, and what it changes in the record. -/
structure Member (σ : Type) where
  key : String
  text : String
  update : σ → σ

variable {σ : Type}

namespace Member

/-- The object of some members. -/
def object (ms : List (Member σ)) : String := Json.object (ms.map fun m => (m.key, m.text))

/-- The record after the changes of some members. -/
def apply (ms : List (Member σ)) (initial : σ) : σ :=
  ms.foldl (fun state m => m.update state) initial

/-- The member as characters. -/
def chars (m : Member σ) : List Char := (quoted m.key).toList ++ ':' :: m.text.toList

/-- What stands in front of a member or an element: a comma, unless it is the first. -/
def lead (first : Bool) : List Char := if first then [] else [',']

/-- Texts one after the other, with what stands in front of each. -/
def separated : Bool → List (List Char) → List Char
  | _, [] => []
  | first, t :: ts => lead first ++ t ++ separated false ts

theorem intercalate_eq_separated (ts : List (List Char)) :
    [','].intercalate ts = separated true ts := by
  cases ts with
  | nil => rfl
  | cons t ts =>
      induction ts generalizing t with
      | nil => simp [separated, lead]
      | cons t' ts ih =>
          rw [List.intercalate_cons_cons, ih t']
          simp [separated, lead]

/-- Texts that are not empty take a character each at least. -/
theorem length_le_separated {ts : List (List Char)} (hne : ∀ t ∈ ts, t ≠ []) (first : Bool) :
    ts.length ≤ (separated first ts).length := by
  induction ts generalizing first with
  | nil => exact Nat.le_refl _
  | cons t ts ih =>
      obtain ⟨ht, hts⟩ := List.forall_mem_cons.mp hne
      have hpos := List.length_pos_of_ne_nil ht
      have hle := ih hts false
      rw [separated, List.length_append, List.length_append, List.length_cons]
      omega

/-- The members of an object as characters. -/
def run : Bool → List (Member σ) → List Char
  | _, [] => []
  | first, m :: ms => lead first ++ m.chars ++ run false ms

theorem run_eq_separated (first : Bool) (ms : List (Member σ)) :
    run first ms = separated first (ms.map chars) := by
  induction ms generalizing first with
  | nil => rfl
  | cons m ms ih => rw [run, ih, List.map_cons, separated]

theorem toList_object (ms : List (Member σ)) :
    (object ms).toList = '\x7b' :: run true ms ++ ['\x7d'] := by
  have hopen : "\x7b".toList = ['\x7b'] := by decide
  have hcomma : ",".toList = [','] := by decide
  have hclose : "\x7d".toList = ['\x7d'] := by decide
  have hobject : object ms = "\x7b" ++ ",".intercalate
      ((ms.map fun m => (m.key, m.text)).map fun p => quoted p.1 ++ ":" ++ p.2) ++ "\x7d" := rfl
  have hmembers : ((ms.map fun m => (m.key, m.text)).map fun p => quoted p.1 ++ ":" ++ p.2).map
      String.toList = ms.map chars := by
    rw [List.map_map, List.map_map]
    refine List.map_congr_left fun m _ => ?_
    simp [chars]
  rw [hobject, String.toList_append, String.toList_append, String.toList_intercalate, hmembers,
    hcomma, intercalate_eq_separated, ← run_eq_separated, hopen, hclose, List.singleton_append]

/-- What comes after a member in an object. -/
theorem endsValue_run (ms : List (Member σ)) (rest : List Char) :
    EndsValue (run false ms ++ '\x7d' :: rest) := by
  cases ms with
  | nil => exact endsValue_brace rest
  | cons m ms => exact endsValue_comma _

end Member

namespace Shape

variable {shape : Shape σ}

/-- The shape has a field of the member's name, and this reads the member as its change. -/
def Fits (shape : Shape σ) (m : Member σ) : Prop :=
  ∃ field, shape.fields.find? (·.name == m.key) = some field ∧
    ∀ state, Reads (field.read state) m.text.toList (m.update state)

/-- A field that is set to what its reader gives fits a member that this reader reads. -/
theorem Fits.of_reads {α : Type} {name text : String} {required : Bool} {r : Reader α} {a : α}
    (set : α → σ → σ)
    (hfield : shape.fields.find? (·.name == name) =
      some ⟨name, required, fun state => do return set (← r) state⟩)
    (h : Reads r text.toList a) : shape.Fits ⟨name, text, set a⟩ :=
  ⟨_, hfield, fun state => h.map fun a => set a state⟩

/-! ## Reading the members -/

variable {first : Bool} {rest : List Char} {i : Nat}

theorem succeeds_moreMembers_brace {P : Bool → Cursor → Prop} :
    Succeeds (moreMembers first) ⟨'\x7d' :: rest, i⟩ P ↔ P false ⟨'\x7d' :: rest, i⟩ := by
  rw [moreMembers, succeeds_bind, succeeds_peekToken (by decide)]
  exact succeeds_pure

theorem succeeds_moreMembers_quote {P : Bool → Cursor → Prop} (h : ∀ j, P true ⟨'"' :: rest, j⟩) :
    Succeeds (moreMembers first) ⟨Member.lead first ++ '"' :: rest, i⟩ P := by
  rw [moreMembers, succeeds_bind]
  cases first with
  | true =>
      rw [Member.lead, if_pos rfl, List.nil_append, succeeds_peekToken (by decide)]
      exact succeeds_pure.mpr (h i)
  | false =>
      rw [Member.lead, if_neg (by decide), List.singleton_append, succeeds_peekToken (by decide)]
      split
      · next heq => cases heq
      · next heq => exact absurd (Option.some.inj heq) (by decide)
      · next heq =>
        obtain rfl := Option.some.inj heq
        simp only [Bool.false_eq_true, if_false, beq_self_eq_true, if_true, succeeds_bind,
          succeeds_eat]
        rw [succeeds_peekToken (by decide)]
        exact succeeds_pure.mpr (h _)

theorem succeeds_colon {P : Unit → Cursor → Prop} (h : ∀ j, P () ⟨rest, j⟩) :
    Succeeds colon ⟨':' :: rest, i⟩ P := by
  rw [colon, succeeds_bind, succeeds_peekToken (by decide)]
  exact succeeds_eat.mpr (h _)

/-- One member, and then what is left of the object. -/
theorem Fits.succeeds_members {m : Member σ} (hfits : shape.Fits m) {seen : List String}
    (hnew : m.key ∉ seen) (hrest : EndsValue rest) {fuel : Nat} {state : σ}
    {P : σ → Cursor → Prop}
    (h : ∀ j, Succeeds (shape.members fuel false (m.key :: seen) (m.update state)) ⟨rest, j⟩ P) :
    Succeeds (shape.members (fuel + 1) first seen state)
      ⟨Member.lead first ++ m.chars ++ rest, i⟩ P := by
  obtain ⟨field, hfield, hread⟩ := hfits
  have hquote := toList_quoted m.key (':' :: m.text.toList ++ rest)
  rw [Member.chars, List.append_assoc, List.append_assoc, hquote, members, succeeds_bind]
  refine succeeds_moreMembers_quote fun j => ?_
  rw [if_pos rfl, succeeds_bind, ← hquote]
  refine succeeds_stringToken fun j => ?_
  have hunseen : seen.contains m.key = false := by simpa using hnew
  simp only [hfield, hunseen, Bool.false_eq_true, if_false, succeeds_bind]
  refine succeeds_colon fun j => ?_
  refine (hread state rest j hrest).mono ?_
  rintro _ ⟨_, k⟩ ⟨rfl, rfl⟩
  exact h k

/-- The members are read as their changes, one after the other. The induction is on the members,
with the keys seen so far; no key comes twice. -/
theorem succeeds_members {ms : List (Member σ)} (hfits : ∀ m ∈ ms, shape.Fits m)
    {seen : List String} (hkeys : (ms.map (·.key) ++ seen).Nodup)
    (hrequired : ∀ field ∈ shape.fields, field.required = true →
      field.name ∈ ms.map (·.key) ++ seen)
    {fuel : Nat} (hfuel : ms.length < fuel) {state : σ} :
    Succeeds (shape.members fuel first seen state) ⟨Member.run first ms ++ '\x7d' :: rest, i⟩
      fun a s' => a = Member.apply ms state ∧ s'.rest = '\x7d' :: rest := by
  induction ms generalizing fuel first seen state i with
  | nil =>
      obtain ⟨fuel, rfl⟩ := Nat.exists_eq_add_one_of_ne_zero (Nat.ne_of_gt hfuel)
      have hall : (shape.fields.find? fun f => f.required && !seen.contains f.name) = none := by
        rw [List.find?_eq_none]
        intro field hfield
        have hseen := hrequired field hfield
        simpa using hseen
      rw [Member.run, List.nil_append, members, succeeds_bind, succeeds_moreMembers_brace]
      rw [if_neg (by decide), hall]
      exact succeeds_pure.mpr ⟨rfl, rfl⟩
  | cons m ms ih =>
      obtain ⟨fuel, rfl⟩ := Nat.exists_eq_add_one_of_ne_zero (Nat.ne_of_gt (Nat.zero_lt_of_lt hfuel))
      obtain ⟨hm, hms⟩ := List.forall_mem_cons.mp hfits
      rw [List.map_cons, List.cons_append] at hkeys
      have hnew : m.key ∉ seen := fun hmem =>
        (List.nodup_cons.mp hkeys).1 (List.mem_append_right _ hmem)
      rw [Member.run, List.append_assoc]
      refine hm.succeeds_members hnew (Member.endsValue_run ms rest) fun j => ?_
      refine ih hms (List.nodup_middle.mpr hkeys) ?_ (Nat.lt_of_succ_lt_succ hfuel)
      intro field hfield hreq
      have hmem := hrequired field hfield hreq
      exact List.perm_middle.mem_iff.mpr hmem

theorem length_le_run (first : Bool) (ms : List (Member σ)) :
    ms.length ≤ (Member.run first ms).length := by
  have hne : ∀ t ∈ ms.map Member.chars, t ≠ [] := by
    simp [Member.chars]
  have hle := Member.length_le_separated hne first
  rwa [List.length_map, ← Member.run_eq_separated] at hle

theorem succeeds_endObject {P : Unit → Cursor → Prop} (h : ∀ j, P () ⟨rest, j⟩) :
    Succeeds endObject ⟨'\x7d' :: rest, i⟩ P := by
  rw [endObject, succeeds_bind, succeeds_peekToken (by decide)]
  exact succeeds_eat.mpr (h _)

/-- An object of members that all fit, none twice and no required one missing, is read as the
changes of its members. -/
theorem reads_object {ms : List (Member σ)} (hfits : ∀ m ∈ ms, shape.Fits m)
    (hkeys : (ms.map (·.key)).Nodup)
    (hrequired : ∀ field ∈ shape.fields, field.required = true → field.name ∈ ms.map (·.key))
    (initial : σ) :
    Reads (shape.read initial) (Member.object ms).toList (Member.apply ms initial) := by
  intro rest i _
  rw [Member.toList_object, List.append_assoc, List.cons_append, List.singleton_append, read,
    succeeds_bind, succeeds_valueToken (by decide)]
  refine Succeeds.placed (Succeeds.followedBy ?_)
  simp only [succeeds_bind, succeeds_eat, succeeds_get]
  have hfuel := length_le_run true ms
  refine (succeeds_members hfits (by rwa [List.append_nil]) (by rwa [List.append_nil]) ?_).mono ?_
  -- every member takes a character at least, so there is fuel for all of them
  · rw [List.length_append]
    omega
  · rintro _ ⟨_, j⟩ ⟨rfl, rfl⟩
    exact succeeds_endObject fun k => ⟨rfl, rfl⟩

/-- If the order of the changes does not matter, neither does that of the members. -/
theorem reads_object_perm {ms order : List (Member σ)} (hperm : order.Perm ms)
    (hcomm : ∀ m ∈ ms, ∀ m' ∈ ms, ∀ state, m'.update (m.update state) = m.update (m'.update state))
    (hfits : ∀ m ∈ ms, shape.Fits m) (hkeys : (ms.map (·.key)).Nodup)
    (hrequired : ∀ field ∈ shape.fields, field.required = true → field.name ∈ ms.map (·.key))
    (initial : σ) :
    Reads (shape.read initial) (Member.object order).toList (Member.apply ms initial) := by
  have hkeysPerm := hperm.map (·.key)
  have happly : Member.apply order initial = Member.apply ms initial :=
    hperm.foldl_eq' (fun m hm m' hm' state =>
      hcomm m (hperm.mem_iff.mp hm) m' (hperm.mem_iff.mp hm') state) initial
  rw [← happly]
  refine reads_object (fun m hm => hfits m (hperm.mem_iff.mp hm))
    (hkeysPerm.nodup_iff.mpr hkeys) ?_ initial
  intro field hfield hreq
  exact hkeysPerm.mem_iff.mpr (hrequired field hfield hreq)

end Shape

section

open Member (lead separated)

variable {α : Type}

/-! ## Lists in a text -/

theorem toList_array (write : α → String) (as : List α) :
    (array (as.map write)).toList =
      '[' :: separated true (as.map fun a => (write a).toList) ++ [']'] := by
  have hopen : "[".toList = ['['] := by decide
  have hcomma : ",".toList = [','] := by decide
  have hclose : "]".toList = [']'] := by decide
  have helements : (as.map write).map String.toList = as.map fun a => (write a).toList := by
    rw [List.map_map]
    rfl
  rw [array, String.toList_append, String.toList_append, String.toList_intercalate, helements,
    hcomma, Member.intercalate_eq_separated, hopen, hclose, List.singleton_append]

theorem endsValue_bracket (rest : List Char) : EndsValue (']' :: rest) := by
  rintro c ⟨⟩
  exact .inr (.inl rfl)

/-- What comes after an element in a list. -/
theorem endsValue_separated (ts : List (List Char)) (rest : List Char) :
    EndsValue (separated false ts ++ ']' :: rest) := by
  cases ts with
  | nil => exact endsValue_bracket rest
  | cons t ts => exact endsValue_comma _

/-- A text that begins like a value: neither with white space nor like the end of a list. -/
def BeginsElement (text : List Char) : Prop :=
  ∃ c cs, text = c :: cs ∧ isSpace c = false ∧ c ≠ ']'

theorem BeginsElement.append {text : List Char} (h : BeginsElement text) (more : List Char) :
    BeginsElement (text ++ more) := by
  obtain ⟨c, cs, rfl, hc⟩ := h
  exact ⟨c, cs ++ more, rfl, hc⟩

theorem BeginsElement.ne_nil {text : List Char} (h : BeginsElement text) : text ≠ [] := by
  obtain ⟨c, cs, rfl, -⟩ := h
  exact List.cons_ne_nil c cs

/-! ## Reading the elements -/

variable {first : Bool} {rest : List Char} {i : Nat}

theorem succeeds_moreElements_bracket {P : Bool → Cursor → Prop} :
    Succeeds (moreElements first) ⟨']' :: rest, i⟩ P ↔ P false ⟨']' :: rest, i⟩ := by
  rw [moreElements, succeeds_bind, succeeds_peekToken (by decide)]
  exact succeeds_pure

theorem succeeds_moreElements {text : List Char} (hbegins : BeginsElement text)
    {P : Bool → Cursor → Prop} (h : ∀ j, P true ⟨text, j⟩) :
    Succeeds (moreElements first) ⟨lead first ++ text, i⟩ P := by
  obtain ⟨c, cs, rfl, hspace, hend⟩ := hbegins
  have hnext : some c ≠ some ']' := fun heq => hend (Option.some.inj heq)
  rw [moreElements, succeeds_bind]
  cases first with
  | true =>
      rw [lead, if_pos rfl, List.nil_append, succeeds_peekToken hspace]
      split
      · next heq => cases heq
      · next heq => exact absurd heq hnext
      · exact succeeds_pure.mpr (h i)
  | false =>
      rw [lead, if_neg (by decide), List.singleton_append, succeeds_peekToken (by decide)]
      split
      · next heq => cases heq
      · next heq => exact absurd (Option.some.inj heq) (by decide)
      · next heq =>
        obtain rfl := Option.some.inj heq
        simp only [Bool.false_eq_true, if_false, beq_self_eq_true, if_true, succeeds_bind,
          succeeds_eat]
        rw [succeeds_peekToken hspace]
        split
        · next heq => exact absurd heq hnext
        · exact succeeds_pure.mpr (h _)
        · next heq => cases heq

theorem succeeds_endList {P : Unit → Cursor → Prop} (h : ∀ j, P () ⟨rest, j⟩) :
    Succeeds endList ⟨']' :: rest, i⟩ P := by
  rw [endList, succeeds_bind, succeeds_peekToken (by decide)]
  exact succeeds_eat.mpr (h _)

variable {r : Reader α} {write : α → String} {as : List α}

/-- The elements are read back one after the other. The induction is on the elements. -/
theorem succeeds_elements (hreads : ∀ a ∈ as, Reads r (write a).toList a)
    (hbegins : ∀ a ∈ as, BeginsElement (write a).toList) {fuel : Nat} (hfuel : as.length < fuel) :
    Succeeds (elements r fuel first)
      ⟨separated first (as.map fun a => (write a).toList) ++ ']' :: rest, i⟩
      fun as' s' => as' = as ∧ s'.rest = ']' :: rest := by
  induction as generalizing fuel first i with
  | nil =>
      obtain ⟨fuel, rfl⟩ := Nat.exists_eq_add_one_of_ne_zero (Nat.ne_of_gt hfuel)
      rw [List.map_nil, separated, List.nil_append, elements, succeeds_bind,
        succeeds_moreElements_bracket, if_neg (by decide)]
      exact succeeds_pure.mpr ⟨rfl, rfl⟩
  | cons a as ih =>
      obtain ⟨fuel, rfl⟩ := Nat.exists_eq_add_one_of_ne_zero (Nat.ne_of_gt (Nat.zero_lt_of_lt hfuel))
      obtain ⟨hread, hrest⟩ := List.forall_mem_cons.mp hreads
      obtain ⟨hbegin, hbeginRest⟩ := List.forall_mem_cons.mp hbegins
      rw [List.map_cons, separated, List.append_assoc, List.append_assoc, elements, succeeds_bind]
      refine succeeds_moreElements (hbegin.append _) fun j => ?_
      rw [if_pos rfl]
      refine (hread _ j (endsValue_separated _ rest)).bind ?_
      rintro _ ⟨_, k⟩ ⟨rfl, rfl⟩
      refine (ih hrest hbeginRest (Nat.lt_of_succ_lt_succ hfuel)).bind ?_
      rintro _ s' ⟨rfl, hs'⟩
      exact succeeds_pure.mpr ⟨rfl, hs'⟩

/-- A written list is read back, its elements in the same order. -/
theorem reads_list (hreads : ∀ a ∈ as, Reads r (write a).toList a)
    (hbegins : ∀ a ∈ as, BeginsElement (write a).toList) :
    Reads (list r) (array (as.map write)).toList as := by
  intro rest i _
  rw [toList_array, List.append_assoc, List.cons_append, List.singleton_append, list, succeeds_bind,
    succeeds_valueToken (by decide), if_neg (by decide)]
  refine Succeeds.placed (Succeeds.followedBy ?_)
  simp only [succeeds_bind, succeeds_eat, succeeds_get]
  -- every element takes a character at least, so there is fuel for all of them
  have hne : ∀ t ∈ as.map fun a => (write a).toList, t ≠ [] := by
    intro t ht
    obtain ⟨a, ha, rfl⟩ := List.mem_map.mp ht
    exact (hbegins a ha).ne_nil
  have hfuel := Member.length_le_separated hne true
  rw [List.length_map] at hfuel
  refine (succeeds_elements hreads hbegins ?_).mono ?_
  · rw [List.length_append]
    omega
  · rintro _ ⟨_, j⟩ ⟨rfl, rfl⟩
    exact succeeds_endList fun k => ⟨rfl, rfl⟩

end

end Reader

end QuietEmit.Json
