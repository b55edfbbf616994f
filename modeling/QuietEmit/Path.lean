/-
  QuietEmit.Path

  Slash-separated paths. A path keeps its spelling; what it names is its list of
  components, in which repeated slashes, trailing slashes and inner `.` parts do
  not show. Comparison and containment go by components.
-/
import QuietEmit.Text

namespace QuietEmit

/-- A path as spelt. -/
structure Path where
  text : String
deriving DecidableEq, Repr, Inhabited

/-- One step of a path, in the order used for sorting. -/
inductive Component where
  | root
  | here
  | up
  | name (text : String)
deriving DecidableEq, Repr

namespace Component

/-- How a component is written between slashes. -/
def text : Component → String
  | .root => "/"
  | .here => "."
  | .up => ".."
  | .name s => s

/-- Position of the kind of component in the sort order. -/
def rank : Component → Nat
  | .root => 0
  | .here => 1
  | .up => 2
  | .name _ => 3

/-- Components sort by kind, then names by code point. -/
def cmp (a b : Component) : Ordering :=
  match a, b with
  | .name s, .name t => compare s t
  | a, b => compare a.rank b.rank

/-- Whether the component is an ordinary name. -/
def isName : Component → Bool
  | .name _ => true
  | _ => false

end Component

namespace Path

/-! ## Components -/

/-- Whether the path starts at the root. -/
def isAbsolute (p : Path) : Bool := p.text.toList.head? == some '/'

/-- The parts between slashes, after the leading slash of an absolute path. -/
def parts (p : Path) : List (List Char) :=
  match p.text.toList with
  | '/' :: cs => cs.splitOn '/'
  | cs => cs.splitOn '/'

/-- A part that names no step once it is not the first of a relative path. -/
def isIdle (part : List Char) : Bool := part == [] || part == ['.']

/-- The component a non-idle part stands for. -/
def componentOf (part : List Char) : Component :=
  if part == ['.', '.'] then .up
  else if part == ['.'] then .here
  else .name (String.ofList part)

/-- The steps of the path; a leading `.` of a relative path counts as one. -/
def components (p : Path) : List Component :=
  let steps (parts : List (List Char)) := (parts.filter (!isIdle ·)).map componentOf
  if p.isAbsolute then .root :: steps p.parts
  else match p.parts with
    | ['.'] :: rest => .here :: steps rest
    | parts => steps parts

/-- Two paths name the same place by spelling alone. -/
def same (a b : Path) : Bool := a.components == b.components

/-- Component-wise order, used wherever paths are sorted. -/
def cmp (a b : Path) : Ordering := List.compareLex Component.cmp a.components b.components

/-- `a` comes before `b` or has the same components. -/
def le (a b : Path) : Bool := a.cmp b != .gt

/-- Write components with single slashes. -/
def ofComponents (cs : List Component) : Path :=
  match cs with
  | .root :: rest => ⟨"/" ++ "/".intercalate (rest.map Component.text)⟩
  | cs => ⟨"/".intercalate (cs.map Component.text)⟩

/-! ## Normal form -/

/-- Take one more step on top of the reversed normal form built so far. -/
def pushStep (done : List Component) : Component → List Component
  | .here => done
  | .up =>
    match done with
    | .root :: _ => done
    | .name _ :: rest => rest
    | _ => .up :: done
  | c => c :: done

/-- Remove `.` steps and cancel `..` against the name before it. -/
def normalize (cs : List Component) : List Component :=
  (cs.foldl pushStep []).reverse

/-- Lexical normal form; the empty path becomes `.`. -/
def clean (p : Path) : Path :=
  match normalize p.components with
  | [] => ⟨"."⟩
  | cs => ofComponents cs

/-- A path in the spelling that `clean` produces. -/
def isClean (p : Path) : Bool := p.clean == p

/-! ## Joining and taking apart -/

/-- Append `rel` below `p`; an absolute `rel` stands for itself. -/
def join (p rel : Path) : Path :=
  if rel.isAbsolute then rel
  else if p.text.isEmpty || p.text.toList.getLast? == some '/' then ⟨p.text ++ rel.text⟩
  else ⟨p.text ++ "/" ++ rel.text⟩

/-- Spell parts again, after a leading slash when `absolute`. -/
def ofParts (absolute : Bool) (parts : List (List Char)) : Path :=
  let body := ['/'].intercalate parts
  ⟨String.ofList (if absolute then '/' :: body else body)⟩

/-- Parts in reverse, without the idle ones at the end; a relative path's first
part is never idle unless it is empty. -/
def trimmedParts (p : Path) : List (List Char) :=
  let rec trim : List (List Char) → List (List Char)
    | [] => []
    | [part] => if part == [] || (p.isAbsolute && isIdle part) then [] else [part]
    | part :: rest => if isIdle part then trim rest else part :: rest
  trim p.parts.reverse

/-- The path without its last step; `none` for the root and the empty path. -/
def parent (p : Path) : Option Path :=
  match p.trimmedParts with
  | [] => none
  | _ :: rest =>
    let kept : Path := ofParts p.isAbsolute rest.reverse
    some (ofParts p.isAbsolute kept.trimmedParts.reverse)

/-- The directory part used as a base, empty when there is no parent. -/
def parentOrEmpty (p : Path) : Path := p.parent.getD ⟨""⟩

/-- The last step, when it is a name. -/
def fileName (p : Path) : Option String :=
  match p.components.getLast? with
  | some (.name s) => some s
  | _ => none

/-- The text before and after the last dot, when something stands before it. -/
def splitLastDot (s : String) : Option (String × String) :=
  let cs := s.toList.reverse
  let after := cs.takeWhile (· != '.')
  match cs.dropWhile (· != '.') with
  | '.' :: before =>
    if before.isEmpty then none
    else some (String.ofList before.reverse, String.ofList after.reverse)
  | _ => none

/-- The text after the last dot of the file name, unless the dot comes first. -/
def extension (p : Path) : Option String :=
  p.fileName.bind fun s => (splitLastDot s).map Prod.snd

/-- The file name up to its last dot, unless the dot comes first. -/
def fileStem (p : Path) : Option String :=
  p.fileName.map fun s => ((splitLastDot s).map Prod.fst).getD s

/-- Drop what `rest` matches of the parts, one per component. -/
def dropSteps : List Component → List (List Char) → Option (List (List Char))
  | [], parts => some parts
  | _ :: _, [] => none
  | c :: cs, part :: parts =>
    if isIdle part then dropSteps (c :: cs) parts
    else if componentOf part == c then dropSteps cs parts
    else none

/-- What is left of the spelling of `p` below `base`, if `base` is above it. -/
def below? (p base : Path) : Option Path :=
  let finish (parts : List (List Char)) : Path :=
    ofParts false ((parts.dropWhile isIdle).reverse.dropWhile isIdle).reverse
  if base.components.isEmpty then some (ofParts p.isAbsolute p.trimmedParts.reverse)
  else match base.components, p.isAbsolute with
    | .root :: steps, true => (dropSteps steps p.parts).map finish
    | .root :: _, false => none
    | _, true => none
    | .here :: steps, false =>
      match p.parts with
      | ['.'] :: parts => (dropSteps steps parts).map finish
      | _ => none
    | steps, false =>
      match p.parts with
      | ['.'] :: _ => none
      | parts => (dropSteps steps parts).map finish

/-- The steps from the place `base` to the place `p`, both below the same root; `none` where
`base` goes up in a part that they do not share. -/
def relativeTo? (p base : Path) : Option Path :=
  let rec steps : List Component → List Component → Option (List Component)
    | [], [] => some []
    | a, [] => some a
    | [], bs => some (bs.map fun _ => .up)
    | a :: as, b :: bs =>
      if a == b then steps as bs
      else if b == .up then none
      else some (.up :: bs.map (fun _ => .up) ++ a :: as)
  (steps p.components base.components).map ofComponents

/-- Whether the components of `base` begin those of `p`. -/
def startsWith (p base : Path) : Bool := base.components.isPrefixOf p.components

/-- Replace the extension of the last step; an empty one removes it. -/
def withExtension (p : Path) (ext : String) : Path :=
  match p.fileStem, p.trimmedParts with
  | some stem, _ :: rest =>
    let name := if ext.isEmpty then stem else stem ++ "." ++ ext
    ofParts p.isAbsolute (name.toList :: rest).reverse
  | _, _ => p

end Path

instance : ToString Path := ⟨Path.text⟩

end QuietEmit
