/-
  QuietEmit.Check.Redeclaration

  Names that are declared twice where that is not allowed. Variables declared by
  `var` count in every block up to the function around them. Members of a class are
  asked apart; a getter and a setter may share a name.
-/
import QuietEmit.Check.Functions
import QuietEmit.Syntax.Scope
import QuietEmit.Syntax.StringLiteral

namespace QuietEmit.Check

open Syntax

/-! ## What excludes what -/

/-- Where a name is declared. -/
structure Setting where
  /-- Types may be written. -/
  typed : Bool
  /-- Functions are declared like variables: in the outermost block of a function or script. -/
  merges : Bool
  /-- The text is not strict. -/
  sloppy : Bool

/-- Whether a function may not have a name that has another meaning. Without types nothing may come
before it but variables and functions that it merges with. -/
def functionConflicts (s : Setting) (plain : Bool) : Meaning → Bool
  | .function other => !(s.typed || s.merges || s.sloppy && plain && other)
  | .functionVariable | .catchVariable => s.typed || !s.merges
  | .class_ | .namespace_ true | .import_ => !s.typed
  | old => old.isValue

/-- Whether a name with an old meaning may not be declared again with a new one. -/
def conflicts (s : Setting) (new old : Meaning) : Bool :=
  match new with
  | .import_ => old == .import_
  | .function plain => functionConflicts s plain old
  | .functionVariable =>
    match old with
    | .functionVariable | .catchVariable | .function _ => false
    | _ => old.isValue
  | .blockVariable | .catchVariable => old.isValue
  | .class_ =>
    match old with
    | .typeAlias | .typeParameter => true
    | .namespace_ _ => false
    | .function _ => !s.typed
    | _ => old.isValue
  | .namespace_ instantiated =>
    match old with
    | .function _ | .class_ | .enum false | .namespace_ _ => false
    | _ => instantiated && old.isValue
  | .enum isConst =>
    match old with
    | .enum other => isConst != other
    | .namespace_ true => isConst
    | _ => old.isValue || old.isType
  | .interface => old.isType && old != .interface && old != .class_
  | .typeAlias => old.isType
  | .typeParameter => old.isType && old != .typeParameter

/-! ## Scopes -/

/-- What is known of a module besides its tree. -/
structure Text where
  typed : Bool
  isModule : Bool
  /-- Whether a place lies in strict text. -/
  isStrict : Nat → Bool

/-- The declarations that conflict with one before them, given those before. -/
def conflicting (text : Text) (merges : Bool) : List Declaration → List Declaration → List Finding
  | _, [] => []
  | before, d :: rest =>
    let setting : Setting := ⟨text.typed, merges, !text.isStrict d.place⟩
    let clash := before.any fun b =>
      b.name == d.name && conflicts setting d.meaning b.meaning
    (if clash then [⟨d.place, .redeclared d.name⟩] else []) ++
      conflicting text merges (d :: before) rest

/-- The findings among declarations, taken in the order of the text. -/
def amongDeclarations (text : Text) (merges : Bool) (ds : List Declaration) : List Finding :=
  conflicting text merges [] (ds.mergeSort fun a b => a.place ≤ b.place)

/-- The findings in a scope. -/
def inScope (text : Text) (s : NameScope) : List Finding :=
  let merges := match s.kind with
    | .function => true
    | .module => !text.isModule
    | .block => false
  amongDeclarations text merges (s.own ++ s.passing)

/-! ## What may not follow a function -/

/-- The classes, and the variables among `inBlocks`, whose name was last declared as a function,
given the declarations before them, the last one first. -/
def followers (inBlocks : List Declaration) : List Declaration → List Declaration → List Finding
  | _, [] => []
  | before, d :: rest =>
    let isAsked := d.meaning == .class_ || d.meaning == .functionVariable && inBlocks.contains d
    let follows := (before.find? (·.name == d.name)).any fun b =>
      match b.meaning with
      | .function _ => true
      | _ => false
    (if isAsked && follows then [⟨d.place, .redeclared d.name⟩] else []) ++
      followers inBlocks (d :: before) rest

/-- The classes, and the variables declared in blocks, that follow a function of the same name in
one of the scopes. -/
def functionFollowers (scopes : List NameScope) : List Finding :=
  let inBlocks := (scopes.filter fun s => s.kind == .block).flatMap NameScope.passing
  (scopes.flatMap fun s =>
    followers inBlocks [] ((s.own ++ s.passing).mergeSort fun a b => a.place ≤ b.place)).eraseDups

/-! ## Names of classes -/

/-- The type parameters with the name of their class, where the class is an expression: there both
belong to the class. `isStatement` says whether the tree is a statement, or a list of them. -/
def ownNameStep (form : Form) (_ : Span) (parts : List (Tree × (Bool → List Finding)))
    (isStatement : Bool) : List Finding :=
  let tree (i : Nat) : Tree := ((parts[i]?).map Prod.fst).getD Tree.none
  let holds (part : Nat) : Bool :=
    match form with
    | .program | .functionBody | .namespaceBody | .case => part == 1
    | .block | .staticBlock => true
    | .exportNamed _ | .exportDefault => part == 0
    | .list => isStatement
    | _ => false
  let inside := parts.zipIdx.flatMap fun (p, i) => p.2 (holds i)
  match form with
  | .class_ _ _ =>
    let clashes := (Declaration.ofTypeParameters (tree 2)).filter fun d =>
      !isStatement && (tree 1).name? == some d.name
    inside ++ clashes.map fun d => ⟨d.place, .redeclared d.name⟩
  | _ => inside

/-! ## Lists that cannot repeat a name -/

/-- Members of an enumeration with the name of one before them. -/
def repeatedNames : List String → List Tree → List Finding
  | _, [] => []
  | before, m :: rest =>
    let n? := match (m.part 0).form with
      | .identifier n | .string n _ => some n
      | .template [text] => some (StringLiteral.templateText text)
      | _ => none
    match n? with
    | some n =>
      (if before.contains n then [⟨m.span.start, .redeclared n⟩] else []) ++
        repeatedNames (n :: before) rest
    | none => repeatedNames before rest

/-- Parameters that have the name of one before them. -/
def repeatedParameters (text : Text) (params : Tree) : List Finding :=
  amongDeclarations text true (Declaration.ofPattern .blockVariable params)

/-- The repeated names in a tree from those of its parts. Only plain names of the parameters of a
function that is no method and not strict may be repeated. -/
def repeatedStep (text : Text) (form : Form) (_ : Span) (parts : List (Tree × List Finding)) :
    List Finding :=
  let tree (i : Nat) : Tree := ((parts[i]?).map Prod.fst).getD Tree.none
  let inside := parts.flatMap Prod.snd
  match form with
  | .function _ =>
    let mayRepeat := (tree 2).parts.all isPlainParameter
    inside ++ (repeatedParameters text (tree 2)).filter fun f =>
      !mayRepeat || text.isStrict f.place
  -- Methods may never repeat a parameter.
  | .method _ _ => inside ++ repeatedParameters text ((tree 2).part 2)
  | .methodProperty _ _ => inside ++ repeatedParameters text ((tree 1).part 2)
  | .arrow _ | .functionType | .constructorType _ | .callSignature | .constructSignature =>
    inside ++ repeatedParameters text (tree 1)
  | .methodSignature _ _ => inside ++ repeatedParameters text (tree 2)
  | .enum _ _ => inside ++ repeatedNames [] (tree 1).parts
  | _ => inside

/-- The names that are declared twice in a module. -/
def redeclarations (text : Text) (t : Tree) : List Finding :=
  let scopes := t.scopes
  (scopes.flatMap (inScope text) ++ t.recurse (repeatedStep text)).eraseDups ++
    t.recurse ownNameStep false ++ if text.typed then [] else functionFollowers scopes

/-! ## Members of classes -/

/-- A member of a class as far as names are concerned. -/
structure Member where
  name : String
  isPrivate : Bool
  isStatic : Bool
  /-- `get` or `set` for an accessor. -/
  accessor : Option MethodKind
deriving DecidableEq, Repr, Inhabited

namespace Member

/-- The name of a key that is known without running the module. -/
def keyName? (key : Tree) (computed : Bool) : Option (String × Bool) :=
  match key with
  | .node (.identifier n) _ _ => if computed then none else some (n, false)
  | .node (.privateName n) _ _ => some (n, true)
  | .node (.string n _) _ _ | .node (.number n) _ _ | .node (.bigint n) _ _ => some (n, false)
  | .node (.template [text]) _ [] => some (text, false)
  | _ => none

/-- The member that a tree declares. Constructors, and methods without bodies, are none. -/
def ofTree? (t : Tree) : Option Member :=
  match t.form with
  | .field m =>
    (keyName? (t.part 1) m.isComputed).map fun (n, p) => ⟨n, p, m.isStatic, none⟩
  | .method kind m =>
    if kind == .constructor_ || ((t.part 2).part 4).isAbsent then none
    else
      let accessor := if kind == .get || kind == .set then some kind else none
      (keyName? (t.part 1) m.isComputed).map fun (n, p) => ⟨n, p, m.isStatic, accessor⟩
  | _ => none

/-- Whether a member may not follow an earlier one of the same name. Without types only private
members are asked. -/
def clashes (typed : Bool) (earlier m : Member) : Bool :=
  let sameRole :=
    if earlier.accessor.isSome && m.accessor.isSome then
      earlier.accessor == m.accessor || earlier.isStatic != m.isStatic
    else true
  earlier.isPrivate == m.isPrivate && sameRole &&
    if typed then earlier.isStatic == m.isStatic else m.isPrivate

/-- The names of members that clash with the last one of that name before them; `earlier` is
reversed. -/
def clashing (typed : Bool) : List Member → List Member → List String
  | _, [] => []
  | earlier, m :: rest =>
    let clash := (earlier.find? (·.name == m.name)).any fun e => clashes typed e m
    (if clash then [m.name] else []) ++ clashing typed (m :: earlier) rest

end Member

/-- The names of members declared twice, for each class in a tree from the outside in. -/
def memberStep (typed : Bool) (form : Form) (_ : Span) (parts : List (Tree × List String)) :
    List String :=
  let inside := parts.flatMap Prod.snd
  match form with
  | .class_ _ _ =>
    let members := ((parts.map Prod.fst).getD 6 .none).parts.filterMap Member.ofTree?
    Member.clashing typed [] members ++ inside
  | _ => inside

/-- The members of classes that are declared twice in a module. -/
def repeatedMembers (typed : Bool) (t : Tree) : List Finding :=
  (t.recurse (memberStep typed)).map fun n => ⟨t.span.stop, .redeclared n⟩

end QuietEmit.Check
