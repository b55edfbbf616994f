/-
  QuietEmit.Check.Names

  Words that strict text reserves, used as names all the same, and the name
  `arguments` where there are none.
-/
import QuietEmit.Check.Fault
import QuietEmit.Syntax.Names

namespace QuietEmit.Check

open Syntax

/-- Words that are no names in modules. -/
def strictWords : List String :=
  ["await", "implements", "interface", "let", "package", "private", "protected", "public",
    "static", "yield"]

/-- What surrounds a name. -/
structure NameContext where
  /-- The names that are bound here exist elsewhere; any word will do. -/
  free : Bool := false
  /-- The word that declares the variables of a block, in their names and their values. -/
  lexical : Option String := none
  /-- The name here is bound, not used. -/
  isBound : Bool := false
  /-- Directly in the body of a namespace; any word will do. -/
  inNamespace : Bool := false
  /-- The part of a class around that has no arguments. -/
  noArguments : Option String := none
deriving Inhabited

/-- Whether a part binds the names that its whole binds. -/
def bindsOn (form : Form) (part : Nat) : Bool :=
  match form with
  | .declarator _ | .binding _ | .defaulted | .rest => part == 0
  | .property _ _ => part == 1
  | .objectPattern | .arrayPattern => true
  | _ => false

/-- Whether the names bound in a part belong to a declaration of what exists elsewhere; patterns
go on with what surrounds them. -/
def bindsFreely (form : Form) (part : Nat) (around : Bool) : Bool :=
  match form with
  | .variableList _ isDeclare => isDeclare
  | .function traits => traits.isDeclare && part == 0
  | .class_ _ isDeclare => isDeclare && part == 1
  | .enum _ isDeclare | .moduleDeclaration _ isDeclare => isDeclare && part == 0
  | _ => around && bindsOn form part

/-- The word that declares the variables of a block around the parts of a tree, as far as the
function around. -/
def declaringWord (form : Form) (around : Option String) : Option String :=
  match form with
  | .variableList .let_ _ => some "let"
  | .variableList .const _ => some "const"
  | .variableList _ _ | .function _ => none
  | _ => around

/-- Whether a part of a tree has a scope of its own. Names that a declaration gives to what is
around it stand outside, but for those of functions. -/
def isScoped (form : Form) (part : Nat) : Bool :=
  match form with
  | .function _ | .arrow _ | .block | .staticBlock | .for_ | .forIn | .forOf _ | .catch_
  | .functionType | .constructorType _ | .callSignature | .constructSignature
  | .methodSignature _ _ | .mappedType _ _ | .conditionalType => true
  | .switch | .enum _ _ | .interface _ | .typeAlias _ | .moduleDeclaration _ _ => part != 0
  | .class_ _ _ => 1 < part
  | _ => false

/-- The part of a class that a part of a tree belongs to, if there are no arguments in it. -/
def withoutArguments (form : Form) (part : Nat) (around : Option String) : Option String :=
  match form with
  | .field m =>
    if part == 3 && !m.isAccessor then some "class field initializer" else around
  | .staticBlock => some "static initialization block"
  | .function _ => none
  | _ => if form.bindingParts.contains part || form.labelParts.contains part then none else around

/-- The findings about the names in a tree, in what surrounds it, from those of its parts. Names of
members, and names that other modules give, are not asked. -/
def nameStep (form : Form) (span : Span) (parts : List (Tree × (NameContext → List Finding)))
    (c : NameContext) : List Finding :=
  let tree (i : Nat) : Tree := ((parts[i]?).map Prod.fst).getD Tree.none
  let isNamespace := match form with
    | .namespaceBody => true
    | _ => false
  let inside : List Finding := parts.zipIdx.flatMap fun (p, i) =>
    if form.memberParts.contains i then []
    else p.2
      { free := bindsFreely form i c.free
        lexical := declaringWord form c.lexical
        isBound := form.bindingParts.contains i
        inNamespace := isNamespace || c.inNamespace && !isScoped form i
        -- Patterns are bound, whatever they hold beside names.
        noArguments :=
          if form.bindingParts.contains i && p.1.name?.isNone then c.noArguments
          else withoutArguments form i c.noArguments }
  match form with
  | .identifier n =>
    (if strictWords.contains n && !c.free && !c.inNamespace then
      [⟨span.stop, .reservedKeyword n⟩]
    else []) ++
      (if n == "let" && c.isBound then (c.lexical.map fun word => ⟨span.stop, .letDeclared word⟩).toList else []) ++
      match c.noArguments with
      | some place => if n == "arguments" then [⟨span.stop, .argumentsIn place⟩] else []
      | none => []
  | .exportNamed _ => if (tree 2).isPresent then [] else inside
  | .moduleDeclaration .global _ => ((parts[1]?).map fun p => p.2 {}).getD []
  | _ => inside

/-- The names of a module that are none. Where everything is only declared any word will do. -/
def wrongNames (ambient : Bool) (t : Tree) : List Finding :=
  (t.recurse nameStep {}).filter fun f =>
    match f.fault with
    | .reservedKeyword _ => !ambient
    | _ => true

end QuietEmit.Check
