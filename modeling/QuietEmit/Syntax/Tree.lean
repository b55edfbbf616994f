/-
  QuietEmit.Syntax.Tree

  Syntax trees of modules. A tree is a form, the span of text it was read from,
  and its parts in the order of the text. The parts that a form has are listed
  beside it; a part that may be left out is then the form `absent`, and a part
  that may be repeated is a `list`.
-/
import QuietEmit.Text

namespace QuietEmit.Syntax

/-- Declarations of variables. -/
inductive VariableKind where
  | var
  | let_
  | const
  | using_
  | awaitUsing
deriving DecidableEq, Repr, Inhabited

/-- The word for a kind of variable. -/
def VariableKind.text : VariableKind → String
  | .var => "var"
  | .let_ => "let"
  | .const => "const"
  | .using_ => "using"
  | .awaitUsing => "await using"

/-- Who may see a class member. -/
inductive Accessibility where
  | public_
  | private_
  | protected_
deriving DecidableEq, Repr, Inhabited

/-- The word for an accessibility. -/
def Accessibility.text : Accessibility → String
  | .public_ => "public"
  | .private_ => "private"
  | .protected_ => "protected"

/-- Kinds of methods. -/
inductive MethodKind where
  | method
  | constructor_
  | get
  | set
deriving DecidableEq, Repr, Inhabited

/-- What is written before the name of a class member or a parameter. -/
structure Modifiers where
  isStatic : Bool := false
  isAbstract : Bool := false
  isDeclare : Bool := false
  isOverride : Bool := false
  isReadonly : Bool := false
  isAccessor : Bool := false
  isOptional : Bool := false
  isDefinite : Bool := false
  isComputed : Bool := false
  access : Option Accessibility := none
deriving DecidableEq, Repr, Inhabited

/-- What a function is besides its parts. -/
structure FunctionTraits where
  isAsync : Bool := false
  isGenerator : Bool := false
  isDeclare : Bool := false
  /-- Its calls are marked to have no effects. -/
  isPure : Bool := false
deriving DecidableEq, Repr, Inhabited

/-- When an import is evaluated. -/
inductive Phase where
  | none
  | source
  | defer
deriving DecidableEq, Repr, Inhabited

/-- How a module declaration is introduced. -/
inductive ModuleKeyword where
  | module
  | namespace_
  | global
deriving DecidableEq, Repr, Inhabited

/-- The forms of trees, with the parts of each. -/
inductive Form where
  /-- A part that was left out. -/
  | absent
  /-- Repeated parts. -/
  | list
  /-- directives: list, body: list -/
  | program
  /-- A directive with its text as written between the quotes. -/
  | directive (raw : String)
  -- Names and literals, without parts
  | identifier (name : String)
  | privateName (name : String)
  | this
  | super
  | null
  | boolean (value : Bool)
  | number (raw : String)
  | bigint (raw : String)
  /-- What a string denotes. One with `halves` holds surrogates that stand alone, and marks each. -/
  | string (value : String) (halves : Bool)
  | regex (pattern flags : String)
  -- Expressions
  /-- substitutions; the texts around them are kept as written -/
  | template (texts : List String)
  /-- tag, type arguments, template -/
  | taggedTemplate
  /-- two identifiers -/
  | metaProperty
  /-- elements: expressions, spreads, absent -/
  | array
  /-- properties -/
  | object
  /-- key, value -/
  | property (computed shorthand : Bool)
  /-- key, function -/
  | methodProperty (kind : MethodKind) (computed : Bool)
  /-- expression -/
  | spread
  /-- name, type parameters, parameters: list, return type, body -/
  | function (traits : FunctionTraits)
  /-- type parameters, parameters: list, return type, body -/
  | arrow (traits : FunctionTraits)
  /-- decorators: list, name, type parameters, super class, its type arguments,
  implemented types: list, members: list -/
  | class_ (isAbstract isDeclare : Bool)
  /-- operand -/
  | unary (operator : String)
  /-- operand -/
  | update (operator : String) (before : Bool)
  /-- left, right -/
  | binary (operator : String)
  /-- target, value -/
  | assign (operator : String)
  /-- condition, consequent, alternate -/
  | conditional
  /-- callee, type arguments, arguments: list -/
  | call (optional : Bool)
  /-- a call or construction that is marked to have no effects -/
  | pureCall
  /-- callee, type arguments, arguments: list -/
  | new
  /-- object, name -/
  | member (optional : Bool)
  /-- object, expression -/
  | computedMember (optional : Bool)
  /-- expression with optional links -/
  | chain
  /-- expressions -/
  | sequence
  /-- argument or absent -/
  | yield (delegate : Bool)
  /-- argument -/
  | await
  /-- source, options or absent -/
  | importCall (phase : Phase)
  /-- expression -/
  | paren
  /-- expression, type -/
  | asType
  /-- expression, type -/
  | satisfiesType
  /-- type, expression -/
  | typeAssertion
  /-- expression -/
  | nonNull
  /-- expression, type arguments -/
  | instantiation
  -- Markup
  /-- name, type arguments, attributes: list, children: list, closing name or absent -/
  | jsxElement
  /-- children: list -/
  | jsxFragment
  /-- A name of an element or attribute, as written. -/
  | jsxName (name : String)
  /-- name, value or absent -/
  | jsxAttribute
  /-- expression -/
  | jsxSpreadAttribute
  /-- expression or absent -/
  | jsxContainer
  /-- expression -/
  | jsxSpreadChild
  /-- Text between tags, as written. -/
  | jsxText (raw : String)
  /-- An attribute value, as written between its quotes. -/
  | jsxString (raw : String)
  -- Targets of assignments
  /-- elements: targets, assignments of defaults, a spread at the end, absent -/
  | arrayTarget
  /-- properties, a spread at the end -/
  | objectTarget
  -- Patterns
  /-- pattern, type annotation -/
  | binding (optional : Bool)
  /-- properties, rest -/
  | objectPattern
  /-- elements, absent, rest -/
  | arrayPattern
  /-- pattern, default -/
  | defaulted
  /-- pattern -/
  | rest
  /-- decorators: list, binding or defaulted or rest -/
  | parameter (modifiers : Modifiers)
  -- Statements
  /-- statements -/
  | block
  /-- directives: list, statements: list -/
  | functionBody
  | empty
  /-- expression -/
  | expression
  /-- condition, consequent, alternate or absent -/
  | if_
  /-- initial or absent, test or absent, update or absent, body -/
  | for_
  /-- target, object, body -/
  | forIn
  /-- target, iterable, body -/
  | forOf (isAwait : Bool)
  /-- condition, body -/
  | while_
  /-- body, condition -/
  | doWhile
  /-- label or absent -/
  | continue_
  /-- label or absent -/
  | break_
  /-- argument or absent -/
  | return_
  /-- object, body -/
  | with_
  /-- subject, cases: list -/
  | switch
  /-- test or absent, statements: list -/
  | case
  /-- label, body -/
  | labeled
  /-- argument -/
  | throw
  /-- block, catch clause or absent, finalizer or absent -/
  | try_
  /-- binding or absent, block -/
  | catch_
  | debugger
  /-- declarators -/
  | variableList (kind : VariableKind) (isDeclare : Bool)
  /-- binding, initial value or absent -/
  | declarator (definite : Bool)
  /-- expression -/
  | decorator
  -- Class members
  /-- decorators: list, key, type annotation, value -/
  | field (modifiers : Modifiers)
  /-- decorators: list, key, function -/
  | method (kind : MethodKind) (modifiers : Modifiers)
  /-- statements -/
  | staticBlock
  -- Modules
  /-- specifiers: list or absent, source, attributes or absent -/
  | importDeclaration (typeOnly : Bool) (phase : Phase)
  /-- imported name, local name -/
  | importSpecifier (typeOnly : Bool)
  /-- local name -/
  | importDefault
  /-- local name -/
  | importNamespace
  /-- declaration or absent, specifiers: list, source or absent, attributes or absent -/
  | exportNamed (typeOnly : Bool)
  /-- local name, exported name -/
  | exportSpecifier (typeOnly : Bool)
  /-- declaration or expression -/
  | exportDefault
  /-- exported name or absent, source, attributes or absent -/
  | exportAll (typeOnly : Bool)
  /-- entries -/
  | importAttributes (keyword : String)
  /-- key, value -/
  | importAttribute
  /-- name, reference -/
  | importEquals (typeOnly : Bool)
  /-- string -/
  | externalReference
  /-- expression -/
  | exportAssignment
  /-- name -/
  | namespaceExport
  -- Type declarations
  /-- name, type parameters, extended types: list, members: list -/
  | interface (isDeclare : Bool)
  /-- name, type parameters, type -/
  | typeAlias (isDeclare : Bool)
  /-- name, members: list -/
  | enum (isConst isDeclare : Bool)
  /-- name, value or absent -/
  | enumMember (computed : Bool)
  /-- directives: list, statements: list -/
  | namespaceBody
  /-- name, body: namespace body or module or absent -/
  | moduleDeclaration (keyword : ModuleKeyword) (isDeclare : Bool)
  -- Types
  /-- A type named by a keyword. -/
  | keywordType (word : String)
  /-- type; written after a colon -/
  | colonType
  /-- name, type arguments -/
  | typeReference
  /-- left, right -/
  | qualifiedName
  /-- name or import type, type arguments -/
  | typeQuery
  /-- argument, options or absent, qualifier or absent, type arguments -/
  | importType
  /-- types -/
  | union
  /-- types -/
  | intersection
  /-- element -/
  | arrayType
  /-- elements -/
  | tuple
  /-- type -/
  | optionalType
  /-- type -/
  | restType
  /-- label, type -/
  | namedElement (optional : Bool)
  /-- type parameters, parameters: list, return type -/
  | functionType
  /-- type parameters, parameters: list, return type -/
  | constructorType (isAbstract : Bool)
  /-- members -/
  | typeLiteral
  /-- key, constraint, name type or absent, type or absent; the signs of the modifiers -/
  | mappedType (readonly optional : String)
  /-- checked, extended, true branch, false branch -/
  | conditionalType
  /-- type parameter -/
  | inferType
  /-- type -/
  | typeOperator (operator : String)
  /-- type or absent; with a mark that types have in documentation only -/
  | markedType (mark : String) (after : Bool)
  /-- object, index -/
  | indexedAccess
  /-- literal, template or signed number -/
  | literalType
  /-- types; the texts around them are kept as written -/
  | templateType (texts : List String)
  /-- parameter, type or absent -/
  | predicate (asserts : Bool)
  /-- type -/
  | parenType
  /-- key, type annotation -/
  | propertySignature (modifiers : Modifiers)
  /-- key, type parameters, parameters: list, return type -/
  | methodSignature (kind : MethodKind) (modifiers : Modifiers)
  /-- type parameters, parameters: list, return type -/
  | callSignature
  /-- type parameters, parameters: list, return type -/
  | constructSignature
  /-- parameter name, its annotation, type annotation -/
  | indexSignature (modifiers : Modifiers)
  /-- name, constraint or absent, default or absent -/
  | typeParameter (isConst isIn isOut : Bool)
  /-- type parameters -/
  | typeParameters
  /-- types -/
  | typeArguments
  /-- expression, type arguments: an extended or implemented type -/
  | heritage
deriving Inhabited

/-- A syntax tree. -/
inductive Tree where
  | node (form : Form) (span : Span) (parts : List Tree)
deriving Inhabited

namespace Tree

/-- The form of a tree. -/
def form : Tree → Form
  | .node f _ _ => f

/-- The text a tree was read from. -/
def span : Tree → Span
  | .node _ s _ => s

/-- The parts of a tree. -/
def parts : Tree → List Tree
  | .node _ _ ps => ps

/-- A part that was left out. -/
def none : Tree := .node .absent ⟨0, 0⟩ []

/-- Whether the part was left out. -/
def isAbsent : Tree → Bool
  | .node .absent _ _ => true
  | _ => false

/-- Whether the part is there. -/
def isPresent (t : Tree) : Bool := !t.isAbsent

/-- Repeated parts. -/
def list (ts : List Tree) : Tree := .node .list ⟨0, 0⟩ ts

/-- The part with that number, or an absent one. -/
def part (t : Tree) (i : Nat) : Tree := t.parts.getD i none

/-- The same tree with other parts. -/
def withParts : Tree → List Tree → Tree
  | .node f s _, ps => .node f s ps

/-- The same tree with another form. -/
def withForm : Tree → Form → Tree
  | .node _ s ps, f => .node f s ps

/-- The same tree for another span of text. -/
def withSpan : Tree → Span → Tree
  | .node f _ ps, s => .node f s ps

/-- The statements of a body or a module. -/
def statements (t : Tree) : List Tree := (t.part 1).parts

/-- A body or a module with other statements. -/
def withStatements (t : Tree) (ss : List Tree) : Tree := t.withParts [t.part 0, list ss]

mutual

/-- The length of the longest path down the tree. -/
def height : Tree → Nat
  | .node _ _ ps => heights ps + 1

/-- The greatest height in a list. -/
def heights : List Tree → Nat
  | [] => 0
  | t :: ts => max t.height (heights ts)

end

mutual

/-- A result for every tree from the bottom up: a step sees the form, the span, and each part
beside its result. -/
def recurse {α : Type} (step : Form → Span → List (Tree × α) → α) : Tree → α
  | .node f s ps => step f s (recurseAll step ps)

/-- Each tree of a list beside its result. -/
def recurseAll {α : Type} (step : Form → Span → List (Tree × α) → α) :
    List Tree → List (Tree × α)
  | [] => []
  | t :: ts => (t, recurse step t) :: recurseAll step ts

end

/-- The name of an identifier. -/
def name? : Tree → Option String
  | .node (.identifier n) _ _ => some n
  | _ => Option.none

/-- What an identifier or a string says. -/
def word? : Tree → Option String
  | .node (.identifier n) _ _ | .node (.string n _) _ _ => some n
  | _ => Option.none

/-- The tree inside any parentheses around it. -/
def inner : Tree → Tree
  | .node .paren _ [e] => inner e
  | t => t

end Tree

end QuietEmit.Syntax
