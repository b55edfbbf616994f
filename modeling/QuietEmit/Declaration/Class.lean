/-
  QuietEmit.Declaration.Class

  Classes as they are declared: members with their types and without bodies.
  Private members keep their names only.
-/
import QuietEmit.Declaration.Inference

namespace QuietEmit.Declaration

open Syntax

/-! ## Members -/

/-- Whether a key is a private name. -/
def isPrivateKey (key : Tree) : Bool :=
  match key.form with
  | .privateName _ => true
  | _ => false

/-- The modifiers that a declared member keeps: being public goes without saying. -/
def memberModifiers (m : Modifiers) : Modifiers :=
  { m with
    isDeclare := false
    isOverride := false
    isDefinite := false
    access := if m.access == some .public_ then none else m.access }

/-- A field without a type. -/
def bareField (span : Span) (m : Modifiers) (key : Tree) : Tree :=
  .node (.field (memberModifiers m)) span [.list [], key, .none, .none]

/-- A field as it is declared. -/
def field (fuel : Nat) (span : Span) (m : Modifiers) (key type value : Tree) : Declaring Tree := do
  -- The type of a field with accessors is not told by its value.
  if m.isAccessor then
    let type := if m.access == some .private_ then .none else type
    return .node (.field { m with isDefinite := false }) span [.list [], key, type, .none]
  if m.access == some .private_ then return bareField span m key
  let made (type value : Tree) : Tree :=
    .node (.field (memberModifiers m)) span [.list [], key, type, value]
  if type.isPresent then return made type .none
  else if value.isAbsent then
    note .propertyType
    return made .none .none
  else if m.isReadonly && isPlainValue value then return made .none (plainValue value)
  else
    match ← typeOf? fuel (if m.isReadonly then .exact else .widened) value with
    | some t => return made (colon t) .none
    | none =>
      note .propertyType
      return made .none .none

/-- The name that a parameter of a constructor binds, if it is one. -/
def parameterName? (p : Tree) : Option String :=
  match p.part 1 with
  | .node (.binding _) _ (n :: _) | .node .defaulted _ (.node (.binding _) _ (n :: _) :: _) => n.name?
  | _ => none

/-- The fields that the parameters of a constructor declare, with the types of those
parameters. -/
def parameterFields (written declared : List Tree) : List Tree :=
  written.filterMap fun p =>
    match p.form, parameterName? p with
    | .parameter m, some n =>
      if declaresMember m then
        let optional := match (p.part 1).form with
          | .binding optional => optional
          | _ => false
        let type := match declared.find? fun d => parameterName? d == some n with
          | some d => (d.part 1).part 1
          | none => .none
        let type := if m.access == some .private_ then .none else type
        some (.node (.field { memberModifiers m with isOptional := optional }) p.span
          [.list [], Build.name n, type, .none])
      else none
    | _, _ => none

/-- The parameters among these that declare members of their class, as they are declared. -/
def declaringParameters (fuel : Nat) : List Tree → Declaring (List Tree)
  | [] => return []
  | p :: rest => do
    let here ← match p.form with
      | .parameter m => if declaresMember m then parameter fuel (rest.any isRequired) p else pure []
      | _ => pure []
    return here ++ (← declaringParameters fuel rest)

/-- The fields that a constructor declares, from its parameters alone. -/
def constructorFields (fuel : Nat) (f : Tree) : Declaring (List Tree) := do
  let ps := (f.part 2).parts
  return parameterFields ps (← declaringParameters fuel ps)

/-- A function without its body. -/
def bodiless (f : Tree) (ps : Tree) (result : Option Tree) : Tree :=
  .node (.function {}) f.span [.none, f.part 1, ps, colon? result, .none]

/-- The accessors of a class with a name written like that, as getters or as setters; private ones
tell nothing. -/
def accessors (kind : MethodKind) (key : Tree) (ms : List Tree) : List Tree :=
  ms.filterMap fun t =>
    match t with
    | .node (.method k m) _ [_, otherKey, f] =>
      if k == kind && m.access != some .private_ && isSameKey key otherKey then some f else none
    | _ => none

/-- The result of a getter: as written, or the type of a setter, or as told by its body. -/
def getterResult? (fuel : Nat) (all : List Tree) (key f : Tree) : Declaring (Option Tree) := do
  if (f.part 3).isPresent then return some ((f.part 3).part 0)
  match (accessors .set key all).findSome? writtenType? with
  | some t => return some t
  | none => functionResult? fuel f

/-- The type that a getter tells for its setter. -/
def setterType? (fuel : Nat) (all : List Tree) (key : Tree) : Declaring (Option Tree) := do
  match accessors .get key all with
  | f :: _ => functionResult? fuel f
  | [] => return none

/-- A parameter of that name. -/
def parameterOf (pattern type : Tree) : Tree :=
  Build.made (.parameter {}) [.list [], Build.made (.binding false) [pattern, type]]

/-- A method as it is declared, after the fields that its parameters declare. -/
def method (fuel : Nat) (all : List Tree) (span : Span) (kind : MethodKind) (m : Modifiers)
    (key f : Tree) : Declaring (List Tree × Tree) := do
  let made (ps : Tree) (result : Option Tree) : Tree :=
    .node (.method kind (memberModifiers m)) span [.list [], key, bodiless f ps result]
  let isPrivate := m.access == some .private_
  match kind with
  | .constructor_ =>
    if isPrivate then return (← constructorFields fuel f, made (.list []) none)
    let ps ← parameters fuel (f.part 2)
    return (parameterFields (f.part 2).parts ps.parts, made ps none)
  | .set =>
    if isPrivate then return ([], made (.list [parameterOf (Build.name "value") .none]) none)
    let known? ← setterType? fuel all key
    match (f.part 2).parts with
    | .node (.parameter _) _ [_, .node (.binding _) _ [pattern, type]] :: _ =>
      if type.isPresent then return ([], made (f.part 2) none)
      return ([], made (.list [parameterOf pattern (colon? known?)]) none)
    | .node (.parameter _) _ [_, .node .defaulted span parts] :: _ =>
      return ([], made (.list [parameterOf (.node .defaulted span parts) (colon? known?)]) none)
    | _ => return ([], made (.list [parameterOf (Build.name "value") (colon? known?)]) none)
  | .get =>
    if isPrivate then return ([], made (.list []) none)
    let result ← getterResult? fuel all key f
    if result.isNone then note .accessorResult
    return ([], made (.list []) result)
  | .method =>
    if isPrivate then
      return ([], bareField span { m with isOptional := false, isComputed := false } key)
    let ps ← parameters fuel (f.part 2)
    let result ← functionResult? fuel f
    if result.isNone then note .methodResult
    return ([], made ps result)

/-! ## Classes -/

/-- The members of a class as they are declared: those that parameters declare, and the others.
After overloads their implementation is left out, but for the members that its parameters
declare. -/
def members (fuel : Nat) (all : List Tree) : Bool → List Tree → Declaring (List Tree × List Tree)
  | _, [] => return ([], [])
  | overloads, t :: rest => do
    match t with
    | .node (.method kind m) span [_, key, f] =>
      let isOverload := !(m.isAbstract || m.isOptional) && (f.part 4).isAbsent
      if overloads && !isOverload then
        let added ← if kind == .constructor_ then constructorFields fuel f else pure []
        let (fields, others) ← members fuel all false rest
        return (added ++ fields, others)
      else if (← hidesName m.isComputed key) || isPrivateKey key then
        members fuel all isOverload rest
      else
        let (added, here) ← method fuel all span kind m key f
        let (fields, others) ← members fuel all isOverload rest
        return (added ++ fields, here :: others)
    | .node (.field m) span [_, key, type, value] =>
      if (← hidesName m.isComputed key) || isPrivateKey key then members fuel all overloads rest
      else
        let here ← field fuel span m key type value
        let (fields, others) ← members fuel all overloads rest
        return (fields, here :: others)
    | .node (.indexSignature _) _ _ =>
      let (fields, others) ← members fuel all overloads rest
      return (fields, t :: others)
    | _ => members fuel all overloads rest

/-- Whether a class may extend an expression: a name with dots. -/
def isPlainSuper : Nat → Tree → Bool
  | 0, _ => false
  | fuel + 1, t =>
    match t.form with
    | .absent | .identifier _ => true
    | .member false => isPlainSuper fuel (t.part 0)
    | _ => false

/-- A class as it is declared. -/
def class_ (fuel : Nat) (isDeclare : Bool) (t : Tree) : Declaring Tree := do
  match t with
  | .node (.class_ isAbstract _) span [_, name, tps, super, superArgs, interfaces, ms] =>
    if !isPlainSuper fuel super then note .extendsExpression
    let (fields, others) ← members fuel ms.parts false ms.parts
    let hasPrivate := ms.parts.any fun m =>
      match m.form with
      | .field _ | .method _ _ => isPrivateKey (m.part 1)
      | _ => false
    let mark : List Tree :=
      if hasPrivate then
        [bareField ⟨0, 0⟩ {} (Build.made (.privateName "private") [])]
      else []
    return .node (.class_ isAbstract isDeclare) span
      [.list [], name, tps, super, superArgs, interfaces,
        .node .list ms.span (mark ++ fields ++ others)]
  | _ => return t

end QuietEmit.Declaration
