/-
  QuietEmit.Syntax.Reader.Modifiers

  Reading the words before declarations, members and parameters. Such a word is a
  modifier only where something follows it that it can modify.
-/
import QuietEmit.Syntax.Reader.Goal

namespace QuietEmit.Syntax

/-- A word before a declaration, a member or a parameter. -/
inductive Modifier where
  | abstract_
  | accessor
  | async
  | const
  | declare
  | default_
  | export_
  | in_
  | out
  | override
  | private_
  | protected_
  | public_
  | readonly
  | static
deriving DecidableEq, Repr, Inhabited

namespace Modifier

/-- The modifiers with their words. -/
def words : List (String × Modifier) :=
  [("abstract", .abstract_), ("accessor", .accessor), ("async", .async), ("const", .const),
    ("declare", .declare), ("default", .default_), ("export", .export_), ("in", .in_),
    ("out", .out), ("override", .override), ("private", .private_), ("protected", .protected_),
    ("public", .public_), ("readonly", .readonly), ("static", .static)]

/-- The word of a modifier. -/
def text (m : Modifier) : String := ((words.find? (·.2 == m)).map Prod.fst).getD ""

/-- Whether a modifier tells who may see a member. -/
def isAccess (m : Modifier) : Bool := m == .public_ || m == .private_ || m == .protected_

/-- What is wrong with a modifier after others. -/
def fault? (seen : List Modifier) (m : Modifier) : Option Fault :=
  let has (o : Modifier) : Bool := seen.contains o
  let twice : Option Fault := if has m then some (.modifierTwice m.text) else none
  let before (os : List Modifier) : Option Fault :=
    (os.find? has).map fun o => .modifierOrder m.text o.text
  let apart (os : List Modifier) : Option Fault :=
    (os.find? has).map fun o => .modifiersTogether o.text m.text
  match m with
  | .public_ | .private_ | .protected_ =>
    if seen.any isAccess then some .accessTwice
    else if m == .private_ && has .abstract_ then
      (before [.override, .static, .accessor, .readonly, .async]).or
        (some (.modifiersTogether m.text "abstract"))
    else before [.override, .static, .accessor, .readonly, .async, .abstract_]
  | .static =>
    twice.or ((before [.readonly, .async, .accessor]).or
      ((if has .abstract_ then some (.modifiersTogether m.text "abstract") else none).or
        (before [.override])))
  | .override => twice.or ((apart [.declare]).or (before [.readonly, .accessor, .async]))
  | .declare => twice.or (apart [.override])
  | .abstract_ => twice.or ((apart [.static, .async]).or (before [.override, .accessor]))
  | .export_ => twice.or (before [.declare, .abstract_, .async])
  | .async => twice.or (if has .abstract_ then some (.modifiersTogether m.text "abstract") else none)
  | _ => twice

/-- Modifiers of a member as they are kept in the tree. -/
def collect (ms : List Modifier) : Modifiers :=
  { isStatic := ms.contains .static
    isAbstract := ms.contains .abstract_
    isDeclare := ms.contains .declare
    isOverride := ms.contains .override
    isReadonly := ms.contains .readonly
    isAccessor := ms.contains .accessor
    access := (ms.find? isAccess).map fun m =>
      match m with
      | .private_ => .private_
      | .protected_ => .protected_
      | _ => .public_ }

end Modifier

namespace Reader

/-- The current token can follow a modifier. -/
def canFollowModifier : Reader Bool := do
  match ← current with
  | .name _ _ | .string _ _ | .number _ | .bigint _ | .privateName _ => return true
  | .punctuator p => return p == "[" || p == "\x7b" || p == "*" || p == "..."
  | _ => return false

/-- The current token, a modifier's word, is followed by something that it can modify. -/
def modifies (m : Modifier) : Reader Bool := lookahead do
  advance
  if (← onNewLine) && m != .static then return false
  match m with
  | .export_ =>
    if (← atPunctuator "*") || (← atPunctuator "\x7b") || (← atWord "as") then return false
    if ← atPunctuator "@" then return true
    canFollowModifier
  | _ => canFollowModifier

/-- Modifiers; `const` only if `withConst`, and `static` only if no block follows it. A second
`static` is a name. -/
def modifiersAfter (withConst : Bool) : Nat → List Modifier → Reader (List Modifier)
  | 0, seen => return seen
  | fuel + 1, seen => do
    match ← current with
    | .name w _ =>
      match Modifier.words.lookup w with
      | none => return seen
      | some m =>
        if m == .const && !withConst then return seen
        if m == .static then
          if seen.contains .static then return seen
          match (← peek).1 with
          | .punctuator "\x7b" => return seen
          | _ => pure ()
        if !(← modifies m) then return seen
        match Modifier.fault? seen m with
        | some fault => note fault
        | none => pure ()
        advance
        modifiersAfter withConst fuel (seen ++ [m])
    | _ => return seen

/-- Modifiers in the order they are written. -/
def modifiers (withConst : Bool) : Reader (List Modifier) := do
  modifiersAfter withConst (← size) []

/-- Note the modifiers that are not allowed in a place. -/
def allowOnly (allowed : List Modifier) (fault : String → Fault) (ms : List Modifier) :
    Reader Unit :=
  for m in ms do
    if !allowed.contains m then note (fault m.text)

end Reader

end QuietEmit.Syntax
