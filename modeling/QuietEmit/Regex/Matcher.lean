/-
  QuietEmit.Regex.Matcher

  Leftmost-first matching. An expression is laid out as a program whose threads
  advance together through the text in order of priority, so matching takes time
  proportional to the text times the program.
-/
import QuietEmit.Regex.Size

namespace QuietEmit.Regex

/-- One instruction; numbers are positions in the program. -/
inductive Inst where
  | char (set : CharSet) (next : Nat)
  | anchor (kind : Anchor) (next : Nat)
  | split (first second : Nat)
  | save (slot : Nat) (next : Nat)
  | accept

/-! ## Layout -/

/-- Append an instruction and answer where it stands. -/
def emit (inst : Inst) (program : Array Inst) : Nat × Array Inst :=
  (program.size, program.push inst)

/-- A choice between two places, the first preferred when `greedy`. -/
def choice (greedy : Bool) (body after : Nat) : Inst :=
  if greedy then .split body after else .split after body

/-- Lay out `n` copies of a piece in front of `next`. -/
def copies (lay : Nat → Array Inst → Nat × Array Inst) (n next : Nat) (program : Array Inst) :
    Nat × Array Inst :=
  n.repeat (fun (next, program) => lay next program) (next, program)

/-- Lay out up to `n` optional copies, each of which may skip to `next`. -/
def optionalCopies (lay : Nat → Array Inst → Nat × Array Inst) (greedy : Bool) (next n : Nat)
    (program : Array Inst) : Nat × Array Inst :=
  n.repeat (fun (after, program) =>
    let (entry, program) := lay after program
    emit (choice greedy entry next) program) (next, program)

/-- Lay out an expression in front of `next`; answers its entry. -/
def Expr.lay (e : Expr) (next : Nat) (program : Array Inst) : Nat × Array Inst :=
  match e with
  | .empty => (next, program)
  | .char set => emit (.char set next) program
  | .anchor kind => emit (.anchor kind next) program
  | .sequence items =>
    items.attach.foldr (fun ⟨e, _⟩ (next, program) => e.lay next program) (next, program)
  | .alternatives items =>
    let (entries, program) := items.attach.foldr
      (fun ⟨e, _⟩ (entries, program) =>
        let (entry, program) := e.lay next program
        (entry :: entries, program)) (([] : List Nat), program)
    let rec pick : List Nat → Array Inst → Nat × Array Inst
      | [], program => (next, program)
      | [entry], program => (entry, program)
      | entry :: rest, program =>
        let (others, program) := pick rest program
        emit (.split entry others) program
    pick entries program
  | .capture index body =>
    let (close, program) := emit (.save (2 * index + 1) next) program
    let (entry, program) := body.lay close program
    emit (.save (2 * index) entry) program
  | .repeated least (some most) greedy body =>
    let (rest, program) := optionalCopies body.lay greedy next (most - least) program
    copies body.lay least rest program
  | .repeated least none greedy body =>
    -- One or more rounds: the body leads to a choice between another round and `next`.
    let (again, program) := emit .accept program
    let (entry, program) := body.lay again program
    let program := program.setIfInBounds again (choice greedy entry next)
    if least == 0 then
      if body.nullable then emit (choice greedy entry next) program else (again, program)
    else copies body.lay (least - 1) entry program

/-! ## Running -/

/-- A position of the text: the character before it, and the text from it on. -/
structure Spot where
  index : Nat
  before : Option Char
  rest : List Char

/-- One character further. -/
def Spot.next (s : Spot) : Spot :=
  match s.rest with
  | [] => s
  | c :: rest => ⟨s.index + 1, some c, rest⟩

/-- Whether the anchor holds at the position. -/
def Anchor.holds (a : Anchor) (s : Spot) : Bool :=
  let after := s.rest.head?
  match a with
  | .textStart => s.before.isNone
  | .textEnd => after.isNone
  | .lineStart false => s.before.isNone || s.before == some '\n'
  | .lineEnd false => after.isNone || after == some '\n'
  | .lineStart true =>
    s.before.isNone || s.before == some '\n' || (s.before == some '\r' && after != some '\n')
  | .lineEnd true =>
    after.isNone || after == some '\r' || (after == some '\n' && s.before != some '\r')
  | .word kind unicode =>
    let left := s.before.any (wordChar unicode)
    let right := after.any (wordChar unicode)
    match kind with
    | .wordBoundary => left != right
    | .notWordBoundary => left == right
    | .wordStart => !left && right
    | .wordEnd => left && !right
    | .wordStartHalf => !left
    | .wordEndHalf => !right
    | _ => false

/-- Positions saved for the groups, by slot. -/
abbrev Slots := List (Nat × Nat)

/-- A thread: where it is in the program, and what it has saved. -/
abbrev Thread := Nat × Slots

/-- Follow threads up to instructions that read a character or accept, in order of
priority; a place is visited once. -/
def follow (program : Array Inst) (spot : Spot) :
    Nat → List Thread → Array Bool → List Thread → List Thread
  | 0, _, _, done => done.reverse
  | _ + 1, [], _, done => done.reverse
  | fuel + 1, (pc, slots) :: stack, seen, done =>
    if seen.getD pc true then follow program spot fuel stack seen done
    else
      let seen := seen.setIfInBounds pc true
      match program[pc]? with
      | some (.split a b) => follow program spot fuel ((a, slots) :: (b, slots) :: stack) seen done
      | some (.save slot next) =>
        follow program spot fuel ((next, (slot, spot.index) :: slots) :: stack) seen done
      | some (.anchor kind next) =>
        if kind.holds spot then follow program spot fuel ((next, slots) :: stack) seen done
        else follow program spot fuel stack seen done
      | some (.char _ _) | some .accept =>
        follow program spot fuel stack seen ((pc, slots) :: done)
      | none => follow program spot fuel stack seen done

/-- What a thread has saved if it accepts. -/
def accepted? (program : Array Inst) (t : Thread) : Option Slots :=
  match program[t.1]? with
  | some .accept => some t.2
  | _ => none

/-- A thread one character further, if it reads that character. -/
def moved? (program : Array Inst) (c : Option Char) (t : Thread) : Option Thread :=
  match program[t.1]? with
  | some (.char set next) => if c.any set.has then some (next, t.2) else none
  | _ => none

/-- Move the threads over one character, up to the first that accepts: threads of
lower priority than an accepting one are dropped. -/
def advanceThreads (program : Array Inst) (c : Option Char) (threads : List Thread) :
    List Thread × Option Slots :=
  ((threads.takeWhile fun t => (accepted? program t).isNone).filterMap (moved? program c),
    threads.findSome? (accepted? program))

/-- Run the threads to the end of the text, keeping the best acceptance so far. -/
def runThreads (program : Array Inst) : Nat → Spot → List Thread → Option Slots → Option Slots
  | 0, _, _, best => best
  | fuel + 1, spot, threads, best =>
    let unseen := Array.replicate program.size false
    let ready := follow program spot (3 * program.size + threads.length + 1) threads unseen []
    let (moved, accepted) := advanceThreads program spot.rest.head? ready
    let best := accepted.or best
    if moved.isEmpty then best else runThreads program fuel spot.next moved best

/-- A pattern ready to match. -/
structure Compiled where
  program : Array Inst
  entry : Nat
  names : List (String × Nat)

/-- The slots saved by the preferred match that begins at the position. -/
def Compiled.matchAt (r : Compiled) (spot : Spot) : Option Slots :=
  runThreads r.program (spot.rest.length + 1) spot [(r.entry, [])] none

/-- The preferred match that begins earliest, at the position or later. -/
def Compiled.find (r : Compiled) : Nat → Spot → Option Slots
  | 0, _ => none
  | fuel + 1, spot =>
    match r.matchAt spot with
    | some slots => some slots
    | none => if spot.rest.isEmpty then none else r.find fuel spot.next

/-- Read and lay out a pattern; letters match in either case from the start. -/
def compile (pattern : String) : Except Error Compiled := do
  let node ← parse pattern.toList
  let (expr, _) ← node.expr ⟨true, false, false, false, true, false⟩
  if expr.isTooLarge then throw (.tooLarge roomLimit)
  let (finish, program) := emit .accept #[]
  let (entry, program) := (Expr.capture 0 expr).lay finish program
  return ⟨program, entry, node.groupNames⟩

end QuietEmit.Regex
