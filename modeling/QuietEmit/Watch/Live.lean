/-
  QuietEmit.Watch.Live

  A run that keeps compiling. The first cycle comes at the start. From there on the
  system tells of paths, and what the filter lets through waits until the loop
  turns; then all changes that wait are taken up together, in one more cycle:

      system --notice--> listener --changes--> loop --cycle--> session

  A path that was just listened to is not listened to again for a moment.
-/
import QuietEmit.CommandLine.Run
import QuietEmit.Program.Cycle
import QuietEmit.Watch.Filter

namespace QuietEmit.Watch

/-! ## Listening -/

/-- What the system says has happened. -/
inductive EventKind where
  | create
  | modify
  | remove
  /-- Anything else, such as an access. -/
  | other
deriving DecidableEq, Repr

/-- The system tells of a path, at a time in nanoseconds. -/
structure Notice where
  kind : EventKind
  path : OsPath
  time : Nat
deriving DecidableEq, Repr

/-- The change that a notice tells of. -/
def Notice.change? (n : Notice) : Option Change :=
  match n.kind with
  | .create => some (.created n.path)
  | .modify => some (.modified n.path)
  | .remove => some (.removed n.path)
  | .other => none

/-- For so long, 100 milliseconds, a path is not listened to again. -/
def debounce : Nat := 100 * 1000000

/-- What a watch listens with. -/
structure Listener where
  filter : Filter
  /-- The path that was last listened to, and when. -/
  last : Option (OsPath × Nat)
  /-- The changes that wait, in the order in which they came. -/
  pending : List Change

namespace Listener

/-- A listener that was told nothing. -/
def ofFilter (filter : Filter) : Listener := ⟨filter, none, []⟩

/-- Whether the path is the one that was listened to a moment ago. -/
def repeats (l : Listener) (n : Notice) : Bool :=
  l.last.any fun (path, time) => path.same n.path && decide (n.time - time < debounce)

/-- Listen to a notice. One that tells of no change counts, too, for what comes after it. -/
def hear (l : Listener) (n : Notice) : Listener :=
  if l.filter.ignores n.path || l.repeats n then l
  else { l with last := some (n.path, n.time), pending := l.pending ++ n.change?.toList }

/-- The paths of the changes that wait, in order and each of them once. -/
def batch (l : Listener) : List OsPath :=
  (dropRepeated ((l.pending.map fun c => c.path.spelled).mergeSort Path.le)).map .ofSpelled

end Listener

/-- The changes that a project's watch passes over: outside its root, and below its output
directory. -/
def Filter.ofProject (project : Project) : Filter :=
  match project.options.outDir with
  | some dir => (Filter.ofRoot project.root).ignoring dir
  | none => .ofRoot project.root

/-- The directory to watch, which has to be there when watching starts. -/
def openRoot (tree : FileTree) (root : Path) : Except RunError Path :=
  if tree.hasPath root then .ok root else .error (.fileNotFound root)

/-! ## Watching -/

/-- A run that waits for the next change. -/
structure Live extends Listener where
  watched : Watched
  session : Session
  tree : FileTree
  color : Bool
  notices : String

/-- What a watch goes through. -/
inductive Happening where
  /-- The files have become these. -/
  | edited (tree : FileTree)
  | noticed (n : Notice)
  /-- The loop turns. -/
  | turned

namespace Live

/-- Run a cycle. -/
def cycle (live : Live) (trigger : Trigger) : Live :=
  let (_, tree, session) := live.watched.cycle trigger live.tree live.session
  { live with tree, session }

/-- What has been printed so far. -/
def output (live : Live) : String := live.session.display.output

/-- Start to watch, with a first cycle. -/
def start (i : Invocation) (p : Prepared) : Except Finished Live :=
  match openRoot p.tree p.project.root with
  | .error e => .error (i.stopped p.notices e)
  | .ok _ =>
    let codes := StatusCodes.standard
    let live : Live :=
      { Listener.ofFilter (.ofProject p.project) with
        watched := ⟨p.settings.project, codes, [p.pass]⟩
        session := .fresh codes p.display
        tree := p.tree
        color := p.color
        notices := p.notices }
    .ok (live.cycle .initial)

/-- Take up all changes that wait in one cycle; without any, go on waiting. -/
def turn (live : Live) : Live :=
  if live.pending.isEmpty then live
  else { live with pending := [] }.cycle (.filesChanged live.batch)

/-- Go through what happens next. -/
def step (live : Live) : Happening → Live
  | .edited tree => { live with tree }
  | .noticed n => { live with toListener := live.hear n }
  | .turned => live.turn

/-- Go through what happens, one after the other. -/
def after (live : Live) (happenings : List Happening) : Live := happenings.foldl step live

/-- The files have changed, the system tells of a path, and the loop turns. -/
def changed (live : Live) (tree : FileTree) (n : Notice) : Live :=
  live.after [.edited tree, .noticed n, .turned]

/-- Stop watching. -/
def stop (live : Live) : Finished :=
  ⟨0, live.output, live.notices ++ Terminal.successLine live.color "Stopped watching", live.tree⟩

end Live

end QuietEmit.Watch

namespace QuietEmit

/-- Prepare a run and start to watch. -/
def Invocation.watch (i : Invocation) : Except Finished Watch.Live :=
  match i.prepare with
  | .error f => .error f
  | .ok p => Watch.Live.start i p

/-- What a run comes to: an end, or a watch that waits for changes. -/
inductive Outcome where
  | finished (f : Finished)
  | watching (live : Watch.Live)

/-- Compile once, or start to watch where the settings say so. -/
def Invocation.outcome (i : Invocation) : Outcome :=
  match i.prepare with
  | .error f => .finished f
  | .ok p =>
    if p.settings.watch then
      match Watch.Live.start i p with
      | .error f => .finished f
      | .ok live => .watching live
    else .finished p.runOnce

end QuietEmit
