/-
  QuietEmit.Main

  The program: reads the files and the environment, runs, prints, and writes the
  files that changed. All decisions are made by `Invocation.outcome` and
  `Watch.Live`. Dependency folders are not read. A watch looks for changed files
  ten times a second and stops at the end of the standard input.
-/
import QuietEmit.Watch.Live

namespace QuietEmit.Shell

/-! ## Reading -/

/-- Files and directories that were found, the later ones first. -/
abbrev Found := List (Location × Entry)

/-- Add what lies in a directory, down to so many levels. -/
def addEntries : Nat → Location → Found → List IO.FS.DirEntry → IO Found
  | 0, _, found, _ => return found
  | _ + 1, _, found, [] => return found
  | depth + 1, dir, found, e :: rest => do
    let here := dir ++ [e.fileName]
    let found ← if Watch.dependencyFolders.contains e.fileName then pure found
      else match (← e.path.metadata).type with
        | .dir => addEntries depth here ((here, .dir) :: found) (← e.path.readDir).toList
        | .file => pure ((here, .file (← IO.FS.readBinFile e.path)) :: found)
        | _ => pure found
    addEntries (depth + 1) dir found rest
termination_by depth _ _ entries => (depth, entries.length)

/-- The location of a path as the system spells it. -/
def locationOf (path : String) : Location := (path.splitOn "/").filter (!·.isEmpty)

/-- The locations from the root down to a directory. -/
def above (dir : Location) : Found :=
  (List.range dir.length).map fun n => (dir.take (n + 1), Entry.dir)

/-- Read the files below directories, which are seen from the first of them. -/
def readTree (dirs : List String) : IO FileTree := do
  let mut found : Found := []
  let mut seen : List Location := []
  for dir in dirs do
    let real ← try some <$> IO.FS.realPath dir catch _ => pure none
    if let some real := real then
      let loc := locationOf real.toString
      if !seen.any (·.isPrefixOf loc) && (← real.isDir) then
        found ← addEntries 64 loc (above loc ++ found) (← real.readDir).toList
        seen := seen ++ [loc]
  return ⟨found.reverse, seen.headD []⟩

/-- The environment variables of this process. -/
def readVariables : IO (List (String × String)) := do
  let text ← try IO.FS.readFile "/proc/self/environ" catch _ => pure ""
  return (text.splitOn "\x00").filterMap fun entry =>
    match entry.splitOn "=" with
    | name :: v :: rest => some (name, "=".intercalate (v :: rest))
    | _ => none

/-- The directories that a run may read: the working directory and that of the project file. -/
def directories (cwd : String) (arguments : List String) : List String :=
  let project := match CommandLine.Arguments.read arguments with
    | .ok a => a.project
    | .error _ => none
  let projectDir := project.bind fun p => (Path.join ⟨cwd⟩ ⟨p⟩).parent
  cwd :: projectDir.toList.map Path.text

/-! ## Writing -/

/-- The files that are new or have other contents. -/
def changedFiles (before after : FileTree) : List (Location × ByteArray) :=
  after.entries.filterMap fun (loc, e) =>
    match e, before.at? loc with
    | .file bytes, some (.file old) => if bytes == old then none else some (loc, bytes)
    | .file bytes, _ => some (loc, bytes)
    | .dir, _ => none

/-- Write the files that changed. -/
def writeChanges (before after : FileTree) : IO Unit := do
  for (loc, bytes) in changedFiles before after do
    IO.FS.createDirAll (FileTree.pathOf loc.dropLast).text
    IO.FS.writeBinFile (FileTree.pathOf loc).text bytes

/-- Print what a text has more than its beginning. -/
def printAfter (done text : String) : IO Unit := do
  IO.print (String.ofList (text.toList.drop done.length))
  (← IO.getStdout).flush

/-- Finish a run, of whose output something may have been shown. -/
def finish (before : FileTree) (shown notices : String) (f : Finished) : IO UInt32 := do
  writeChanges before f.tree
  printAfter shown f.stdout
  IO.eprint (String.ofList (f.stderr.toList.drop notices.length))
  return UInt32.ofNat f.code

/-! ## Watching -/

/-- What there is to tell of files that differ, all of it at one time. -/
def differences (before after : FileTree) (time : Nat) : List Watch.Notice :=
  let found := (changedFiles before after).map fun (loc, _) =>
    (if (before.at? loc).isSome then Watch.EventKind.modify else .create, loc)
  let gone := before.entries.filterMap fun (loc, e) =>
    match e, after.at? loc with
    | .file _, none => some (Watch.EventKind.remove, loc)
    | _, _ => none
  (found ++ gone).map fun (kind, loc) => ⟨kind, FileTree.pathOf loc, time⟩

/-- Wait until the standard input ends. -/
partial def waitForEnd (input : IO.FS.Stream) : IO Unit := do
  let line ← input.getLine
  if line.isEmpty then return else waitForEnd input

/-- Watch until the task has finished. -/
partial def watchLoop (ended : Task (Except IO.Error Unit)) (dirs : List String)
    (live : Watch.Live) : IO Watch.Live := do
  if ← IO.hasFinished ended then return live
  IO.sleep 100
  let tree ← readTree dirs
  let notices := differences live.tree tree (← IO.monoNanosNow)
  let next := live.after (.edited tree :: notices.map .noticed ++ [.turned])
  writeChanges tree next.tree
  printAfter live.output next.output
  watchLoop ended dirs { next with tree := (← readTree dirs) }

end QuietEmit.Shell

open QuietEmit QuietEmit.Shell in
/-- Compile the project of the working directory, once or after every change. -/
def main (arguments : List String) : IO UInt32 := do
  let cwd := (← IO.currentDir).toString
  let dirs := directories cwd arguments
  let tree ← readTree dirs
  let invocation : Invocation := ⟨tree, ← readVariables, arguments⟩
  match invocation.outcome with
  | .finished f => finish tree "" "" f
  | .watching live =>
    IO.eprint live.notices
    writeChanges tree live.tree
    printAfter "" live.output
    let ended ← IO.asTask (waitForEnd (← IO.getStdin))
    let live ← watchLoop ended dirs live
    finish live.tree live.output live.notices live.stop
