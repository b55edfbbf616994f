/-
  QuietEmit.FileTree

  A file system as a value: what stands at each location, and the reading and
  writing of files with the causes for which they fail. A location is the list of
  names from the root down; the root itself is always a directory. `FileStore` is
  all that a compilation asks of a file system.
-/
import QuietEmit.Path

namespace QuietEmit

/-! ## Failures -/

/-- The kinds of failure that callers tell apart. -/
inductive IoKind where
  | notFound
  | permissionDenied
  | invalidData
  | other
deriving DecidableEq, Repr

/-- A failed operation: its kind and its text. -/
structure IoError where
  kind : IoKind
  text : String
deriving DecidableEq, Repr

namespace IoError

/-- Nothing stands at the location. -/
def noEntry : IoError := ⟨.notFound, "No such file or directory (os error 2)"⟩
/-- A file stands where the path needs a directory. -/
def notDirectory : IoError := ⟨.other, "Not a directory (os error 20)"⟩
/-- A directory stands where the operation needs a file. -/
def isDirectory : IoError := ⟨.other, "Is a directory (os error 21)"⟩
/-- Something stands where a directory was to be made. -/
def alreadyExists : IoError := ⟨.other, "File exists (os error 17)"⟩
/-- The bytes of a file are no text. -/
def invalidText : IoError := ⟨.invalidData, "stream did not contain valid UTF-8"⟩
/-- The empty path names nothing. -/
def emptyPath : IoError := ⟨.other, "cannot make an empty path absolute"⟩

end IoError

/-! ## Trees -/

/-- What stands at a location. -/
inductive Entry where
  | dir
  | file (bytes : ByteArray)

/-- The names from the root down to a place. -/
abbrev Location := List String

/-- A file system with the directory that relative paths start from. -/
structure FileTree where
  entries : List (Location × Entry)
  workingDir : Location

namespace FileTree

/-- What stands at the location. -/
def at? (t : FileTree) (loc : Location) : Option Entry :=
  if loc.isEmpty then some .dir else (t.entries.find? (·.1 == loc)).map (·.2)

/-- Whether a directory stands at the location. -/
def isDirAt (t : FileTree) (loc : Location) : Bool :=
  match t.at? loc with
  | some .dir => true
  | _ => false

/-- Put an entry at the location, over what was there. -/
def put (t : FileTree) (loc : Location) (e : Entry) : FileTree :=
  { t with entries := t.entries.filter (·.1 != loc) ++ [(loc, e)] }

/-- Take away what stands at the location and below it. -/
def remove (t : FileTree) (loc : Location) : FileTree :=
  { t with entries := t.entries.filter fun e => !loc.isPrefixOf e.1 }

/-- Make the directories above the location, then put the entry there. -/
def plant (t : FileTree) (loc : Location) (e : Entry) : FileTree :=
  let above := (List.range loc.length).map fun n => loc.take n
  (above.foldl (fun t dir => if (t.at? dir).isSome then t else t.put dir .dir) t).put loc e

/-- The path of a location. -/
def pathOf (loc : Location) : Path := ⟨"/" ++ "/".intercalate loc⟩

/-- The working directory as a path. -/
def workingPath (t : FileTree) : Path := pathOf t.workingDir

/-! ## Following paths -/

/-- Follow the parts of a path from a location, which has to be a directory for
every further part. -/
def follow (t : FileTree) : Location → List (List Char) → Except IoError Location
  | loc, [] => .ok loc
  | loc, part :: rest =>
    match t.at? loc with
    | none => .error .noEntry
    | some (.file _) => .error .notDirectory
    | some .dir =>
      if Path.isIdle part then t.follow loc rest
      else if part == ['.', '.'] then t.follow loc.dropLast rest
      else t.follow (loc ++ [String.ofList part]) rest

/-- The location a path leads to; its last part need not exist. -/
def locate (t : FileTree) (p : Path) : Except IoError Location :=
  if p.text.isEmpty then .error .noEntry
  else t.follow (if p.isAbsolute then [] else t.workingDir) p.parts

/-- What a path leads to. -/
def lookup (t : FileTree) (p : Path) : Except IoError Entry := do
  match t.at? (← t.locate p) with
  | some e => return e
  | none => throw .noEntry

/-- Whether the path leads to anything. -/
def hasPath (t : FileTree) (p : Path) : Bool := (t.lookup p).isOk

/-- Whether the path leads to a file. -/
def isFile (t : FileTree) (p : Path) : Bool :=
  match t.lookup p with
  | .ok (.file _) => true
  | _ => false

/-- Whether the path leads to a directory. -/
def isDir (t : FileTree) (p : Path) : Bool :=
  match t.lookup p with
  | .ok .dir => true
  | _ => false

/-! ## Reading and writing -/

/-- The text of a file. -/
def readText (t : FileTree) (p : Path) : Except IoError String := do
  match ← t.lookup p with
  | .dir => throw .isDirectory
  | .file bytes =>
    match String.fromUTF8? bytes with
    | some s => return s
    | none => throw .invalidText

/-- Make one directory. -/
def makeDir (t : FileTree) (p : Path) : Except IoError FileTree := do
  let loc ← t.locate p
  if (t.at? loc).isSome then throw .alreadyExists
  return t.put loc .dir

/-- Make a directory with those above it; `fuel` bounds how many are missing. -/
def makeDirs (t : FileTree) : Nat → Path → Except IoError FileTree
  | 0, _ => .error .noEntry
  | fuel + 1, p =>
    if p.text.isEmpty then .ok t
    else match t.makeDir p with
      | .ok t => .ok t
      | .error e =>
        if e.kind == .notFound then do
          let t ← t.makeDirs fuel p.parentOrEmpty
          match t.makeDir p with
          | .ok t => return t
          | .error e => if t.isDir p then return t else throw e
        else if t.isDir p then .ok t
        else .error e

/-- Write a file in an existing directory. -/
def writeFile (t : FileTree) (p : Path) (text : String) : Except IoError FileTree := do
  let loc ← t.locate p
  match t.at? loc with
  | some .dir => throw .isDirectory
  | _ => return t.put loc (.file text.toUTF8)

/-- Write a file, making the directories above it. -/
def writeText (t : FileTree) (p : Path) (text : String) : Except IoError FileTree := do
  match p.parent with
  | none => t.writeFile p text
  | some parent => (← t.makeDirs (parent.text.length + 2) parent).writeFile p text

/-- The path from the root that a path stands for; the empty path stands for none. -/
def absolute (t : FileTree) (p : Path) : Except IoError Path :=
  if p.text.isEmpty then .error .emptyPath else .ok (t.workingPath.join p)

end FileTree

/-! ## Where files are kept -/

/-- What texts are read from and written to. Each time that fails with a cause or does not; what a
failure leaves behind is open. -/
class FileStore (σ : Type) where
  /-- The text of a file. -/
  readText : σ → Path → Except IoError String
  /-- Write a file, making the directories above it. -/
  writeText : σ → Path → String → Except IoError Unit × σ

/-- A file tree stays as it was where writing fails. -/
instance : FileStore FileTree where
  readText := FileTree.readText
  writeText t p text :=
    match t.writeText p text with
    | .ok written => (.ok (), written)
    | .error e => (.error e, t)

end QuietEmit
