/-
  QuietEmit.Syntax.Source

  From the text of a module to its tree. The dialect follows from the file's name.
  A fault that ends the reading leaves an empty module.
-/
import QuietEmit.Path
import QuietEmit.Syntax.Reader.Grammar

namespace QuietEmit.Syntax

/-- The dialect of a file by its name; names without a known ending are plain modules, and those
in `.cjs` and `.cts` scripts. A part `d`
before the ending, or in `.ts` one further before, makes a module of declarations. -/
def Dialect.ofPath (path : Path) : Dialect :=
  let stemParts := (((path.fileStem).getD "").splitOn ".").reverse
  let typed (markup declarations : Bool) : Dialect := ⟨true, markup, declarations, true⟩
  match path.extension with
  | some "ts" => typed false ((stemParts.take 2).contains "d")
  | some "mts" => typed false ((stemParts.take 1).contains "d")
  | some "cts" => ⟨true, false, (stemParts.take 1).contains "d", false⟩
  | some "tsx" => typed true false
  | some "jsx" => ⟨false, true, false, true⟩
  | some "cjs" => ⟨false, false, false, false⟩
  | _ => ⟨false, false, false, true⟩

/-- What reading the text of a module gives. -/
structure Source where
  dialect : Dialect
  text : String
  /-- The line that names an interpreter. -/
  hashbang : Option String
  tree : Tree
  comments : List Comment
  /-- The faults in the order they were found. -/
  faults : List Fault
  /-- A fault ended the reading. -/
  aborted : Bool
deriving Inhabited

namespace Source

/-- The state before the first token, which is still to be read. -/
def initialState (dialect : Dialect) (offset size : Nat) (text : List Char) : State where
  dialect := dialect
  size := size
  token := .endOfText
  start := offset
  stop := offset
  text := text
  rest := text
  newline := false
  previousStop := offset
  comments := []
  lexical := []
  faults := []
  defaults := []
  trailingCommas := []
  exported := []
  defaultExports := 0
  scope := { inAsync := dialect.isModule, ambient := dialect.declarations }

/-- Split off a byte order mark and an interpreter line. -/
def splitHead (text : List Char) : Nat × Option String × List Char :=
  let (offset, text) := match text with
    | '\uFEFF' :: rest => (3, rest)
    | _ => (0, text)
  match text with
  | '#' :: '!' :: rest =>
    let line := rest.takeWhile fun c => !Lexer.isLineEnd c
    let taken := '#' :: '!' :: line
    (offset + (String.ofList taken).utf8ByteSize, some (String.ofList line), rest.drop line.length)
  | _ => (offset, none, text)

/-- Read a module. -/
def read (dialect : Dialect) (text : String) : Source :=
  let (offset, hashbang, rest) := splitHead text.toList
  let size := rest.length
  let reader : Reader Tree := do
    Reader.advance
    Reader.program (Reader.grammar (16 * size + 64))
  match reader (initialState dialect offset size rest) with
  | .ok tree s =>
    ⟨dialect, text, hashbang, tree, s.comments.reverse, s.allFaults, false⟩
  | .error stop _ =>
    ⟨dialect, text, hashbang, .node .program ⟨0, 0⟩ [.list [], .list []], [],
      stop.faults, true⟩

end Source

end QuietEmit.Syntax
