/-
  QuietEmit.Diagnostic.Basic

  Diagnostics as data: a category, a code, a message, and where it applies.
  Positions count lines and characters from 1.
-/
import QuietEmit.Path

namespace QuietEmit

/-! ## Codes -/

namespace Code

/-- The source is not well formed. -/
def syntaxError : UInt32 := 1000
/-- The source is well formed and breaks a rule of the language. -/
def semantic : UInt32 := 2000
/-- A declaration file needs a type that is not written down. -/
def declaration : UInt32 := 9007
/-- The project configuration cannot be used. -/
def configuration : UInt32 := 5083
/-- An input cannot be read. -/
def missingFile : UInt32 := 6053
/-- An output cannot be written. -/
def output : UInt32 := 5033
/-- A module specifier cannot be redirected. -/
def redirection : UInt32 := 6059
/-- The project has no inputs. -/
def withoutInputs : UInt32 := 18003
/-- A watch session starts its first cycle. -/
def cycleStart : UInt32 := 6031
/-- A change starts a cycle. -/
def changeStart : UInt32 := 6032
/-- A cycle has ended. -/
def cycleEnd : UInt32 := 6194

end Code

/-! ## Positions -/

/-- A line and a column, both counted from 1. -/
structure Position where
  line : UInt32
  column : UInt32
deriving DecidableEq, Repr

namespace Position

/-- The largest number a line or column can hold. -/
def limit : Nat := UInt32.size - 1

/-- A count as a 32-bit number, held at the limit. -/
def clamp (n : Nat) : UInt32 := UInt32.ofNat (min n limit)

/-- The position just after the text: one more than its newlines, and one more
than the characters after the last of them. -/
def after (before : List Char) : Position :=
  ⟨clamp (before.count '\n' + 1), clamp ((before.reverse.takeWhile (· != '\n')).length + 1)⟩

/-- The position of a byte offset. Past the end, or inside a character, it is
the position of the end. -/
def ofOffset (source : List Char) (offset : Nat) : Position :=
  match Text.splitBytes? offset source with
  | some (before, _) => after before
  | none => after source

end Position

/-! ## Diagnostics -/

/-- How grave a diagnostic is. -/
inductive Category where
  | error
  | warning
  | suggestion
  | message
deriving DecidableEq, Repr

/-- The word for the category. -/
def Category.text : Category → String
  | .error => "error"
  | .warning => "warning"
  | .suggestion => "suggestion"
  | .message => "message"

/-- One diagnostic. -/
structure Diagnostic where
  category : Category
  code : UInt32
  message : String
  file : Option Path
  position : Option Position
deriving DecidableEq, Repr

namespace Diagnostic

/-- An error with no place. -/
def error (code : UInt32) (message : String) : Diagnostic := ⟨.error, code, message, none, none⟩

/-- A status message with no place. -/
def status (code : UInt32) (message : String) : Diagnostic := ⟨.message, code, message, none, none⟩

/-- The same in a file. -/
def inFile (d : Diagnostic) (file : Path) : Diagnostic := { d with file := some file }

/-- The same at a position. -/
def atPosition (d : Diagnostic) (position : Position) : Diagnostic := { d with position := some position }

/-- The same at a byte offset of the source. -/
def atOffset (d : Diagnostic) (source : List Char) (offset : Nat) : Diagnostic :=
  d.atPosition (Position.ofOffset source offset)

/-- Whether the diagnostic counts as an error. -/
def isError (d : Diagnostic) : Bool := d.category == .error

end Diagnostic

end QuietEmit
