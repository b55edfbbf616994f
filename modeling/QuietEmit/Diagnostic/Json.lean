/-
  QuietEmit.Diagnostic.Json

  Diagnostics as JSON. What is absent is left out when writing; reading accepts
  `null` for it, and fields of other names.
-/
import QuietEmit.Diagnostic.Basic
import QuietEmit.Json.Reader
import QuietEmit.Json.Printer

namespace QuietEmit

open Json (Reader)

namespace Category

/-- The words of all categories. -/
def words : List String := ["error", "warning", "suggestion", "message"]

/-- The category for a word. -/
def ofText? : String → Option Category
  | "error" => some .error
  | "warning" => some .warning
  | "suggestion" => some .suggestion
  | "message" => some .message
  | _ => none

/-- Read a category. -/
def read : Reader Category := do
  let word ← Reader.variant words
  return (ofText? word).getD .message

end Category

namespace Position

/-- The fields of a position. -/
def shape : Reader.Shape Position where
  name := "struct Position"
  closed := false
  fields := [
    ⟨"line", true, fun p => do return { p with line := ← Reader.word32 }⟩,
    ⟨"column", true, fun p => do return { p with column := ← Reader.word32 }⟩]

/-- Write a position. -/
def toJson (p : Position) : String :=
  Json.object [("line", toString p.line), ("column", toString p.column)]

end Position

namespace Diagnostic

/-- The fields of a diagnostic. -/
def shape : Reader.Shape Diagnostic where
  name := "struct DiagnosticRecord"
  closed := false
  fields := [
    ⟨"category", true, fun r => do return { r with category := ← Category.read }⟩,
    ⟨"code", true, fun r => do return { r with code := ← Reader.word32 }⟩,
    ⟨"message", true, fun r => do return { r with message := ← Reader.text "a string" }⟩,
    ⟨"file", false, fun r => do
      return { r with file := (← Reader.optional (Reader.text "path string")).map Path.mk }⟩,
    ⟨"position", false, fun r => do
      return { r with position := ← Reader.optional (Position.shape.read ⟨0, 0⟩) }⟩]

/-- Read a diagnostic from a whole text. -/
def ofJson (text : String) : Except Json.Error Diagnostic :=
  (shape.read ⟨.message, 0, "", none, none⟩).run text.toList

/-- Write a diagnostic. -/
def toJson (r : Diagnostic) : String :=
  Json.object ([("category", Json.quoted r.category.text), ("code", toString r.code),
      ("message", Json.quoted r.message)] ++
    (r.file.map fun f => ("file", Json.quoted f.text)).toList ++
    (r.position.map fun p => ("position", p.toJson)).toList)

end Diagnostic

end QuietEmit
