/-
  QuietEmit.OsPath

  Paths as the system has them: bytes, which need not be UTF-8. A slash and a dot are
  single bytes, so with one character for each byte (`OsPath.spelled`) such a path is
  taken apart like any other. A name is compared with texts only if its bytes are one
  (`Bytes.text?`); what is shown of a path is its lossy text, in which U+FFFD stands for
  bytes that cannot be read.
-/
import QuietEmit.Path

namespace QuietEmit

/-! ## Bytes and texts -/

namespace Bytes

/-- The UTF-8 form of a text. -/
def ofText (s : String) : List UInt8 := s.toList.flatMap String.utf8EncodeChar

/-- Stands for bytes that cannot be read. -/
def replacement : Char := '\uFFFD'

/-- The ranges of the bytes after the first byte of a character; `none` where no character starts
with the byte. -/
def followers? (first : Nat) : Option (List (Nat × Nat)) :=
  let tail := (0x80, 0xBF)
  if first < 0x80 then some []
  else if first < 0xC2 then none
  else if first < 0xE0 then some [tail]
  else if first < 0xF0 then
    some [(if first = 0xE0 then 0xA0 else 0x80, if first = 0xED then 0x9F else 0xBF), tail]
  else if first < 0xF5 then
    some [(if first = 0xF0 then 0x90 else 0x80, if first = 0xF4 then 0x8F else 0xBF), tail, tail]
  else none

/-- A character of which the first bytes were read: what they make, and the ranges of the next
byte and of those after it. -/
structure Begun where
  value : Nat
  next : Nat × Nat
  later : List (Nat × Nat)
deriving DecidableEq, Repr

/-- Read the first byte of a character: what is complete, and what has begun. -/
def readFirst (b : UInt8) : List Char × Option Begun :=
  match followers? b.toNat with
  | none => ([replacement], none)
  | some [] => ([Char.ofNat b.toNat], none)
  | some (next :: later) => ([], some ⟨b.toNat % (0x20 >>> later.length), next, later⟩)

/-- Read one byte. One that does not continue the character that has begun may start another. -/
def readByte (begun : Option Begun) (b : UInt8) : List Char × Option Begun :=
  match begun with
  | none => readFirst b
  | some c =>
    if c.next.1 ≤ b.toNat ∧ b.toNat ≤ c.next.2 then
      let value := c.value * 64 + b.toNat % 64
      match c.later with
      | [] => ([Char.ofNat value], none)
      | next :: later => ([], some ⟨value, next, later⟩)
    else
      let (complete, begun) := readFirst b
      (replacement :: complete, begun)

/-- Read bytes, after those of a character that has begun. -/
def readFrom : Option Begun → List UInt8 → List Char
  | none, [] => []
  | some _, [] => [replacement]
  | begun, b :: bs =>
    let (complete, begun) := readByte begun b
    complete ++ readFrom begun bs

/-- The text of bytes, with replacements for what cannot be read. -/
def lossy (bs : List UInt8) : String := String.ofList (readFrom none bs)

/-- The text that the bytes are the UTF-8 form of. -/
def text? (bs : List UInt8) : Option String :=
  if ofText (lossy bs) = bs then some (lossy bs) else none

/-- One character for each byte. -/
def spell (bs : List UInt8) : String := String.ofList (bs.map Char.ofUInt8)

/-- The bytes that a text spells. -/
def ofSpelled (s : String) : List UInt8 := s.toList.map Char.toUInt8

end Bytes

/-- A step of a path whose name is spelt byte by byte, with the text of the name; `none` where it
has none. -/
def Component.read? : Component → Option Component
  | .name s => (Bytes.text? (Bytes.ofSpelled s)).map .name
  | c => some c

/-! ## Paths -/

/-- A path of the system. -/
structure OsPath where
  bytes : List UInt8
deriving DecidableEq, Repr, Inhabited

namespace OsPath

/-- The path with this text. -/
def ofText (s : String) : OsPath := ⟨Bytes.ofText s⟩

/-- A path that is a text. -/
def ofPath (p : Path) : OsPath := ofText p.text

instance : Coe Path OsPath := ⟨ofPath⟩

/-- The path with one character for each byte. -/
def spelled (p : OsPath) : Path := ⟨Bytes.spell p.bytes⟩

/-- The path that is so spelt. -/
def ofSpelled (p : Path) : OsPath := ⟨Bytes.ofSpelled p.text⟩

/-- The path as it is shown. -/
def lossy (p : OsPath) : Path := ⟨Bytes.lossy p.bytes⟩

/-- The bytes of the path are a text. -/
def isText (p : OsPath) : Bool := (Bytes.text? p.bytes).isSome

/-- Whether the path starts at the root. -/
def isAbsolute (p : OsPath) : Bool := p.spelled.isAbsolute

/-- The steps of the path, their names spelt byte by byte. -/
def components (p : OsPath) : List Component := p.spelled.components

/-- Two paths name the same place by their bytes alone. -/
def same (a b : OsPath) : Bool := a.components == b.components

/-- Whether the components of `base` begin those of `p`. -/
def startsWith (p base : OsPath) : Bool := p.spelled.startsWith base.spelled

/-- What is left of `p` below `base`, if `base` is above it. -/
def below? (p base : OsPath) : Option OsPath := (p.spelled.below? base.spelled).map ofSpelled

/-- Lexical normal form. -/
def clean (p : OsPath) : OsPath := ofSpelled p.spelled.clean

/-- A path in the spelling that `clean` produces. -/
def isClean (p : OsPath) : Bool := p.clean == p

/-- Append `rel` below `p`; an absolute `rel` stands for itself. -/
def join (p rel : OsPath) : OsPath := ofSpelled (p.spelled.join rel.spelled)

/-- The directory part used as a base, empty when there is no parent. -/
def parentOrEmpty (p : OsPath) : OsPath := ofSpelled p.spelled.parentOrEmpty

/-- The last step, when it is a name and that a text. -/
def fileName (p : OsPath) : Option String :=
  p.spelled.fileName.bind fun s => Bytes.text? (Bytes.ofSpelled s)

/-- The part of the last step after its last dot, when it is a text. -/
def extension (p : OsPath) : Option String :=
  p.spelled.extension.bind fun s => Bytes.text? (Bytes.ofSpelled s)

end OsPath

end QuietEmit
