/-
  QuietEmit.Text.Quoted

  Text shown between double quotes inside messages: what does not print, or
  would join the character before it, is written as an escape.
-/
import QuietEmit.Unicode.Properties

namespace QuietEmit.Text

/-- A number in lower-case hexadecimal digits. -/
def lowerHex (n : Nat) : String := String.ofList (Nat.toDigits 16 n)

/-- Characters shown as they are. -/
def isPrintable (c : Char) : Bool :=
  if c.toNat < 128 then 32 ≤ c.toNat && c.toNat != 127
  else !(Unicode.isBlank c || Unicode.inRanges Unicode.Category.control c ||
    Unicode.inRanges Unicode.Category.format c || Unicode.inRanges Unicode.Category.privateUse c ||
    Unicode.isExtender c || Unicode.Category.unassigned c)

/-- One character of quoted text. -/
def shown (c : Char) : String :=
  match c with
  | '"' => "\\\""
  | '\\' => "\\\\"
  | '\n' => "\\n"
  | '\r' => "\\r"
  | '\t' => "\\t"
  | '\x00' => "\\0"
  | c => if isPrintable c then String.singleton c else "\\u\x7b" ++ lowerHex c.toNat ++ "\x7d"

/-- The text between double quotes. -/
def debugQuoted (s : String) : String := "\"" ++ String.join (s.toList.map shown) ++ "\""

end QuietEmit.Text
