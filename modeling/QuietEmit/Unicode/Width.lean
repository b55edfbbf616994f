/-
  QuietEmit.Unicode.Width

  Columns that characters take on a terminal. Control sequences, such as those
  that set colours, take none.
-/
import QuietEmit.Unicode.Properties

namespace QuietEmit.Unicode

/-- Characters two columns wide. -/
def wide : List Range :=
  decode [
    "1100-115F 231A-231B 2329-232A 23E9-23EC 23F0 23F3 25FD-25FE 2614-2615 2630-2637 2648-2653",
    "267F 268A-268F 2693 26A1 26AA-26AB 26BD-26BE 26C4-26C5 26CE 26D4 26EA 26F2-26F3 26F5 26FA",
    "26FD 2705 270A-270B 2728 274C 274E 2753-2755 2757 2795-2797 27B0 27BF 2B1B-2B1C 2B50 2B55",
    "2E80-2E99 2E9B-2EF3 2F00-2FD5 2FF0-3029 3030-303E 3041-3096 309B-30FF 3105-312F 3131-3163",
    "3165-318E 3190-31E5 31EF-321E 3220-3247 3250-A48C A490-A4C6 A960-A97C AC00-D7A3 F900-FA6D",
    "FA70-FAD9 FE10-FE19 FE30-FE52 FE54-FE66 FE68-FE6B FF01-FF60 FFE0-FFE6 16FE0-16FE3",
    "17000-187F7 18800-18CD5 18CFF-18D08 1AFF0-1AFF3 1AFF5-1AFFB 1AFFD-1AFFE 1B000-1B122 1B132",
    "1B150-1B152 1B155 1B164-1B167 1B170-1B2FB 1D300-1D356 1D360-1D376 1F004 1F0CF 1F18E",
    "1F191-1F19A 1F200-1F202 1F210-1F23B 1F240-1F248 1F250-1F251 1F260-1F265 1F300-1F320",
    "1F32D-1F335 1F337-1F37C 1F37E-1F393 1F3A0-1F3CA 1F3CF-1F3D3 1F3E0-1F3F0 1F3F4 1F3F8-1F43E",
    "1F440 1F442-1F4FC 1F4FF-1F53D 1F54B-1F54E 1F550-1F567 1F57A 1F595-1F596 1F5A4 1F5FB-1F64F",
    "1F680-1F6C5 1F6CC 1F6D0-1F6D2 1F6D5-1F6D7 1F6DC-1F6DF 1F6EB-1F6EC 1F6F4-1F6FC 1F7E0-1F7EB",
    "1F7F0 1F90C-1F93A 1F93C-1F945 1F947-1F9FF 1FA70-1FA7C 1FA80-1FA89 1FA8F-1FAC6 1FACE-1FADC",
    "1FADF-1FAE9 1FAF0-1FAF8 20000-2FFFD 30000-3FFFD"]

/-- Characters without a column of their own that are neither nonspacing nor enclosing marks. -/
def otherWidthless : List Range :=
  decode [
    "AD 605 61C 70F 890-891 8E2 9BE 9D7 B3E B57 BBE BD7 CC0 CC2 CC7-CC8 CCA-CCB CD5-CD6 D3E",
    "D4E D57 DCF DDF 1160-11FF 1715 1734 180E 1B35 1B3B 1B3D 1B43-1B44 1BAA 1BF2-1BF3",
    "200B-200F 202A-202E 2060-206F 302E-302F 3164 A8FA A953 A9C0 D7B0-D7C6 D7CB-D7FB FEFF",
    "FF9E-FFA0 FFF0-FFF8 111C0 111C2-111C3 11235 1133E 1134D 11357 113B8 113C2 113C5",
    "113C7-113C9 113CF 113D1 114B0 114BD 115AF 116B6 11930 1193D-11941/2 11A3A 11A84-11A89",
    "11D46 11F02 11F41 16FF0-16FF1 1BCA0-1BCA3 1D165-1D166 1D16D-1D17A E0000-E00FF E01F0-E0FFF"]

/-- Columns a character takes on a terminal. -/
def width (c : Char) : Nat :=
  let n := c.toNat
  if n < 32 || (127 ≤ n && n < 160) then 0
  else if n < 128 then 1
  else if inRanges Category.nonspacingMark c || inRanges Category.enclosingMark c ||
      inRanges otherWidthless c then 0
  else if n == 0x17D8 then 3
  else if n == 0x17A4 || inRanges wide c then 2
  else 1

/-! ## Control sequences -/

/-- Where a reader of terminal output stands. -/
inductive Escape where
  /-- Among characters that are shown. -/
  | outside
  /-- After an escape character. -/
  | introduced
  /-- In a control sequence, which a character from `@` to `~` ends. -/
  | sequence
  /-- In a command, which a bell or an escaped backslash ends. -/
  | command (last : Char)
deriving DecidableEq, Repr, Inhabited

namespace Escape

/-- Whether a character is shown, and where the reader stands after it. -/
def step : Escape → Char → Bool × Escape
  | .outside, c => if c == '\x1b' then (false, .introduced) else (true, .outside)
  | .introduced, c =>
    if c == '[' then (false, .sequence)
    else if c == ']' then (false, .command ']')
    else (false, .outside)
  | .sequence, c => (false, if '@' ≤ c && c ≤ '~' then .outside else .sequence)
  | .command last, c =>
    if c == '\x07' || (c == '\\' && last == '\x1b') then (false, .outside) else (false, .command c)

/-- Characters with a mark on those that are shown. -/
def marked : Escape → List Char → List (Bool × Char)
  | _, [] => []
  | e, c :: rest =>
    let (shown, after) := e.step c
    (shown, c) :: after.marked rest

end Escape

/-- Columns a text takes on a terminal. -/
def textWidth (cs : List Char) : Nat :=
  (Escape.outside.marked cs).foldl (fun n (shown, c) => if shown then n + width c else n) 0

end QuietEmit.Unicode
