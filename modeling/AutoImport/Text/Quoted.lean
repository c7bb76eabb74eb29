import AutoImport.Text.Mark
import AutoImport.Text.Unassigned

/-!
# Quoted texts

A text as a message quotes it: between double quotes, with everything escaped that a reader could
not see or could not tell apart. These are the quote and the backslash, the control characters,
blanks other than the space, the characters without a shape of their own, code points without a
character, and the marks, which would be drawn onto the character before them.
-/

namespace AutoImport.Text

/-- The ranges of the characters that show nothing: controls, formats, blanks other than the space,
    the fillers of Hangul, and those for private use. -/
def unprintableRanges : List (Nat × Nat) := [
  (0x0, 0x1F), (0x7F, 0xA0), (0xAD, 0xAD), (0x600, 0x605), (0x61C, 0x61C), (0x6DD, 0x6DD),
  (0x70F, 0x70F), (0x890, 0x891), (0x8E2, 0x8E2), (0x115F, 0x1160), (0x1680, 0x1680),
  (0x180E, 0x180E), (0x2000, 0x200B), (0x200D, 0x200F), (0x2028, 0x202F), (0x205F, 0x2064),
  (0x2066, 0x206F), (0x3000, 0x3000), (0x3164, 0x3164), (0xE000, 0xF8FF), (0xFEFF, 0xFEFF),
  (0xFFA0, 0xFFA0), (0xFFF9, 0xFFFB), (0x110BD, 0x110BD), (0x110CD, 0x110CD), (0x13430, 0x1343F),
  (0x1BCA0, 0x1BCA3), (0x1D173, 0x1D17A), (0xE0001, 0xE0001), (0xF0000, 0xFFFFD),
  (0x100000, 0x10FFFD)]

/-- A character that shows nothing, or nothing that a reader would know. -/
def isUnprintable (c : Char) : Bool :=
  inRanges unprintableRanges c.toNat || isUnassigned c

/-- A character by its number, in lower-case hexadecimal digits. -/
def numberEscape (c : Char) : List Char :=
  "\\u\x7b".toList ++ Nat.toDigits 16 c.toNat ++ ['\x7d']

/-- A character between double quotes. -/
def escapeQuoted (c : Char) : List Char :=
  if c = '"' || c = '\\' then ['\\', c]
  else if c = '\n' then ['\\', 'n']
  else if c = '\r' then ['\\', 'r']
  else if c = '\t' then ['\\', 't']
  else if c = '\x00' then ['\\', '0']
  else if isMark c || isUnprintable c then numberEscape c
  else [c]

/-- A text between double quotes. -/
def quoted (text : String) : String :=
  "\"" ++ .ofList (text.toList.flatMap escapeQuoted) ++ "\""

end AutoImport.Text
