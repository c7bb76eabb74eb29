/-!
# Digits

The values of digits, for the number formats that the program reads.
-/

namespace AutoImport.Text

/-- The value of a hexadecimal digit. -/
def hexDigit? (c : Char) : Option Nat :=
  if c.isDigit then some (c.toNat - '0'.toNat)
  else if 'a' ≤ c && c ≤ 'f' then some (c.toNat - 'a'.toNat + 10)
  else if 'A' ≤ c && c ≤ 'F' then some (c.toNat - 'A'.toNat + 10)
  else none

/-- The number that hexadecimal digits stand for, if that is what they are. -/
def hexNumber? (cs : List Char) : Option Nat :=
  cs.foldlM (fun n c => (hexDigit? c).map (n * 16 + ·)) 0

/-- The character with this number. The surrogates, and what lies beyond the last plane,
    are none. -/
def charOfNumber? (n : Nat) : Option Char :=
  if n.isValidChar then some (.ofNat n) else none

end AutoImport.Text
