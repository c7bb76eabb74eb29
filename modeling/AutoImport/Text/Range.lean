/-!
# Ranges of characters

Sets of characters as lists of ranges of code points, the form in which the Unicode Standard
publishes its properties. The tables of this library are those of version 17.
-/

namespace AutoImport.Text

/-- Whether a code point lies in one of the ranges, the ends included. -/
def inRanges (ranges : List (Nat × Nat)) (n : Nat) : Bool :=
  ranges.any fun (low, high) => low ≤ n && n ≤ high

end AutoImport.Text
