/-!
# Binary64 numbers and their decimals

The finite double-precision numbers, as exact values `± significand · 2 ^ exponent`, and the passage
between them and decimals `± digits · 10 ^ exponent`. All arithmetic is on natural numbers, so
nothing is rounded except where a rounding is the point.

* `Binary64.ofRatio?` rounds a quotient to the nearest such number, ties to an even significand. It
  gives nothing exactly when the quotient is too large for the format.
* `Decimal.toBinary64?` reads a decimal so.
* `Binary64.shortest` finds the decimal with the fewest digits that reads back as the number, and of
  those the nearest. It only ever returns a decimal that reads back: the candidates are tried by
  reading them, and the exact value, which is a decimal too, stands behind them.
-/

namespace AutoImport

/-- The significands and exponents of the format, each number in its one form: 53 bits are used
    unless the exponent is the smallest. -/
def Binary64.IsCanonical (significand : Nat) (exponent : Int) : Prop :=
  significand < Nat.pow 2 53 ∧ -1074 ≤ exponent ∧ exponent ≤ 971 ∧
    (Nat.pow 2 52 ≤ significand ∨ exponent = -1074)

instance (m : Nat) (q : Int) : Decidable (Binary64.IsCanonical m q) :=
  inferInstanceAs (Decidable (_ ∧ _))

/-- A finite binary64 number, `± significand · 2 ^ exponent`. -/
structure Binary64 where
  negative : Bool
  significand : Nat
  exponent : Int
  canonical : Binary64.IsCanonical significand exponent
  deriving DecidableEq

/-- A decimal, `± digits · 10 ^ exponent`. -/
structure Decimal where
  negative : Bool
  digits : Nat
  exponent : Int
  deriving DecidableEq, Repr

/-- A quotient rounded to the nearest natural number, a tie to the even one. -/
def roundHalfEven (num den : Nat) : Nat :=
  let q := num / den
  let twice := 2 * (num % den)
  if twice < den || (twice == den && q % 2 == 0) then q else q + 1

/-- The quotient `num / den`, multiplied by `base ^ power`, again as a quotient. -/
def scaleRatio (base num den : Nat) (power : Int) : Nat × Nat :=
  if 0 ≤ power then (num * Nat.pow base power.toNat, den)
  else (num, den * Nat.pow base (-power).toNat)

/-- How many decimal digits a number has, zero having one. -/
def decimalLength (n : Nat) : Nat :=
  (Nat.toDigits 10 n).length

namespace Binary64

/-- Zero, of either sign. -/
def zero (negative : Bool) : Binary64 :=
  ⟨negative, 0, -1074, by decide⟩

/-- The number with this significand and exponent, if the format has it. -/
def ofParts? (negative : Bool) (significand : Nat) (exponent : Int) : Option Binary64 :=
  if h : IsCanonical significand exponent then some ⟨negative, significand, exponent, h⟩ else none

/-- The exponent of the leading bit of `num / den`, for positive `num` and `den`: the `k` with
    `2 ^ k ≤ num / den < 2 ^ (k + 1)`. -/
def leadingBit (num den : Nat) : Int :=
  let k : Int := num.log2 - den.log2
  let (n, d) := scaleRatio 2 num den (-k)
  if d ≤ n then k else k - 1

/-- The number nearest to `num / den`, ties to an even significand, or nothing when that is beyond
    the largest one. -/
def ofRatio? (negative : Bool) (num den : Nat) : Option Binary64 :=
  if num = 0 then some (zero negative) else
  let exponent := max (leadingBit num den - 52) (-1074)
  let (n, d) := scaleRatio 2 num den (-exponent)
  let significand := roundHalfEven n d
  -- rounding up may carry into a bit of its own
  if significand = Nat.pow 2 53 then ofParts? negative (Nat.pow 2 52) (exponent + 1)
  else ofParts? negative significand exponent

/-- The magnitude of the number as a quotient. -/
def toRatio (x : Binary64) : Nat × Nat :=
  scaleRatio 2 x.significand 1 x.exponent

end Binary64

namespace Decimal

/-- The binary64 number nearest to a decimal, or nothing when the decimal is too large. Exponents
    far outside the range of the format are decided without forming the power. -/
def toBinary64? (d : Decimal) : Option Binary64 :=
  let magnitude : Int := decimalLength d.digits + d.exponent
  if d.digits = 0 || magnitude < -330 then some (.zero d.negative)
  else if 310 < magnitude then none
  else
    let (num, den) := scaleRatio 10 d.digits 1 d.exponent
    Binary64.ofRatio? d.negative num den

/-- The decimal without the zeros its digits end with. -/
def normalize (d : Decimal) : Decimal :=
  let rec go (fuel digits : Nat) (exponent : Int) : Decimal :=
    match fuel with
    | 0 => ⟨d.negative, digits, exponent⟩
    | fuel + 1 =>
      if digits ≠ 0 && digits % 10 = 0 then go fuel (digits / 10) (exponent + 1)
      else ⟨d.negative, digits, exponent⟩
  go (decimalLength d.digits) d.digits d.exponent

end Decimal

namespace Binary64

/-- The number as an exact decimal. -/
def exactDecimal (x : Binary64) : Decimal :=
  if 0 ≤ x.exponent then ⟨x.negative, x.significand * Nat.pow 2 x.exponent.toNat, 0⟩
  else ⟨x.negative, x.significand * Nat.pow 5 (-x.exponent).toNat, x.exponent⟩

/-- The exponent of the leading digit of `num / den`, for positive `num` and `den`. -/
def leadingDigit (num den : Nat) : Int :=
  let k : Int := decimalLength num - decimalLength den
  let (n, d) := scaleRatio 10 num den (-k)
  if d ≤ n then k else k - 1

/-- The two decimals of `count` digits around the number, the nearer one first and of two equally
    near the even one. -/
def neighbours (x : Binary64) (count : Nat) : List Decimal :=
  let (num, den) := x.toRatio
  let exponent := leadingDigit num den - (count - 1)
  let (n, d) := scaleRatio 10 num den (-exponent)
  let below : Decimal := ⟨x.negative, n / d, exponent⟩
  let above : Decimal := ⟨x.negative, n / d + 1, exponent⟩
  if roundHalfEven n d = n / d then [below, above] else [above, below]

/-- The decimal with the fewest digits that reads back as the number, and of those the nearest. -/
def shortest (x : Binary64) : Decimal :=
  if x.significand = 0 then ⟨x.negative, 0, 0⟩ else
  let candidates := (List.range' 1 17).flatMap x.neighbours
  ((candidates.find? (·.toBinary64? == some x)).getD x.exactDecimal).normalize

end Binary64

/-- The numbers that texts of numbers stand for, those outside the finite ones included. -/
inductive Real64 where
  | finite (x : Binary64)
  | infinite (negative : Bool)
  | notANumber
  deriving DecidableEq

/-- What a decimal reads as: the nearest number, or an infinity when it is too large. -/
def Decimal.toReal64 (d : Decimal) : Real64 :=
  match d.toBinary64? with
  | some x => .finite x
  | none => .infinite d.negative

/-! ## Written forms -/

namespace Decimal

/-- The sign of a decimal. -/
def sign (d : Decimal) : String :=
  if d.negative then "-" else ""

/-- The exponent of the first digit. -/
def leadingExponent (d : Decimal) : Int :=
  decimalLength d.digits - 1 + d.exponent

/-- The digits with the point where the exponent puts it. A whole number gets `wholeSuffix`. -/
def positional (d : Decimal) (wholeSuffix : String) : String :=
  let digits := Nat.toDigits 10 d.digits
  if 0 ≤ d.exponent then
    d.sign ++ .ofList (digits ++ List.replicate d.exponent.toNat '0') ++ wholeSuffix
  else
    let places := (-d.exponent).toNat
    let padded := List.replicate (places + 1 - digits.length) '0' ++ digits
    let whole := padded.take (padded.length - places)
    d.sign ++ .ofList whole ++ "." ++ .ofList (padded.drop whole.length)

/-- One digit before the point, the others after it, and the exponent with its sign. -/
def scientific (d : Decimal) : String :=
  let e := d.leadingExponent
  let power := (if e < 0 then "e-" else "e+") ++ e.natAbs.repr
  match Nat.toDigits 10 d.digits with
  | first :: others@(_ :: _) => d.sign ++ .ofList [first, '.'] ++ .ofList others ++ power
  | digits => d.sign ++ .ofList digits ++ power

end Decimal

/-- A number written out in full: no exponent, and a point only before a fraction. -/
def Real64.plainText : Real64 → String
  | .finite x => x.shortest.positional ""
  | .infinite negative => if negative then "-inf" else "inf"
  | .notANumber => "NaN"

end AutoImport
