import AutoImport.Text.Digit
import AutoImport.Toml.Basic

/-!
# Numbers, dates and times in TOML

Whole numbers of 64 bits, in base ten with a sign or in base 16, 8 or 2 without one; floating-point
numbers, which have a fraction, an exponent or both, or are `inf` or `nan`; and dates and times. A
single underscore may stand between two digits of a number. Dates and times are checked, down to the
days of February, but not calculated with.

A whole number outside the range is refused, and so is a floating-point number too large for the
format, though a negative one reads as minus infinity.
-/

namespace AutoImport.Toml

/-! ## Digits -/

/-- The longest run of digits, in the sense of `isDigit`, with single underscores between them.
    Gives the digits alone. -/
def digitRun (isDigit : Char → Bool) : List Char → List Char × List Char
  | '_' :: c :: cs =>
    if isDigit c then
      let (digits, rest) := digitRun isDigit cs
      (c :: digits, rest)
    else ([], '_' :: c :: cs)
  | c :: cs =>
    if isDigit c then
      let (digits, rest) := digitRun isDigit cs
      (c :: digits, rest)
    else ([], c :: cs)
  | [] => ([], [])

/-- At least one digit, with single underscores between digits. -/
def readDigits (isDigit : Char → Bool) : Reader (List Char)
  | c :: cs =>
    if isDigit c then
      let (digits, rest) := digitRun isDigit cs
      some (c :: digits, rest)
    else none
  | [] => none

/-- The sign a number starts with, whether there is one, and whether it is a minus. -/
def readSign : List Char → Bool × List Char
  | '+' :: cs => (false, cs)
  | '-' :: cs => (true, cs)
  | cs => (false, cs)

/-! ## Numbers -/

/-- A whole number, if it has 64 bits. -/
def integer? (n : Int) : Option Value :=
  if -0x8000000000000000 ≤ n && n < 0x8000000000000000 then some (.integer n) else none

/-- The digits of a number in base `base`, after the letters that announce the base. -/
def readBased (base : Nat) : Reader Value := fun cs => do
  let isDigit (c : Char) := (Text.hexDigit? c).any (· < base)
  let (digits, rest) ← readDigits isDigit cs
  let n := digits.foldl (fun n c => n * base + (Text.hexDigit? c).getD 0) 0
  some (← integer? n, rest)

/-- The whole part of a number: a zero alone, or digits that start with none. -/
def readWhole : Reader (List Char)
  | '0' :: cs => some (['0'], cs)
  | cs => readDigits Char.isDigit cs

/-- The digits after the point, if there is a point. -/
def readFraction : Reader (Option (List Char))
  | '.' :: cs => (readDigits Char.isDigit cs).map fun (digits, rest) => (some digits, rest)
  | cs => some (none, cs)

/-- The exponent, if there is one. -/
def readExponent : Reader (Option Int)
  | e :: cs =>
    if e = 'e' || e = 'E' then do
      let (negative, cs) := readSign cs
      let (digits, rest) ← readDigits Char.isDigit cs
      let n : Int := Nat.ofDigitChars 10 digits 0
      some (some (if negative then -n else n), rest)
    else some (none, e :: cs)
  | [] => some (none, [])

/-- A floating-point number, unless it is too large. -/
def float? (d : Decimal) : Option Value :=
  match d.toReal64 with
  | .infinite false => none
  | x => some (.float x)

/-- The digits of a number in base ten, after its sign. -/
def readDecimal (negative : Bool) : Reader Value := fun cs => do
  let (whole, cs) ← readWhole cs
  let (fraction?, cs) ← readFraction cs
  let (exponent?, cs) ← readExponent cs
  if fraction?.isNone && exponent?.isNone then
    let n : Int := Nat.ofDigitChars 10 whole 0
    some (← integer? (if negative then -n else n), cs)
  else
    let fraction := fraction?.getD []
    let value ← float? ⟨negative, Nat.ofDigitChars 10 (whole ++ fraction) 0,
      exponent?.getD 0 - fraction.length⟩
    some (value, cs)

/-- A number. -/
def readNumber : Reader Value
  | '0' :: 'x' :: cs => readBased 16 cs
  | '0' :: 'o' :: cs => readBased 8 cs
  | '0' :: 'b' :: cs => readBased 2 cs
  | cs =>
    match readSign cs with
    | (negative, 'i' :: 'n' :: 'f' :: rest) => some (.float (.infinite negative), rest)
    | (_, 'n' :: 'a' :: 'n' :: rest) => some (.float .notANumber, rest)
    | (negative, cs) => readDecimal negative cs

/-! ## Dates and times -/

/-- A number of exactly `count` digits. -/
def readFixed (count : Nat) : Reader Nat := fun cs =>
  let digits := cs.take count
  if digits.length = count && digits.all Char.isDigit then
    some (Nat.ofDigitChars 10 digits 0, cs.drop count)
  else none

/-- A number of two digits, from `low` to `high`. -/
def readField (low high : Nat) : Reader Nat := fun cs => do
  let (n, rest) ← readFixed 2 cs
  if low ≤ n && n ≤ high then some (n, rest) else none

/-- Takes one character off the text. -/
def expect? (expected : Char) : List Char → Option (List Char)
  | c :: cs => if c = expected then some cs else none
  | [] => none

/-- Whether a year has a 29th of February. -/
def isLeapYear (year : Nat) : Bool :=
  year % 4 == 0 && (year % 100 != 0 || year % 400 == 0)

/-- The number of days of a month. -/
def daysOf (year month : Nat) : Nat :=
  if month = 2 then if isLeapYear year then 29 else 28
  else if month = 4 || month = 6 || month = 9 || month = 11 then 30
  else 31

/-- Takes a date off the text. -/
def date? (cs : List Char) : Option (List Char) := do
  let (year, cs) ← readFixed 4 cs
  let (month, cs) ← readField 1 12 (← expect? '-' cs)
  let (day, cs) ← readField 1 31 (← expect? '-' cs)
  if day ≤ daysOf year month then some cs else none

/-- Takes the fraction of a second off the text, if there is one. -/
def secondFraction? : List Char → Option (List Char)
  | '.' :: cs =>
    let rest := cs.dropWhile Char.isDigit
    if rest.length < cs.length then some rest else none
  | cs => some cs

/-- Takes a time off the text. A minute may have a leap second. -/
def time? (cs : List Char) : Option (List Char) := do
  let (_, cs) ← readField 0 23 cs
  let (_, cs) ← readField 0 59 (← expect? ':' cs)
  let (_, cs) ← readField 0 60 (← expect? ':' cs)
  secondFraction? cs

/-- Takes a distance from universal time off the text, if there is one. -/
def offset? : List Char → Option (List Char)
  | 'Z' :: cs => some cs
  | 'z' :: cs => some cs
  | c :: cs =>
    if c = '+' || c = '-' then do
      let (_, cs) ← readField 0 23 cs
      let (_, cs) ← readField 0 59 (← expect? ':' cs)
      some cs
    else some (c :: cs)
  | [] => some []

/-- Takes the time of a day off the text, if there is one: after a `T` or a blank. -/
def timeOfDay? : List Char → Option (List Char)
  | c :: cs =>
    if c = 'T' || c = 't' || c = ' ' then
      match time? cs with
      | some cs => offset? cs
      | none => some (c :: cs)
    else some (c :: cs)
  | [] => some []

/-- Reads a date, a time or both. -/
def readMoment : Reader Value := fun cs => do
  let rest ← ((date? cs).bind timeOfDay?).or (time? cs)
  some (.moment (.ofList (cs.take (cs.length - rest.length))), rest)

end AutoImport.Toml
