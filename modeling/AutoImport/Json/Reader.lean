import AutoImport.Json.Basic
import AutoImport.Text.Bytes
import AutoImport.Text.Digit

/-!
# Reading JSON

A reader works from left to right and stops at the first fault, so that a fault is always about the
shortest prefix that no correct text has. There are three kinds of fault: the text is `malformed`,
it is `truncated` (every character was fine, but more should follow), or it is correct JSON of the
wrong shape, a `mismatch`. Readers of a value with a shape, such as `Binding.readJson`, are put
together from the parts here: blanks, strings, numbers, and `skipValue`, which passes over a value
nobody asked for.

Passing over a value is more lenient than reading it in one point and stricter in another: the
halves of a surrogate pair are not checked, and a number that breaks off is malformed rather than
truncated.
-/

namespace AutoImport.Json

/-- Why a text could not be read. -/
inductive Fault where
  /-- No JSON text starts like this. -/
  | malformed
  /-- The text ends too early. -/
  | truncated
  /-- The text is JSON, but not of the shape asked for. -/
  | mismatch
  deriving DecidableEq, Repr

/-- A reader takes what it wants from the front of a text, and leaves the rest. -/
abbrev Reader (α : Type) := List Char → Except Fault (α × List Char)

/-! ## Blanks and words -/

/-- The blanks of JSON. -/
def isJsonBlank (c : Char) : Bool :=
  c == ' ' || c == '\n' || c == '\t' || c == '\r'

/-- The text without the blanks it starts with. -/
def skipBlanks (cs : List Char) : List Char :=
  cs.dropWhile isJsonBlank

/-- Takes the letters of a word off the text. -/
def expectWord : List Char → List Char → Except Fault (List Char)
  | [], cs => .ok cs
  | _ :: _, [] => .error .truncated
  | w :: ws, c :: cs => if c = w then expectWord ws cs else .error .malformed

/-- Takes one character off the text, after blanks. -/
def expectChar (expected : Char) (cs : List Char) : Except Fault (List Char) :=
  match skipBlanks cs with
  | [] => .error .truncated
  | c :: rest => if c = expected then .ok rest else .error .malformed

/-! ## Strings -/

/-- The four hexadecimal digits of a `\u` escape. With fewer than four bytes left the text is
    truncated, whatever these bytes are. -/
def readHexUnit : Reader Nat
  | cs@(a :: b :: c :: d :: rest) =>
    match Text.hexDigit? a, Text.hexDigit? b, Text.hexDigit? c, Text.hexDigit? d with
    | some a, some b, some c, some d => .ok (((a * 16 + b) * 16 + c) * 16 + d, rest)
    | _, _, _, _ => .error (if Text.byteLength cs < 4 then .truncated else .malformed)
  | cs => .error (if Text.byteLength cs < 4 then .truncated else .malformed)

/-- The second half of a surrogate pair, and the character that the two stand for. -/
def readLowSurrogate (high : Nat) : Reader Char
  | '\\' :: 'u' :: cs => do
    let (low, rest) ← readHexUnit cs
    if 0xDC00 ≤ low && low ≤ 0xDFFF then
      .ok (.ofNat ((high - 0xD800) * 0x400 + (low - 0xDC00) + 0x10000), rest)
    else .error .malformed
  | ['\\'] => .error .truncated
  | [] => .error .truncated
  | _ => .error .malformed

/-- The character of an escape, its backslash already taken. -/
def readEscape : Reader Char
  | [] => .error .truncated
  | '"' :: rest => .ok ('"', rest)
  | '\\' :: rest => .ok ('\\', rest)
  | '/' :: rest => .ok ('/', rest)
  | 'b' :: rest => .ok ('\x08', rest)
  | 'f' :: rest => .ok ('\x0c', rest)
  | 'n' :: rest => .ok ('\n', rest)
  | 'r' :: rest => .ok ('\r', rest)
  | 't' :: rest => .ok ('\t', rest)
  | 'u' :: cs => do
    let (unit, rest) ← readHexUnit cs
    if 0xDC00 ≤ unit && unit ≤ 0xDFFF then .error .malformed
    else if 0xD800 ≤ unit && unit ≤ 0xDBFF then readLowSurrogate unit rest
    else .ok (.ofNat unit, rest)
  | _ => .error .malformed

/-- An escape that nobody reads: a `\u` takes any four digits. -/
def skipEscape : Reader Char
  | 'u' :: cs => do
    let (_, rest) ← readHexUnit cs
    .ok ('u', rest)
  | cs => readEscape cs

theorem length_le_of_readHexUnit {cs rest : List Char} {n : Nat}
    (h : readHexUnit cs = .ok (n, rest)) : rest.length ≤ cs.length := by
  unfold readHexUnit at h
  split at h
  · split at h
    · simp only [Except.ok.injEq, Prod.mk.injEq] at h
      simp [← h.2]; omega
    · cases h
  · cases h

theorem length_le_of_readLowSurrogate {high : Nat} {cs rest : List Char} {c : Char}
    (h : readLowSurrogate high cs = .ok (c, rest)) : rest.length ≤ cs.length := by
  unfold readLowSurrogate at h
  split at h
  · rename_i cs
    cases hu : readHexUnit cs with
    | error e => simp [hu, bind, Except.bind] at h
    | ok r =>
      have := length_le_of_readHexUnit hu
      simp only [hu, bind, Except.bind] at h
      split at h
      · simp only [Except.ok.injEq, Prod.mk.injEq] at h
        simp only [List.length_cons, ← h.2]; omega
      · cases h
  all_goals cases h

/-- An escape takes at least one character. -/
theorem length_lt_of_readEscape {cs rest : List Char} {c : Char}
    (h : readEscape cs = .ok (c, rest)) : rest.length < cs.length := by
  unfold readEscape at h
  split at h
  case h_10 cs =>
    cases hu : readHexUnit cs with
    | error e => simp [hu, bind, Except.bind] at h
    | ok r =>
      have := length_le_of_readHexUnit hu
      simp only [hu, bind, Except.bind] at h
      split at h
      · cases h
      · split at h
        · have := length_le_of_readLowSurrogate h
          simp only [List.length_cons]; omega
        · simp only [Except.ok.injEq, Prod.mk.injEq] at h
          simp only [List.length_cons, ← h.2]; omega
  all_goals cases h <;> simp

/-- An escape that nobody reads takes at least one character, too. -/
theorem length_lt_of_skipEscape {cs rest : List Char} {c : Char}
    (h : skipEscape cs = .ok (c, rest)) : rest.length < cs.length := by
  unfold skipEscape at h
  split at h
  · rename_i cs
    cases hu : readHexUnit cs with
    | error e => simp [hu, bind, Except.bind] at h
    | ok r =>
      have := length_le_of_readHexUnit hu
      simp only [hu, bind, Except.bind, Except.ok.injEq, Prod.mk.injEq] at h
      simp only [List.length_cons, ← h.2]; omega
  · exact length_lt_of_readEscape h

/-- The characters of a string up to its closing quote; `done` holds those before, last first. -/
def readChars (done : List Char) (cs : List Char) : Except Fault (String × List Char) :=
  match cs with
  | [] => .error .truncated
  | '"' :: rest => .ok (.ofList done.reverse, rest)
  | '\\' :: cs =>
    match h : readEscape cs with
    | .error e => .error e
    | .ok (c, rest) =>
      have := length_lt_of_readEscape h
      readChars (c :: done) rest
  | c :: rest => if c < ' ' then .error .malformed else readChars (c :: done) rest
  termination_by cs.length

/-- A string, its opening quote already taken. -/
def readString : Reader String :=
  readChars []

/-- Passes over a string, its opening quote already taken. -/
def skipString (cs : List Char) : Except Fault (List Char) :=
  match cs with
  | [] => .error .truncated
  | '"' :: rest => .ok rest
  | '\\' :: cs =>
    match h : skipEscape cs with
    | .error e => .error e
    | .ok (_, rest) =>
      have := length_lt_of_skipEscape h
      skipString rest
  | c :: rest => if c < ' ' then .error .malformed else skipString rest
  termination_by cs.length

/-! ## Numbers -/

/-- At least one digit; `missing` is the fault when the text ends instead. -/
def readDigits (missing : Fault) : Reader (List Char) := fun cs =>
  match cs.span Char.isDigit with
  | ([], []) => .error missing
  | ([], _) => .error .malformed
  | (digits, rest) => .ok (digits, rest)

/-- The whole part of a number: a zero alone, or digits that do not start with one. -/
def readWhole (missing : Fault) : Reader (List Char)
  | '0' :: rest => if rest.head?.any Char.isDigit then .error .malformed else .ok (['0'], rest)
  | cs => readDigits missing cs

/-- The digits after the point, if there is a point. -/
def readFraction (missing : Fault) : Reader (List Char)
  | '.' :: cs => readDigits missing cs
  | cs => .ok ([], cs)

/-- The exponent, if there is one. -/
def readExponent (missing : Fault) : Reader (Option Int)
  | e :: cs =>
    if e = 'e' || e = 'E' then do
      let (negative, cs) := match cs with
        | '-' :: cs => (true, cs)
        | '+' :: cs => (false, cs)
        | cs => (false, cs)
      let (digits, rest) ← readDigits missing cs
      let n : Int := Nat.ofDigitChars 10 digits 0
      .ok (some (if negative then -n else n), rest)
    else .ok (none, e :: cs)
  | [] => .ok (none, [])

/-- The value of a number with these parts: a whole number if it has no fraction and no exponent and
    lies in the range of 64 bits, and else a floating-point number. No whole zero is
    negative. -/
def numberOfParts (negative : Bool) (whole fraction : List Char) (exponent : Option Int) :
    Except Fault Json :=
  let n := Nat.ofDigitChars 10 whole 0
  let isWhole := fraction.isEmpty && exponent.isNone
  if isWhole && !negative && n < 0x10000000000000000 then .ok (.int n)
  else if isWhole && negative && 0 < n && n ≤ 0x8000000000000000 then .ok (.int (-n))
  else
    let d : Decimal := ⟨negative, Nat.ofDigitChars 10 (whole ++ fraction) 0,
      exponent.getD 0 - fraction.length⟩
    match d.toBinary64? with
    | some x => .ok (.float x)
    | none => .error .malformed

/-- A number. -/
def readNumber : Reader Json := fun cs => do
  let (negative, cs) := match cs with
    | '-' :: cs => (true, cs)
    | cs => (false, cs)
  let (whole, cs) ← readWhole .truncated cs
  let (fraction, cs) ← readFraction .truncated cs
  let (exponent, cs) ← readExponent .truncated cs
  let value ← numberOfParts negative whole fraction exponent
  .ok (value, cs)

/-- Passes over a number. -/
def skipNumber (cs : List Char) : Except Fault (List Char) := do
  let cs := match cs with
    | '-' :: cs => cs
    | cs => cs
  let (_, cs) ← readWhole .malformed cs
  let (_, cs) ← readFraction .malformed cs
  let (_, cs) ← readExponent .malformed cs
  .ok cs

/-! ## Values -/

/-- A value that is neither an array nor an object. -/
def readScalar : Reader Json
  | [] => .error .truncated
  | 'n' :: cs => (expectWord "ull".toList cs).map (.null, ·)
  | 't' :: cs => (expectWord "rue".toList cs).map (.bool true, ·)
  | 'f' :: cs => (expectWord "alse".toList cs).map (.bool false, ·)
  | '"' :: cs => (readString cs).map fun (s, rest) => (.str s, rest)
  | c :: cs => if c = '-' || c.isDigit then readNumber (c :: cs) else .error .malformed

mutual

/-- A value, after blanks. The fuel bounds the number of values to read. -/
def readValue : Nat → Reader Json
  | 0, _ => .error .malformed
  | fuel + 1, cs =>
    match skipBlanks cs with
    | '[' :: cs =>
      match skipBlanks cs with
      | ']' :: rest => .ok (.arr [], rest)
      | [] => .error .truncated
      | cs => do
        let (item, cs) ← readValue fuel cs
        let (items, rest) ← readItems fuel cs
        .ok (.arr (item :: items), rest)
    | '{' :: cs =>
      match skipBlanks cs with
      | '}' :: rest => .ok (.obj [], rest)
      | cs => do
        let (field, cs) ← readField fuel cs
        let (fields, rest) ← readFields fuel cs
        .ok (.obj (field :: fields), rest)
    | cs => readScalar cs

/-- The items after the first, and the closing bracket. -/
def readItems : Nat → Reader (List Json)
  | 0, _ => .error .malformed
  | fuel + 1, cs =>
    match skipBlanks cs with
    | [] => .error .truncated
    | ']' :: rest => .ok ([], rest)
    | ',' :: cs => do
      let (item, cs) ← readValue fuel cs
      let (items, rest) ← readItems fuel cs
      .ok (item :: items, rest)
    | _ => .error .malformed

/-- A field, after blanks. -/
def readField : Nat → Reader (String × Json)
  | 0, _ => .error .malformed
  | fuel + 1, cs => do
    let cs ← expectChar '"' cs
    let (key, cs) ← readString cs
    let cs ← expectChar ':' cs
    let (value, rest) ← readValue fuel cs
    .ok ((key, value), rest)

/-- The fields after the first, and the closing bracket. -/
def readFields : Nat → Reader (List (String × Json))
  | 0, _ => .error .malformed
  | fuel + 1, cs =>
    match skipBlanks cs with
    | [] => .error .truncated
    | '}' :: rest => .ok ([], rest)
    | ',' :: cs => do
      let (field, cs) ← readField fuel cs
      let (fields, rest) ← readFields fuel cs
      .ok (field :: fields, rest)
    | _ => .error .malformed

end

mutual

/-- Passes over a value, after blanks. The fuel bounds the number of values to pass over. -/
def skipValueWith : Nat → List Char → Except Fault (List Char)
  | 0, _ => .error .malformed
  | fuel + 1, cs =>
    match skipBlanks cs with
    | '[' :: cs =>
      match skipBlanks cs with
      | ']' :: rest => .ok rest
      | [] => .error .truncated
      | cs => do skipItems fuel (← skipValueWith fuel cs)
    | '{' :: cs =>
      match skipBlanks cs with
      | '}' :: rest => .ok rest
      | cs => do skipFields fuel (← skipField fuel cs)
    | '"' :: cs => skipString cs
    | c :: cs =>
      if c = '-' || c.isDigit then skipNumber (c :: cs) else (readScalar (c :: cs)).map (·.2)
    | [] => .error .truncated

/-- Passes over the items after the first, and the closing bracket. -/
def skipItems : Nat → List Char → Except Fault (List Char)
  | 0, _ => .error .malformed
  | fuel + 1, cs =>
    match skipBlanks cs with
    | [] => .error .truncated
    | ']' :: rest => .ok rest
    | ',' :: cs => do skipItems fuel (← skipValueWith fuel cs)
    | _ => .error .malformed

/-- Passes over a field, after blanks. -/
def skipField : Nat → List Char → Except Fault (List Char)
  | 0, _ => .error .malformed
  | fuel + 1, cs => do
    skipValueWith fuel (← expectChar ':' (← skipString (← expectChar '"' cs)))

/-- Passes over the fields after the first, and the closing bracket. -/
def skipFields : Nat → List Char → Except Fault (List Char)
  | 0, _ => .error .malformed
  | fuel + 1, cs =>
    match skipBlanks cs with
    | [] => .error .truncated
    | '}' :: rest => .ok rest
    | ',' :: cs => do skipFields fuel (← skipField fuel cs)
    | _ => .error .malformed

end

/-- Passes over a value, whatever it is. Each value takes at least one character, so there are no
    more of them than characters. -/
def skipValue (cs : List Char) : Except Fault (List Char) :=
  skipValueWith (2 * cs.length + 2) cs

/-- Nothing but blanks. -/
def expectEnd (cs : List Char) : Except Fault Unit :=
  if (skipBlanks cs).isEmpty then .ok () else .error .malformed

/-- Reads a text that is one value. -/
def parse (text : String) : Except Fault Json := do
  let cs := text.toList
  let (value, rest) ← readValue (2 * cs.length + 2) cs
  expectEnd rest
  .ok value

end AutoImport.Json
