import AutoImport.Text.Digit
import AutoImport.Toml.Basic

/-!
# Texts in TOML

TOML has four ways to write a text. Between double quotes there are escapes, between single quotes
there are none; and with either quote written three times the text may have line breaks:

    "basic \t text"        'literal text'
    """                    '''
    basic text \t          literal text
    of several lines"""    of several lines'''

A line break straight after the opening quotes is no part of the text. One or two quotes may stand
before the closing three.

`Style.write` writes a text in a given style, and `styleFor` picks the style in which a text needs
the least escaping. `readText` reads all four.
-/

namespace AutoImport.Toml

/-! ## Escapes -/

/-- The characters that have an escape of one letter, and the letter. -/
def letterEscapes : List (Char × Char) :=
  [('b', '\x08'), ('t', '\t'), ('n', '\n'), ('f', '\x0c'), ('r', '\r'), ('"', '"'), ('\\', '\\')]

/-- The character that an escape of one letter stands for. -/
def ofLetter? (letter : Char) : Option Char :=
  letterEscapes.lookup letter

/-- The letter of the escape for a character. -/
def letterFor? (c : Char) : Option Char :=
  (letterEscapes.find? (·.2 == c)).map (·.1)

/-- Takes the digits of a character's number off the text. -/
def readNumbered (count : Nat) : Reader Char := fun cs => do
  let digits := cs.take count
  if digits.length < count then none
  else some (← Text.charOfNumber? (← Text.hexNumber? digits), cs.drop count)

/-- Reads an escape after its backslash. -/
def readEscape : Reader Char
  | [] => none
  | 'u' :: cs => readNumbered 4 cs
  | 'U' :: cs => readNumbered 8 cs
  | letter :: cs => (ofLetter? letter).map (·, cs)

/-- The number of a character in four digits. -/
def fourDigits (n : Nat) : List Char :=
  let digits := (Nat.toDigits 16 n).map Char.toUpper
  List.replicate (4 - digits.length) '0' ++ digits

/-- A character of a text between double quotes. -/
def escapeChar (c : Char) : List Char :=
  match letterFor? c with
  | some letter => ['\\', letter]
  | none => if isPlain c then [c] else '\\' :: 'u' :: fourDigits c.toNat

/-! ## Styles -/

/-- A way to write a text. -/
inductive Style where
  | basic
  | literal
  | multiBasic
  | multiLiteral
  deriving DecidableEq, Repr

/-- A text of several lines between double quotes: line breaks stay, and of three quotes in a row
    the third is escaped. `run` counts the quotes just before. -/
def escapeMulti (run : Nat) : List Char → List Char
  | [] => []
  | c :: cs =>
    if c = '"' then
      if run = 2 then '\\' :: '"' :: escapeMulti 0 cs else '"' :: escapeMulti (run + 1) cs
    else if c = '\n' then '\n' :: escapeMulti 0 cs
    else escapeChar c ++ escapeMulti 0 cs

/-- A text in a style. The literal styles suit only some texts. -/
def Style.write (style : Style) (cs : List Char) : List Char :=
  match style with
  | .basic => '"' :: cs.flatMap escapeChar ++ ['"']
  | .literal => '\x27' :: cs ++ ['\x27']
  | .multiBasic => '"' :: '"' :: '"' :: '\n' :: escapeMulti 0 cs ++ ['"', '"', '"']
  | .multiLiteral => '\x27' :: '\x27' :: '\x27' :: '\n' :: cs ++ ['\x27', '\x27', '\x27']

/-- Whether three of a character stand in a row; `run` counts those just before. -/
def hasTriple (c : Char) (run : Nat) : List Char → Bool
  | [] => false
  | d :: cs => if d = c then run == 2 || hasTriple c (run + 1) cs else hasTriple c 0 cs

/-- Whether a text can be written in a style without a single escape, a tab aside. -/
def Style.suits (style : Style) (cs : List Char) : Bool :=
  match style with
  | .basic => cs.all fun c => isPlain c && c != '"' && c != '\\'
  | .literal => cs.all fun c => isPlain c && c != '\x27'
  | .multiBasic => (cs.all fun c => (isPlain c && c != '\\') || c == '\n') && !hasTriple '"' 0 cs
  | .multiLiteral => (cs.all fun c => isPlain c || c == '\n') && !hasTriple '\x27' 0 cs

/-- The style a text is written in: the first that needs no escapes, and else one that has them. -/
def styleFor (cs : List Char) : Style :=
  ([.basic, .literal, .multiBasic, .multiLiteral].find? (Style.suits · cs)).getD
    (if cs.contains '\n' then .multiBasic else .basic)

/-- A text as a TOML value. -/
def writeText (text : String) : String :=
  .ofList ((styleFor text.toList).write text.toList)

/-! ## Reading -/

/-- An escape takes at least one character. -/
theorem length_lt_of_readEscape {cs rest : List Char} {c : Char}
    (h : readEscape cs = some (c, rest)) : rest.length < cs.length := by
  have hn {n : Nat} {ds : List Char} (h : readNumbered n ds = some (c, rest)) :
      rest.length ≤ ds.length := by
    simp only [readNumbered] at h
    split at h
    · simp at h
    · simp only [Option.bind_eq_bind, Option.bind_eq_some_iff, Option.some.injEq,
        Prod.mk.injEq] at h
      obtain ⟨_, _, _, _, _, rfl⟩ := h
      simp
  unfold readEscape at h
  split at h
  · simp at h
  · exact Nat.lt_succ_of_le (hn h)
  · exact Nat.lt_succ_of_le (hn h)
  · simp only [Option.map_eq_some_iff, Prod.mk.injEq] at h
    obtain ⟨_, _, _, rfl⟩ := h
    simp

/-- Puts a character in front of what a reader has read. -/
def push (c : Char) (read : Option (List Char × List Char)) : Option (List Char × List Char) :=
  read.map fun (cs, rest) => (c :: cs, rest)

/-- The characters of a text up to its closing double quote. -/
def readBasic (cs : List Char) : Option (List Char × List Char) :=
  match cs with
  | [] => none
  | '"' :: rest => some ([], rest)
  | '\\' :: cs =>
    match h : readEscape cs with
    | none => none
    | some (c, rest) =>
      have := length_lt_of_readEscape h
      push c (readBasic rest)
  | c :: cs => if isPlain c then push c (readBasic cs) else none
  termination_by cs.length

/-- The characters of a text up to its closing single quote. -/
def readLiteral : List Char → Option (List Char × List Char)
  | [] => none
  | '\x27' :: rest => some ([], rest)
  | c :: cs => if isPlain c then push c (readLiteral cs) else none

/-- What follows the closing quotes, with up to two quotes before them. -/
def closeMulti (quote : Char) : List Char → List Char × List Char
  | a :: b :: rest =>
    if a = quote then
      if b = quote then ([quote, quote], rest) else ([quote], b :: rest)
    else ([], a :: b :: rest)
  | [a] => if a = quote then ([quote], []) else ([], [a])
  | [] => ([], [])

/-- The text after the blanks and line breaks it starts with. -/
def skipBlankLines : List Char → List Char
  | ' ' :: cs => skipBlankLines cs
  | '\t' :: cs => skipBlankLines cs
  | '\n' :: cs => skipBlankLines cs
  | '\r' :: '\n' :: cs => skipBlankLines cs
  | cs => cs

/-- After a backslash that ends a line: the text from the next character that is not blank on. -/
def continueLine? (cs : List Char) : Option (List Char) :=
  (lineBreak? (skipBlanks cs)).map skipBlankLines

/-- Skipping blanks and line breaks lengthens nothing. -/
theorem length_skipBlankLines_le (cs : List Char) : (skipBlankLines cs).length ≤ cs.length := by
  fun_induction skipBlankLines cs <;> simp_all <;> omega

/-- A line break takes at least one character. -/
theorem length_lt_of_lineBreak? {cs rest : List Char} (h : lineBreak? cs = some rest) :
    rest.length < cs.length := by
  unfold lineBreak? at h
  split at h
  · simp_all
  · simp only [Option.some.injEq] at h
    subst h
    simp only [List.length_cons]
    omega
  · simp at h

/-- Skipping blanks lengthens nothing. -/
theorem length_skipBlanks_le (cs : List Char) : (skipBlanks cs).length ≤ cs.length :=
  (List.dropWhile_sublist _).length_le

/-- A continued line takes at least its line break. -/
theorem length_lt_of_continueLine? {cs rest : List Char} (h : continueLine? cs = some rest) :
    rest.length < cs.length := by
  obtain ⟨cs', hb, rfl⟩ := Option.map_eq_some_iff.1 h
  have := length_lt_of_lineBreak? hb
  have := length_skipBlanks_le cs
  have := length_skipBlankLines_le cs'
  omega

/-- The characters of a text of several lines, up to its three closing double quotes. -/
def readMultiBasic (cs : List Char) : Option (List Char × List Char) :=
  match cs with
  | [] => none
  | '"' :: '"' :: '"' :: cs => some (closeMulti '"' cs)
  | '\r' :: '\n' :: cs => push '\n' (readMultiBasic cs)
  | '\\' :: cs =>
    match hc : continueLine? cs with
    | some rest =>
      have := length_lt_of_continueLine? hc
      readMultiBasic rest
    | none =>
      match h : readEscape cs with
      | none => none
      | some (c, rest) =>
        have := length_lt_of_readEscape h
        push c (readMultiBasic rest)
  | c :: cs => if isPlain c || c == '\n' then push c (readMultiBasic cs) else none
  termination_by cs.length

/-- The characters of a text of several lines, up to its three closing single quotes. -/
def readMultiLiteral : List Char → Option (List Char × List Char)
  | [] => none
  | '\x27' :: '\x27' :: '\x27' :: cs => some (closeMulti '\x27' cs)
  | '\r' :: '\n' :: cs => push '\n' (readMultiLiteral cs)
  | c :: cs => if isPlain c || c == '\n' then push c (readMultiLiteral cs) else none

/-- The text after the line break it starts with, if it does. -/
def skipLineBreak (cs : List Char) : List Char :=
  (lineBreak? cs).getD cs

/-- Reads a text in any style. -/
def readText : Reader String := fun cs =>
  let chars := match cs with
    | '"' :: '"' :: '"' :: cs => readMultiBasic (skipLineBreak cs)
    | '\x27' :: '\x27' :: '\x27' :: cs => readMultiLiteral (skipLineBreak cs)
    | '"' :: cs => readBasic cs
    | '\x27' :: cs => readLiteral cs
    | _ => none
  chars.map fun (chars, rest) => (.ofList chars, rest)

/-- Reads a key: letters, digits, hyphens and underscores, or a text of one line. -/
def readKey : Reader String
  | '"' :: cs => (readBasic cs).map fun (chars, rest) => (.ofList chars, rest)
  | '\x27' :: cs => (readLiteral cs).map fun (chars, rest) => (.ofList chars, rest)
  | cs =>
    let (key, rest) := cs.span isBareKeyChar
    if key.isEmpty then none else some (.ofList key, rest)

end AutoImport.Toml
