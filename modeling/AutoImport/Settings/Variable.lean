import AutoImport.Environment
import AutoImport.Settings.Tree
import AutoImport.Text.Blank
import AutoImport.Text.Bytes
import AutoImport.Toml.Text

/-!
# Settings in variables

A variable whose name starts with `PYIMPORTS_`, in letters of any case, is a setting. The rest of
its name, in lower case, is the key; two underscores lead into a table, as a dot does:
`PYIMPORTS_VIM__IMPORTS_VAR` sets `imports_var` in the table `vim`.

The value is read as what it looks like:

    true                    a truth value
    12, -12, 1.5            a number
    "text", 'c'             a text, with the escapes of TOML, or of one character
    [value, value]          a list
    {key=value, key=value}  a table
    anything else           a text

A value that starts like one of these, but does not end like it, is a text as a whole, with the
blanks around it. Before the opening mark of a value there may be ASCII blanks only; a value without
marks loses blanks of all kinds.
-/

namespace AutoImport

namespace Variable

/-! ## Values -/

/-- Readers of values: each takes what it wants from the front of a text. -/
abbrev Reader (α : Type) := List Char → Option (α × List Char)

/-- The blanks around values. -/
def isSpace (c : Char) : Bool :=
  c == ' ' || c == '\t' || c == '\n' || c == '\x0c' || c == '\r'

/-- The text without the blanks it starts with. -/
def skipSpaces (cs : List Char) : List Char :=
  cs.dropWhile isSpace

/-- The characters that end a value without quotes. -/
def isSeparator (c : Char) : Bool :=
  c == ',' || c == '\x7b' || c == '\x7d' || c == '[' || c == ']'

/-- A value without parts. -/
def scalar (s : Scalar) : Tree :=
  .scalar s .environment

/-- The digits of a number: one at least, and nothing else. -/
def digits? (cs : List Char) : Option Nat :=
  if !cs.isEmpty && cs.all Char.isDigit then some (Nat.ofDigitChars 10 cs 0) else none

/-- The sign a number may start with. -/
def splitSign : List Char → Bool × List Char
  | '+' :: cs => (false, cs)
  | '-' :: cs => (true, cs)
  | cs => (false, cs)

/-- A whole number of 64 bits. Only one with a minus counts as signed, even when it is zero. -/
def wholeNumber? (cs : List Char) : Option Scalar :=
  match splitSign cs with
  | (false, cs) => (digits? cs).bind fun n =>
    if n < 0x10000000000000000 then some (.unsigned n) else none
  | (true, cs) => (digits? cs).bind fun n =>
    if n ≤ 0x8000000000000000 then some (.signed (-n)) else none

/-- An exponent, `e` and a number, or nothing at all. -/
def exponent? : List Char → Option Int
  | [] => some 0
  | e :: cs =>
    if e = 'e' || e = 'E' then
      match splitSign cs with
      | (negative, cs) => (digits? cs).map fun n => if negative then -n else n
    else none

/-- A number with a point, and digits on at least one side of it. -/
def pointNumber? (cs : List Char) : Option Scalar :=
  let (negative, cs) := splitSign cs
  match cs.span Char.isDigit with
  | (whole, '.' :: cs) =>
    let (fraction, cs) := cs.span Char.isDigit
    if whole.isEmpty && fraction.isEmpty then none
    else (exponent? cs).map fun e =>
      let d : Decimal := ⟨negative, Nat.ofDigitChars 10 (whole ++ fraction) 0, e - fraction.length⟩
      .float d.toReal64
  | _ => none

/-- The value of a text without quotes and brackets. -/
def plainScalar (cs : List Char) : Scalar :=
  ((pointNumber? cs).or (wholeNumber? cs)).getD (.text (.ofList cs))

/-- The characters of a text up to its closing double quote. What stands before the first escape is
    cut to as many bytes as it has characters, which loses some of it unless it is ASCII. -/
def readQuoted : Reader (List Char) := fun cs =>
  (Toml.readBasic cs).map fun (chars, rest) =>
    let plain := cs.takeWhile fun c => c != '"' && c != '\\'
    if cs[plain.length]? = some '\\' then
      (Text.takeBytes plain.length plain ++ chars.drop plain.length, rest)
    else (chars, rest)

/-- A value without brackets. -/
def readScalar : Reader Tree
  | 't' :: 'r' :: 'u' :: 'e' :: rest => some (scalar (.bool true), rest)
  | 'f' :: 'a' :: 'l' :: 's' :: 'e' :: rest => some (scalar (.bool false), rest)
  | '"' :: cs => (readQuoted cs).map fun (chars, rest) => (scalar (.text (.ofList chars)), rest)
  | '\x27' :: cs =>
    match cs with
    | c :: '\x27' :: rest => some (scalar (.text (.singleton c)), rest)
    | _ => none
  | cs =>
    let (chars, rest) := cs.span (!isSeparator ·)
    some (scalar (plainScalar (Text.trim chars)), rest)

/-- Items up to a closing bracket, with commas between them, and perhaps one after the last. The
    fuel bounds their number. -/
def readItems {α : Type} (item : Reader α) (close : Char) : Nat → Reader (List α)
  | 0, _ => none
  | fuel + 1, cs =>
    if cs.head? = some close then some ([], cs.tail)
    else do
      let (first, cs) ← item cs
      match cs with
      | ',' :: cs =>
        let (items, rest) ← readItems item close fuel cs
        some (first :: items, rest)
      | c :: rest => if c = close then some ([first], rest) else none
      | [] => none

/-- The key of an entry: a text between double quotes, or letters, digits, hyphens and
    underscores. -/
def readKey : Reader String
  | '"' :: cs => (readQuoted cs).map fun (chars, rest) => (.ofList chars, rest)
  | cs =>
    let (key, rest) := cs.span Toml.isBareKeyChar
    if key.isEmpty then none else some (.ofList key, rest)

/-- An entry of a table. -/
def readEntry (value : Reader Tree) : Reader (String × Tree) := fun cs => do
  let (key, cs) ← readKey (skipSpaces cs)
  match skipSpaces cs with
  | '=' :: cs =>
    let (v, rest) ← value cs
    some ((key, v), skipSpaces rest)
  | _ => none

/-- The table of a list of entries. Of two entries with one key the later counts. -/
def tableOf (entries : List (String × Tree)) : Tree :=
  .table (entries.foldl (fun table (key, value) => Tree.put table key value) []) .environment

/-- A value among blanks, nested at most `levels` deep. -/
def readValue : Nat → Reader Tree
  | 0, _ => none
  | levels + 1, cs => do
    let (value, rest) ← match skipSpaces cs with
      | '[' :: cs => (readItems (readValue levels) ']' (cs.length + 1) cs).map fun (items, rest) =>
        (Tree.list items .environment, rest)
      | '\x7b' :: cs =>
        (readItems (readEntry (readValue levels)) '\x7d' (cs.length + 1) cs).map
          fun (entries, rest) => (tableOf entries, rest)
      | cs => readScalar cs
    some (value, skipSpaces rest)

/-- The value of a variable. No value is nested deeper than it is long. -/
def value (text : String) : Tree :=
  let cs := text.toList
  match readValue (cs.length + 1) cs with
  | some (tree, []) => tree
  | _ => scalar (.text text)

/-! ## Names -/

/-- What the names of all settings start with. -/
def namePrefix : String :=
  "PYIMPORTS_"

/-- A key with two underscores written as a dot, from the left. -/
def dotted : List Char → List Char
  | '_' :: '_' :: cs => '.' :: dotted cs
  | c :: cs => c :: dotted cs
  | [] => []

/-- The keys that the name of a variable leads through, if it is that of a setting. Blanks around it
    do not count, and no key is empty. -/
def path? (name : String) : Option (List String) :=
  let cs := Text.trim name.toList
  if (cs.take namePrefix.length).map Char.toUpper = namePrefix.toList then
    let rest := Text.trim (dotted ((cs.drop namePrefix.length).map Char.toLower))
    let keys := rest.splitOn '.'
    if keys.contains [] then none else some (keys.map .ofList)
  else none

/-- A value at the end of a path of keys. -/
def nest (value : Tree) : List String → Tree
  | [] => value
  | key :: keys => .table [(key, nest value keys)] .environment

/-- The setting that a variable makes: the entries of a table, with one key or none. -/
def entries : String × String → List (String × Tree)
  | (name, text) =>
    match path? name with
    | some (key :: keys) => [(key, nest (value text) keys)]
    | _ => []

end Variable

/-- The settings of an environment, the variables laid over each other in order. -/
def Environment.settingsEntries (env : Environment) : List (String × Tree) :=
  env.vars.foldl (fun entries v => Tree.overlayEntries (Variable.entries v) entries) []

end AutoImport
