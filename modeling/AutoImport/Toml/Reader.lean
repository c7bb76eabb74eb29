import AutoImport.Toml.Document
import AutoImport.Toml.Number
import AutoImport.Toml.Text

/-!
# Reading TOML

A document is read in two steps: its text as a list of statements, and the statements as one table.
The text may start with a byte-order mark.

Values in brackets hold values again. `readValue levels` reads values nested at most `levels` deep,
and a document may nest them `maxDepth` deep; the parts of a value in brackets are read by a reader
of values that allows one level less.
-/

namespace AutoImport.Toml

/-! ## Keys -/

/-- The keys after the first, each after a dot; `fuel` bounds their number. -/
def readMoreKeys : Nat → Reader (List String)
  | 0, _ => none
  | fuel + 1, cs =>
    match skipBlanks cs with
    | '.' :: cs => do
      let (key, cs) ← readKey (skipBlanks cs)
      let (keys, rest) ← readMoreKeys fuel cs
      some (key :: keys, rest)
    | cs => some ([], cs)

/-- The dotted key of nonempty keys. -/
def DottedKey.ofKeys (first : String) (more : List String) : DottedKey :=
  ⟨(first :: more).dropLast, more.getLastD first⟩

/-- One key or several with dots between them, at most `maxDepth`, blanks around each. -/
def readDottedKey : Reader DottedKey := fun cs => do
  let (first, cs) ← readKey (skipBlanks cs)
  let (more, rest) ← readMoreKeys maxDepth cs
  some (.ofKeys first more, rest)

/-- A key, an equals sign and a value. -/
def readEntry (value : Reader Value) : Reader (DottedKey × Value) := fun cs => do
  let (key, cs) ← readDottedKey cs
  let (v, rest) ← value (skipBlanks (← expect? '=' cs))
  some ((key, v), rest)

/-! ## Values -/

/-- A word that stands for a value. -/
def readWord (word : String) (value : Value) : Reader Value := fun cs =>
  (word.toList.isPrefixOf? cs).map fun rest => (value, rest)

/-- A value that is not in brackets. -/
def readScalar : Reader Value
  | [] => none
  | c :: cs =>
    if c = '"' || c = '\x27' then (readText (c :: cs)).map fun (s, rest) => (.text s, rest)
    else if c = 't' then readWord "true" (.bool true) (c :: cs)
    else if c = 'f' then readWord "false" (.bool false) (c :: cs)
    else (readMoment (c :: cs)).or (readNumber (c :: cs))

/-- The values of an array up to its closing bracket, with commas between them, and perhaps one
    after the last; blanks, line breaks and comments may stand around them. The fuel bounds their
    number. -/
def readItems (value : Reader Value) : Nat → Reader (List Value)
  | 0, _ => none
  | fuel + 1, cs =>
    match skipLines cs with
    | ']' :: rest => some ([], rest)
    | cs => do
      let (item, cs) ← value cs
      match skipLines cs with
      | ',' :: cs =>
        let (items, rest) ← readItems value fuel cs
        some (item :: items, rest)
      | ']' :: rest => some ([item], rest)
      | _ => none

/-- The entries of an inline table after the first, up to its closing bracket. The fuel bounds their
    number. -/
def readMoreEntries (value : Reader Value) : Nat → Reader (List (DottedKey × Value))
  | 0, _ => none
  | fuel + 1, cs =>
    match skipBlanks cs with
    | '\x7d' :: rest => some ([], rest)
    | ',' :: cs => do
      let (entry, cs) ← readEntry value cs
      let (entries, rest) ← readMoreEntries value fuel cs
      some (entry :: entries, rest)
    | _ => none

/-- The entries of an inline table, up to its closing bracket. It is all on one line, and no comma
    stands after the last entry. -/
def readEntries (value : Reader Value) : Reader (List (DottedKey × Value)) := fun cs =>
  match skipBlanks cs with
  | '\x7d' :: rest => some ([], rest)
  | cs => do
    let (entry, cs) ← readEntry value cs
    let (entries, rest) ← readMoreEntries value (cs.length + 1) cs
    some (entry :: entries, rest)

/-- A value, nested at most `levels` deep. -/
def readValue : Nat → Reader Value
  | 0 => fun cs => readScalar cs
  | levels + 1 => fun
    | '[' :: cs => (readItems (readValue levels) (cs.length + 1) cs).map fun (items, rest) =>
      (.array items, rest)
    | '\x7b' :: cs => do
      let (entries, rest) ← readEntries (readValue levels) cs
      some (.table (← inlineTable? entries), rest)
    | cs => readScalar cs

/-! ## Documents -/

/-- A statement, up to the blanks and the comment that end its last line. -/
def readStatement : Reader Statement
  | '[' :: '[' :: cs => do
    let (key, cs) ← readDottedKey cs
    some (.element key, ← expect? ']' (← expect? ']' cs))
  | '[' :: cs => do
    let (key, cs) ← readDottedKey cs
    some (.header key, ← expect? ']' cs)
  | cs => (readEntry (readValue maxDepth) cs).map fun ((key, value), rest) =>
    (.entry key value, rest)

/-- Whether a line that starts like this, blanks aside, has no statement. -/
def isIdleLine : List Char → Bool
  | [] => true
  | c :: _ => c == '#' || c == '\n' || c == '\r'

/-- The statements of a document. The fuel bounds the number of lines. -/
def readStatements : Nat → List Char → Option (List Statement)
  | 0, _ => none
  | fuel + 1, cs =>
    match skipBlanks cs with
    | [] => some []
    | cs =>
      if isIdleLine cs then do readStatements fuel (← endLine? cs)
      else do
        let (statement, cs) ← readStatement cs
        let statements ← readStatements fuel (← endLine? cs)
        some (statement :: statements)

/-- The text without the byte-order mark it starts with. -/
def skipMark : List Char → List Char
  | '\ufeff' :: cs => cs
  | cs => cs

/-- Reads a document. -/
def parse? (text : String) : Option Table := do
  let cs := skipMark text.toList
  Document.build? (← readStatements (cs.length + 1) cs)

end AutoImport.Toml
