import AutoImport.Number.Binary64

/-!
# TOML

Values of the configuration language TOML, and readers of it. A document is a table; its entries are
kept in the order in which they were first mentioned, and have distinct keys.
-/

namespace AutoImport.Toml

/-- A value. -/
inductive Value where
  | text (s : String)
  | integer (n : Int)
  | float (x : Real64)
  | bool (b : Bool)
  /-- A date, a time or both, as it was written. -/
  | moment (written : String)
  | array (items : List Value)
  | table (entries : List (String × Value))

/-- A table: keys and their values. -/
abbrev Table := List (String × Value)

/-- A reader takes what it wants from the front of a text and leaves the rest, or refuses
    the text. -/
abbrev Reader (α : Type) := List Char → Option (α × List Char)

/-- How deep arrays and tables can be nested, and how many keys can be joined by dots. -/
def maxDepth : Nat := 79

/-! ## Blanks -/

/-- The blanks within a line. -/
def isLineBlank (c : Char) : Bool :=
  c == ' ' || c == '\t'

/-- The text without the blanks it starts with. -/
def skipBlanks (cs : List Char) : List Char :=
  cs.dropWhile isLineBlank

/-- The characters that can stand in the text as they are, line breaks aside: everything but the
    control characters, of which only the tab can. -/
def isPlain (c : Char) : Bool :=
  c == '\t' || (' ' ≤ c && c != '\x7f')

/-- Takes a line break off the text: a line feed, with or without a carriage return before it. -/
def lineBreak? : List Char → Option (List Char)
  | '\n' :: cs => some cs
  | '\r' :: '\n' :: cs => some cs
  | _ => none

/-- The text without the comment it starts with, if it starts with one. -/
def skipComment : List Char → List Char
  | '#' :: cs => cs.dropWhile isPlain
  | cs => cs

/-- The end of a line: blanks, a comment, and a line break unless the text ends. -/
def endLine? (cs : List Char) : Option (List Char) :=
  match skipComment (skipBlanks cs) with
  | [] => some []
  | cs => lineBreak? cs

/-- The text without the blanks, line breaks and comments it starts with; `fuel` bounds the number
    of lines. -/
def skipLinesWith : Nat → List Char → List Char
  | 0, cs => cs
  | fuel + 1, cs =>
    let cs := skipComment (skipBlanks cs)
    match lineBreak? cs with
    | some cs => skipLinesWith fuel cs
    | none => cs

/-- The text without the blanks, line breaks and comments it starts with. -/
def skipLines (cs : List Char) : List Char :=
  skipLinesWith (cs.length + 1) cs

/-! ## Keys -/

/-- The characters of a key that needs no quotes. -/
def isBareKeyChar (c : Char) : Bool :=
  c.isAlphanum || c == '-' || c == '_'

/-- The keys on the way to an entry, written with dots between them. -/
structure DottedKey where
  parents : List String
  last : String
  deriving DecidableEq, Repr

end AutoImport.Toml
