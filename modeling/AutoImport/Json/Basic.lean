import AutoImport.Number.Binary64

/-!
# JSON values and their text

A JSON value, and how it is written. There is one printer, `Json.write`, for all layouts: a `Layout`
says what stands between the parts of a value, and the two that are used differ in nothing else.
`compact` puts nothing between them; `pretty` puts each item on a line of its own, indented by two
spaces a level, and a space after a colon.

Whole numbers and floating-point numbers are told apart, in the value and in the text: a
floating-point number always has a point or an exponent. Fields keep the order they are given in.
-/

namespace AutoImport

/-- A JSON value. -/
inductive Json where
  | null
  | bool (value : Bool)
  | int (value : Int)
  | float (value : Binary64)
  | str (value : String)
  | arr (items : List Json)
  | obj (fields : List (String × Json))
  deriving Inhabited

namespace Json

/-! ## Strings and numbers -/

/-- The digits of a byte, two of them. -/
def hexByte (n : Nat) : List Char :=
  [Nat.digitChar (n / 16), Nat.digitChar (n % 16)]

/-- A character inside a string. Quotes, backslashes and the control characters below the space are
    escaped, everything else stands for itself. -/
def escapeChar (c : Char) : List Char :=
  if c = '"' then ['\\', '"']
  else if c = '\\' then ['\\', '\\']
  else if c = '\x08' then ['\\', 'b']
  else if c = '\x0c' then ['\\', 'f']
  else if c = '\n' then ['\\', 'n']
  else if c = '\r' then ['\\', 'r']
  else if c = '\t' then ['\\', 't']
  else if c < ' ' then ['\\', 'u', '0', '0'] ++ hexByte c.toNat
  else [c]

/-- A string in its quotes. -/
def quote (s : String) : List Char :=
  '"' :: s.toList.flatMap escapeChar ++ ['"']

/-- A whole number. -/
def writeInt (n : Int) : List Char :=
  if n < 0 then '-' :: Nat.toDigits 10 n.natAbs else Nat.toDigits 10 n.natAbs

/-- A floating-point number, by its shortest digits: positional for exponents from -5 to 15, and
    scientific outside. -/
def writeFloat (x : Binary64) : List Char :=
  let d := x.shortest
  let e := d.leadingExponent
  (if -5 ≤ e && e < 16 then d.positional ".0" else d.scientific).toList

/-! ## Values -/

/-- What stands between the parts of a value. -/
structure Layout where
  /-- Before an item at a given depth, and before the bracket that closes that depth. -/
  newline : Nat → List Char
  /-- After the colon of a field. -/
  afterColon : List Char

/-- Nothing between the parts. -/
def Layout.compact : Layout :=
  ⟨fun _ => [], []⟩

/-- An item a line, indented by two spaces a level. -/
def Layout.pretty : Layout :=
  ⟨fun depth => '\n' :: List.replicate (2 * depth) ' ', [' ']⟩

mutual

/-- The text of a value whose brackets close at `depth`. -/
def write (layout : Layout) (depth : Nat) : Json → List Char
  | null => "null".toList
  | bool true => "true".toList
  | bool false => "false".toList
  | int n => writeInt n
  | float x => writeFloat x
  | str s => quote s
  | arr [] => "[]".toList
  | arr (item :: items) =>
    '[' :: layout.newline (depth + 1) ++ write layout (depth + 1) item ++
      writeItems layout (depth + 1) items ++ layout.newline depth ++ [']']
  | obj [] => "{}".toList
  | obj ((key, value) :: fields) =>
    '{' :: layout.newline (depth + 1) ++ writeField layout (depth + 1) key value ++
      writeFields layout (depth + 1) fields ++ layout.newline depth ++ ['}']

/-- The items after the first, each with the comma before it. -/
def writeItems (layout : Layout) (depth : Nat) : List Json → List Char
  | [] => []
  | item :: items =>
    ',' :: layout.newline depth ++ write layout depth item ++ writeItems layout depth items

/-- A field. -/
def writeField (layout : Layout) (depth : Nat) (key : String) (value : Json) : List Char :=
  quote key ++ ':' :: layout.afterColon ++ write layout depth value

/-- The fields after the first, each with the comma before it. -/
def writeFields (layout : Layout) (depth : Nat) : List (String × Json) → List Char
  | [] => []
  | (key, value) :: fields =>
    ',' :: layout.newline depth ++ writeField layout depth key value ++
      writeFields layout depth fields

end

/-- The text of a value on one line. -/
def compact (j : Json) : String :=
  .ofList (j.write .compact 0)

/-- The text of a value, an item a line. -/
def pretty (j : Json) : String :=
  .ofList (j.write .pretty 0)

/-! ## Fields -/

/-- The value of a field, the last one of that name. -/
def get? (key : String) : Json → Option Json
  | obj fields => (fields.reverse.find? (·.1 == key)).map (·.2)
  | _ => none

/-- A field list with one more field in the order of names, in the place of an earlier one of the
    same name. -/
def insertField (key : String) (value : Json) : List (String × Json) → List (String × Json)
  | [] => [(key, value)]
  | (k, v) :: fields =>
    if key < k then (key, value) :: (k, v) :: fields
    else if key = k then (key, value) :: fields
    else (k, v) :: insertField key value fields

mutual

/-- A value with the fields of every object in the order of their names, and of two fields of one
    name only the last. -/
def sorted : Json → Json
  | arr items => arr (sortedItems items)
  | obj fields => obj (sortedFields [] fields)
  | j => j

/-- Sorts inside each item. -/
def sortedItems : List Json → List Json
  | [] => []
  | item :: items => item.sorted :: sortedItems items

/-- Sorts fields into those before them. -/
def sortedFields (before : List (String × Json)) : List (String × Json) → List (String × Json)
  | [] => before
  | (key, value) :: fields => sortedFields (insertField key value.sorted before) fields

end

end Json

end AutoImport
