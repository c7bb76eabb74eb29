import AutoImport.Text.Digit
import AutoImport.Text.Letter

/-!
# Patterns

Which texts are regular expressions, for the values in log filters. Nothing is ever matched against
one: a filter with a broken pattern is refused, and that is all that depends on them.

Of the usual notation everything is known except looking around, references to groups and the
boundaries of words. Numbers of repetitions and properties with long names need a closing brace,
which a value in a filter cannot have, so they are broken here too.
-/

namespace AutoImport.Log

namespace Pattern

/-- What a reader takes from the front of a pattern, if the front is not broken. -/
abbrev Reader (α : Type) := List Char → Option (α × List Char)

/-! ## Escapes -/

/-- What an escape stands for. -/
inductive Escape where
  /-- One character. -/
  | character (c : Char)
  /-- One of several characters. -/
  | characters
  /-- A place in the text. -/
  | place
  deriving DecidableEq, Repr

/-- A character by the digits of its number. -/
def readNumbered (count : Nat) : Reader Escape := fun cs => do
  let digits := cs.take count
  if digits.length < count then none
  else some (.character (← Text.charOfNumber? (← Text.hexNumber? digits)), cs.drop count)

/-- An escape after its backslash. Marks of ASCII stand for themselves. -/
def readEscape : Reader Escape
  | [] => none
  | 'x' :: cs => readNumbered 2 cs
  | 'u' :: cs => readNumbered 4 cs
  | 'U' :: cs => readNumbered 8 cs
  | c :: cs =>
    if c = 'p' || c = 'P' then
      match cs with
      | [] => none
      | kind :: rest =>
        if "CLMNPSZ".toList.contains kind.toUpper then some (.characters, rest) else none
    else if "dDsSwW".toList.contains c then some (.characters, cs)
    else if c = 'A' || c = 'z' then some (.place, cs)
    else
      match [('a', '\x07'), ('f', '\x0c'), ('t', '\t'), ('n', '\n'), ('r', '\r'),
        ('v', '\x0b')].lookup c with
      | some d => some (.character d, cs)
      | none =>
        if c.toNat < 0x80 && !c.isAlphanum && c != '<' && c != '>' then some (.character c, cs)
        else none

/-! ## Classes -/

/-- The names of the classes of ASCII characters. -/
def className : List String :=
  ["alnum", "alpha", "ascii", "blank", "cntrl", "digit", "graph", "lower", "print", "punct",
    "space", "upper", "word", "xdigit"]

/-- A class by its name, after its opening bracket: the rest of the pattern. -/
def skipNamed? : List Char → Option (List Char)
  | ':' :: cs =>
    let cs := if cs.head? = some '^' then cs.tail else cs
    let name := cs.takeWhile (· != ':')
    match cs.drop name.length with
    | ':' :: ']' :: rest => if className.contains (.ofList name) then some rest else none
    | _ => none
  | _ => none

/-- The start of a class, after its opening bracket. Here a caret negates, hyphens stand for
    themselves, and so does a bracket right at the start. -/
def openClass? (cs : List Char) : Option (List Char) :=
  let cs := if cs.head? = some '^' then cs.tail else cs
  let rest := cs.dropWhile (· == '-')
  let rest := if rest.length = cs.length && rest.head? = some ']' then rest.tail else rest
  if cs.isEmpty || rest.isEmpty then none else some rest

/-- A member of a class. A place is none. -/
def readMember : Reader (Option Char)
  | [] => none
  | '\\' :: cs =>
    match readEscape cs with
    | some (.character c, rest) => some (some c, rest)
    | some (.characters, rest) => some (none, rest)
    | _ => none
  | c :: cs => some (some c, cs)

/-- A member, or the range between two members, of which the first must not be the later one. -/
def skipMembers? (cs : List Char) : Option (List Char) := do
  let (low?, rest) ← readMember cs
  match rest with
  | '-' :: next :: _ =>
    if next = ']' || next = '-' then some rest
    else do
      let (high?, rest) ← readMember rest.tail
      match low?, high? with
      | some low, some high => if low ≤ high then some rest else none
      | _, _ => none
  | _ => some rest

/-- The rest of a pattern after the end of `depth` nested classes. Every round takes a character, so
    their number is fuel enough. -/
def skipClass? : Nat → Nat → List Char → Option (List Char)
  | 0, _, _ => none
  | fuel + 1, depth, cs =>
    match cs with
    | [] => none
    | '[' :: cs =>
      match skipNamed? cs with
      | some rest => skipClass? fuel depth rest
      | none => (openClass? cs).bind (skipClass? fuel (depth + 1))
    | ']' :: cs => if depth ≤ 1 then some cs else skipClass? fuel (depth - 1) cs
    | '&' :: '&' :: cs => skipClass? fuel depth cs
    | '-' :: '-' :: cs => skipClass? fuel depth cs
    | '~' :: '~' :: cs => skipClass? fuel depth cs
    | cs => (skipMembers? cs).bind (skipClass? fuel depth)

/-! ## Groups -/

/-- What a group changes. -/
inductive Opening where
  /-- A group, perhaps with a name, that lasts up to its closing bracket. -/
  | group (name? : Option (List Char))
  /-- Flags from here on, and nothing to match. -/
  | flags
  deriving DecidableEq, Repr

/-- A name of a group. -/
def isName : List Char → Bool
  | [] => false
  | c :: cs =>
    (c == '_' || (Text.isLetterOrNumber c && !c.isDigit)) &&
      cs.all fun d => "_.[]".toList.contains d || Text.isLetterOrNumber d

/-- A named group after the bracket before its name. -/
def readNamed : Reader Opening := fun cs =>
  let name := cs.takeWhile (· != '>')
  match cs.drop name.length with
  | '>' :: rest => if isName name then some (.group (some name), rest) else none
  | _ => none

/-- No character twice. -/
def distinct : List Char → Bool
  | [] => true
  | c :: cs => !cs.contains c && distinct cs

/-- Flags, each at most once, of which those after a hyphen are switched off. -/
def areFlags (cs : List Char) : Bool :=
  cs.all ("imsUuRx-".toList.contains ·) && distinct cs && cs.getLast? != some '-'

/-- A group after its opening bracket. -/
def readOpening : Reader Opening
  | '?' :: 'P' :: '<' :: cs => readNamed cs
  | '?' :: '<' :: cs =>
    if cs.head? = some '=' || cs.head? = some '!' then none else readNamed cs
  | '?' :: cs =>
    let flags := cs.takeWhile fun c => c != ':' && c != ')'
    if !areFlags flags then none
    else
      match cs.drop flags.length with
      | ':' :: rest => some (.group none, rest)
      | ')' :: rest => if flags.isEmpty then none else some (.flags, rest)
      | _ => none
  | cs => some (.group none, cs)

/-! ## Patterns -/

/-- What matters of the part of a pattern that has been read. -/
structure State where
  /-- How many groups are open. -/
  depth : Nat
  /-- Whether there is something to repeat. -/
  repeatable : Bool
  /-- The names of groups. -/
  names : List (List Char)
  deriving DecidableEq, Repr

/-- Whether the rest of a pattern is right. Every round takes a character, so their number is fuel
    enough. -/
def accepts : Nat → State → List Char → Bool
  | 0, _, _ => false
  | fuel + 1, st, cs =>
    match cs with
    | [] => st.depth == 0
    | '(' :: cs =>
      match readOpening cs with
      | some (.group none, rest) => accepts fuel ⟨st.depth + 1, false, st.names⟩ rest
      | some (.group (some name), rest) =>
        !st.names.contains name && accepts fuel ⟨st.depth + 1, false, name :: st.names⟩ rest
      | some (.flags, rest) => accepts fuel { st with repeatable := false } rest
      | none => false
    | ')' :: cs => st.depth != 0 && accepts fuel ⟨st.depth - 1, true, st.names⟩ cs
    | '|' :: cs => accepts fuel { st with repeatable := false } cs
    | '[' :: cs =>
      match (openClass? cs).bind (skipClass? (cs.length + 1) 1) with
      | some rest => accepts fuel { st with repeatable := true } rest
      | none => false
    | '\\' :: cs =>
      match readEscape cs with
      | some (_, rest) => accepts fuel { st with repeatable := true } rest
      | none => false
    | '\x7b' :: _ => false
    | c :: cs =>
      if c = '*' || c = '+' || c = '?' then st.repeatable && accepts fuel st cs
      else accepts fuel { st with repeatable := true } cs

end Pattern

/-- Whether a text is a regular expression. -/
def isPattern (cs : List Char) : Bool :=
  Pattern.accepts (cs.length + 1) ⟨0, false, []⟩ cs

end AutoImport.Log
