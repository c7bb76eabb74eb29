import AutoImport.Event
import AutoImport.Log.Pattern
import AutoImport.Text.Blank
import AutoImport.Text.Bytes

/-!
# Directives

The rules of a log filter. A directive says down to which level something is written:

    warn                          everything
    pyimports::loader=debug       what a part of the program notes down
    pyimports[load]=debug         what it notes down inside a span
    [{path}]=debug                what has a field
    [{path=.*cfg}]=debug          what is inside a span whose field has a value like this
    pyimports                     without a level, everything it notes down

A part of the program is named by the start of its name. A value is a truth value, a number or a
regular expression.

Blanks around a directive do not count when its parts are told apart. But the parts are then cut out
of the text as it stands, at the places they have without the blanks, so a directive with blanks
around it hardly ever means anything.
-/

namespace AutoImport

namespace Log

/-- A condition on a field: that there is one of this name, and perhaps that its value is like a
    text. -/
structure Field where
  name : String
  value? : Option String
  deriving DecidableEq, Repr

/-- One rule of a filter. -/
structure Directive where
  /-- What the names of the parts it is about start with. -/
  target : String
  /-- The span that it is about, if it is about one. -/
  span? : Option String
  field? : Option Field
  /-- The least important level that it lets pass, if any. -/
  level? : Option Level
  deriving DecidableEq, Repr

/-! ## Levels -/

/-- The levels by number, and that which lets nothing pass. -/
def numberedLevels : List (Option Level) :=
  [none, some .error, some .warn, some .info, some .debug, some .trace]

/-- The names of the levels. -/
def levelNames : List (String × Option Level) :=
  [("off", none), ("error", some .error), ("warn", some .warn), ("info", some .info),
    ("debug", some .debug), ("trace", some .trace)]

/-- The level of a number, which may have a plus in front, or of a name, in letters of any case. -/
def levelOf? (cs : List Char) : Option (Option Level) :=
  let digits := if cs.head? = some '+' then cs.tail else cs
  if !digits.isEmpty && digits.all Char.isDigit then
    numberedLevels[Nat.ofDigitChars 10 digits 0]?
  else levelNames.lookup (.ofList (cs.map Char.toLower))

/-- The level after the equals sign of a directive: all levels if there is none. -/
def levelPart? (cs : List Char) : Option (Option Level) :=
  if cs.isEmpty then some (some .trace) else levelOf? cs

/-! ## Fields -/

/-- Digits, perhaps with a point among them or at an end, and perhaps with an exponent. -/
def isDecimal (cs : List Char) : Bool :=
  let whole := cs.takeWhile Char.isDigit
  let rest := cs.drop whole.length
  let fraction := if rest.head? = some '.' then rest.tail.takeWhile Char.isDigit else []
  let rest := if rest.head? = some '.' then rest.tail.drop fraction.length else rest
  !(whole ++ fraction).isEmpty &&
    match rest with
    | [] => true
    | e :: power =>
      let power := if power.head? = some '+' || power.head? = some '-' then power.tail else power
      (e == 'e' || e == 'E') && !power.isEmpty && power.all Char.isDigit

/-- A number, which may be infinite or none at all. -/
def isNumber (cs : List Char) : Bool :=
  let unsigned := if cs.head? = some '+' || cs.head? = some '-' then cs.tail else cs
  isDecimal unsigned ||
    ["inf", "infinity", "nan"].contains (.ofList (unsigned.map Char.toLower))

/-- A value that a field can be compared with. The truth values are patterns, too. -/
def isValue (cs : List Char) : Bool :=
  isNumber cs || isPattern cs

/-- A condition on a field: its name, and after an equals sign its value. What stands behind a
    second equals sign is ignored. -/
def Field.read? (cs : List Char) : Option Field :=
  match cs.splitOn '=' with
  | name :: value :: _ =>
    if !cs.isEmpty && isValue value then some ⟨.ofList name, some (.ofList value)⟩ else none
  | _ => if cs.isEmpty then none else some ⟨.ofList cs, none⟩

/-! ## Directives -/

namespace Directive

/-- A part of a text, from a number of bytes up to another. -/
def cut (low high : Nat) (cs : List Char) : String :=
  .ofList (Text.takeBytes (high - low) (Text.dropBytes low cs))

/-- A character that the name of a part of the program may start with. -/
def startsTarget (c : Char) : Bool :=
  Text.isLetterOrNumber c || c == '-' || c == ':' || c == '_'

/-- Reads the end of a directive behind its span: nothing, or a level. `text` is the directive as it
    stands, and `shown` what is left of it without blanks, from the byte `place` on. -/
def readLevel? (text : List Char) (draft : Directive) (place : Nat) (shown : List Char) :
    Option Directive :=
  match shown with
  | [] => some draft
  | '=' :: _ =>
    (levelPart? (Text.dropBytes (place + 1) text)).map fun level? => { draft with level? }
  | _ => none

/-- Reads a directive from its span on, after the opening bracket. A span without a name is none
    when it has a field. -/
def readSpan? (text : List Char) (draft : Directive) (place : Nat) (shown : List Char) :
    Option Directive :=
  let name := shown.takeWhile fun c => c != ']' && c != '\x7b'
  let stop := place + Text.byteLength name
  let span := cut place stop text
  match shown.drop name.length with
  | ']' :: rest => readLevel? text { draft with span? := some span } (stop + 1) rest
  | '\x7b' :: rest =>
    let body := rest.takeWhile (· != '\x7d')
    let close := stop + 1 + Text.byteLength body
    match rest.drop body.length, Field.read? (cut (stop + 1) close text).toList with
    | '\x7d' :: ']' :: rest, some field =>
      let span? := if span.isEmpty then none else some span
      readLevel? text { draft with span?, field? := some field } (close + 2) rest
    | _, _ => none
  | _ => none

/-- Reads a directive. -/
def read? (text : List Char) : Option Directive :=
  let all : Directive := ⟨"", none, none, some .trace⟩
  match Text.trim text with
  | [] => none
  | '[' :: rest => readSpan? text all 1 rest
  | c :: cs =>
    if !startsTarget c then none
    else
      let name := (c :: cs).takeWhile fun d => d != '=' && d != '['
      let stop := Text.byteLength name
      match (c :: cs).drop name.length with
      | '[' :: rest => readSpan? text { all with target := cut 0 stop text } (stop + 1) rest
      | '=' :: rest => readLevel? text { all with target := cut 0 stop text } stop ('=' :: rest)
      | _ =>
        match levelOf? text with
        | some level? => some { all with level? }
        | none => some { all with target := .ofList text }

end Directive

end Log

end AutoImport
