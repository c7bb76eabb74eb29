import AutoImport.Binding
import AutoImport.Json.Reader

/-!
# Bindings as JSON

A binding is written as an object of its three texts. It is read from such an object, in which the
three may stand in any order and among other fields, or from an array of just the three. Each of the
three has to be there, once, and to be a string.
-/

namespace AutoImport.Binding

/-- The fields of a binding. -/
def fields (b : Binding) : List (String × Json) :=
  [("module", .str b.module), ("name", .str b.name), ("alias", .str b.localName)]

/-- The object of a binding. -/
def toJson (b : Binding) : Json :=
  .obj b.fields

open AutoImport.Json

/-- A string, after blanks. Any other value is a mismatch, once it is seen to be one. -/
def readText (cs : List Char) : Except Fault (String × List Char) :=
  match skipBlanks cs with
  | '"' :: cs => readString cs
  | '[' :: _ => .error .mismatch
  | '{' :: _ => .error .mismatch
  | cs => do
    let _ ← readScalar cs
    .error .mismatch

/-- The next item of an array that has to have one. -/
def readItem (isFirst : Bool) (cs : List Char) : Except Fault (String × List Char) :=
  match skipBlanks cs with
  | [] => .error .truncated
  | ']' :: _ => .error .mismatch
  | c :: cs =>
    if isFirst then readText (c :: cs)
    else if c = ',' then
      match skipBlanks cs with
      | ']' :: _ => .error .malformed
      | cs => readText cs
    else .error .malformed

/-- The three texts of an array, its opening bracket already taken. -/
def readArray : Reader Binding := fun cs => do
  let (module, cs) ← readItem true cs
  let (name, cs) ← readItem false cs
  let (localName, cs) ← readItem false cs
  let rest ← expectChar ']' cs
  .ok (⟨module, name, localName⟩, rest)

/-- The texts of an object that have been read so far. -/
structure Fields where
  module : Option String := none
  name : Option String := none
  localName : Option String := none

/-- The binding of three texts, if all three are there. -/
def Fields.binding? (fields : Fields) : Option Binding := do
  some ⟨← fields.module, ← fields.name, ← fields.localName⟩

/-- The value of a field that must not have been read before. -/
def readOnce (known : Option String) (cs : List Char) :
    Except Fault (Option String × List Char) := do
  if known.isSome then .error .mismatch
  let (text, rest) ← readText (← expectChar ':' cs)
  .ok (some text, rest)

/-- The value of the field `key`, its name already taken. -/
def readKnown (key : String) (fields : Fields) (cs : List Char) :
    Except Fault (Fields × List Char) := do
  if key = "module" then
    let (text, rest) ← readOnce fields.module cs
    .ok ({ fields with module := text }, rest)
  else if key = "name" then
    let (text, rest) ← readOnce fields.name cs
    .ok ({ fields with name := text }, rest)
  else if key = "alias" then
    let (text, rest) ← readOnce fields.localName cs
    .ok ({ fields with localName := text }, rest)
  else
    .ok (fields, ← skipValue (← expectChar ':' cs))

/-- The fields of an object up to its closing bracket. The fuel bounds their number. -/
def readObject : Nat → Bool → Fields → Reader Binding
  | 0, _, _, _ => .error .malformed
  | fuel + 1, isFirst, fields, cs =>
    match skipBlanks cs with
    | [] => .error .truncated
    | '}' :: rest =>
      match fields.binding? with
      | some b => .ok (b, rest)
      | none => .error .mismatch
    | c :: cs => do
      let cs ← if isFirst then .ok (c :: cs) else if c = ',' then .ok cs else .error .malformed
      let (key, cs) ← readString (← expectChar '"' cs)
      let (fields, cs) ← readKnown key fields cs
      readObject fuel false fields cs

/-- A binding, after blanks. -/
def readJson (cs : List Char) : Except Fault (Binding × List Char) :=
  match skipBlanks cs with
  | '[' :: cs => readArray cs
  | '{' :: cs => readObject (cs.length + 1) true {} cs
  | cs => do
    let _ ← readScalar cs
    .error .mismatch

/-- Reads a text that is the JSON of one binding. -/
def ofJsonText (text : String) : Except Fault Binding := do
  let (b, rest) ← readJson text.toList
  expectEnd rest
  .ok b

end AutoImport.Binding
