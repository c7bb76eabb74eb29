import AutoImport.Toml.Basic

/-!
# Tables under construction

A TOML document is a list of statements that build one table, and not every list of statements does:

* no entry is given twice;
* a table has at most one header, `[a.b]`. What is on the way to it, `a`, comes into being as a mere
  `parent`, and may get a header of its own later;
* dotted keys, `a.b = 1`, open the tables on the way too. Such a table gets no header, and a table
  that has a header, or is the parent of one, is not added to by dotted keys;
* `[[a]]` adds a table to an array of tables; what follows is about the last table added;
* an array or a table written as a value, `{b = 1}`, is complete.

An inline table is built by the same rules from its entries alone.
-/

namespace AutoImport.Toml

/-- A statement of a document. -/
inductive Statement where
  /-- `a.b = value` -/
  | entry (key : DottedKey) (value : Value)
  /-- `[a.b]` -/
  | header (key : DottedKey)
  /-- `[[a.b]]` -/
  | element (key : DottedKey)

/-- How a table under construction came into being. -/
inductive Origin where
  /-- By a header of its own. -/
  | header
  /-- On the way to a header. -/
  | parent
  /-- By dotted keys. -/
  | dotted
  deriving DecidableEq, Repr

/-- What a key of a table under construction has. -/
inductive Item where
  /-- A complete value. -/
  | value (v : Value)
  /-- A table. -/
  | table (origin : Origin) (entries : List (String × Item))
  /-- An array of tables, of which the last is still being built. -/
  | tables (done : List (List (String × Item))) (last : List (String × Item))

/-- A table under construction. -/
abbrev Draft := List (String × Item)

namespace Draft

/-- What a key has. -/
def get? (draft : Draft) (key : String) : Option Item :=
  draft.lookup key

/-- The table with another item at a key that it has. -/
def replace (draft : Draft) (key : String) (item : Item) : Draft :=
  draft.map fun (k, i) => if k = key then (k, item) else (k, i)

/-- The table with an item at a key that it does not have yet. -/
def add (draft : Draft) (key : String) (item : Item) : Draft :=
  draft ++ [(key, item)]

/-- Adds an entry to a table, or to one that dotted keys open in it. `mayAdd` says whether the table
    itself may be added to. -/
def addEntry (mayAdd : Bool) (last : String) (value : Value) : List String → Draft → Option Draft
  | [], draft =>
    if mayAdd && (draft.get? last).isNone then some (draft.add last (.value value)) else none
  | key :: parents, draft =>
    match draft.get? key with
    | none => (addEntry true last value parents []).map fun sub =>
      draft.add key (.table .dotted sub)
    | some (.table origin sub) =>
      if origin = .header then none
      else (addEntry (origin = .dotted) last value parents sub).map fun sub =>
        draft.replace key (.table origin sub)
    | some (.tables done sub) => (addEntry false last value parents sub).map fun sub =>
      draft.replace key (.tables done sub)
    | some (.value _) => none

/-- A table with one entry more. -/
def addValue (draft : Draft) (entry : DottedKey × Value) : Option Draft :=
  draft.addEntry true entry.1.last entry.2 entry.1.parents

/-- Changes the table that a header is about. Tables on the way to it that do not exist come into
    being. -/
def change (f : Draft → Option Draft) : List String → Draft → Option Draft
  | [], draft => f draft
  | key :: keys, draft =>
    match draft.get? key with
    | none => (change f keys []).map fun sub => draft.add key (.table .parent sub)
    | some (.table origin sub) => (change f keys sub).map fun sub =>
      draft.replace key (.table origin sub)
    | some (.tables done sub) => (change f keys sub).map fun sub =>
      draft.replace key (.tables done sub)
    | some (.value _) => none

/-- Gives a table its header. -/
def openTable (key : String) (draft : Draft) : Option Draft :=
  match draft.get? key with
  | none => some (draft.add key (.table .header []))
  | some (.table .parent sub) => some (draft.replace key (.table .header sub))
  | _ => none

/-- Adds a table to an array of tables. -/
def openElement (key : String) (draft : Draft) : Option Draft :=
  match draft.get? key with
  | none => some (draft.add key (.tables [] []))
  | some (.tables done last) => some (draft.replace key (.tables (done ++ [last]) []))
  | _ => none

end Draft

mutual

/-- The value of an item. -/
def Item.complete : Item → Value
  | .value v => v
  | .table _ entries => .table (completeEntries entries)
  | .tables done last => .array (completeAll done ++ [.table (completeEntries last)])

/-- The entries of a complete table. -/
def completeEntries : List (String × Item) → Table
  | [] => []
  | (key, item) :: entries => (key, item.complete) :: completeEntries entries

/-- The tables of a complete array. -/
def completeAll : List (List (String × Item)) → List Value
  | [] => []
  | entries :: tables => .table (completeEntries entries) :: completeAll tables

end

/-- A document under construction: the whole table, and the keys of the last header. -/
structure Document where
  whole : Draft
  current : List String

namespace Document

/-- The document after one more statement. -/
def step (d : Document) : Statement → Option Document
  | .entry key value => do
    some { d with whole := ← d.whole.change (·.addValue (key, value)) d.current }
  | .header key => do
    some ⟨← d.whole.change (·.openTable key.last) key.parents, key.parents ++ [key.last]⟩
  | .element key => do
    some ⟨← d.whole.change (·.openElement key.last) key.parents, key.parents ++ [key.last]⟩

/-- The table that a list of statements builds. -/
def build? (statements : List Statement) : Option Table :=
  (statements.foldlM step ⟨[], []⟩).map fun d => completeEntries d.whole

end Document

/-- The table that a list of entries builds. -/
def inlineTable? (entries : List (DottedKey × Value)) : Option Table :=
  (entries.foldlM Draft.addValue []).map completeEntries

end AutoImport.Toml
