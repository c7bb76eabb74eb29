import AutoImport.Dictionary
import AutoImport.Text.Quoted
import AutoImport.Toml.Basic

/-!
# Settings trees

What settings files and variables say before anybody asks whether it makes sense: trees of values,
each of which knows where it comes from.

Trees are laid over each other (`Tree.overlay`). Where both have a table the tables are joined, key
by key; anywhere else the later one hides the earlier one, whatever its type. So setting one key of
a table leaves the others alone.
-/

namespace AutoImport

/-- Where a setting comes from. -/
inductive SettingsSource where
  /-- A settings file, by its path. -/
  | file (path : String)
  /-- A variable of the environment. -/
  | environment
  deriving DecidableEq, Repr

/-- A value without parts. -/
inductive Scalar where
  | bool (b : Bool)
  | unsigned (n : Nat)
  | signed (n : Int)
  | float (x : Real64)
  | text (s : String)

/-- A value with its source. -/
inductive Tree where
  | scalar (value : Scalar) (source : SettingsSource)
  | list (items : List Tree) (source : SettingsSource)
  | table (entries : List (String × Tree)) (source : SettingsSource)

namespace Tree

/-- The source of a value. -/
def source : Tree → SettingsSource
  | scalar _ source => source
  | list _ source => source
  | table _ source => source

/-- The value of a key in the entries of a table. -/
abbrev find? (entries : List (String × Tree)) (key : String) : Option Tree :=
  entries.lookup key

/-- The entries of a table with a key set to a value. -/
def put (entries : List (String × Tree)) (key : String) (value : Tree) : List (String × Tree) :=
  entries.filter (·.1 != key) ++ [(key, value)]

mutual

/-- What is seen when `later` is laid over a value. -/
def overlay (later : Tree) : Tree → Tree
  | .table entries _ =>
    match later with
    | .table laterEntries source => .table (overlayEntries laterEntries entries) source
    | later => later
  | _ => later

/-- The entries seen when the table `later` is laid over a table with these entries. -/
def overlayEntries (later : List (String × Tree)) : List (String × Tree) → List (String × Tree)
  | [] => later
  | (key, value) :: entries =>
    match later.lookup key with
    | some laterValue =>
      (key, overlay laterValue value) :: overlayEntries (later.filter (·.1 != key)) entries
    | none => (key, value) :: overlayEntries later entries

end

/-- The other keys keep their values when the entries of one are left out. -/
theorem lookup_filter_ne (entries : List (String × Tree)) (key k : String) :
    (entries.filter (·.1 != key)).lookup k = if k = key then none else entries.lookup k := by
  induction entries with
  | nil => simp
  | cons e entries ih =>
    obtain ⟨k', v⟩ := e
    rw [List.filter_cons, lookup_cons_entry]
    by_cases hk : k' = key
    · rw [if_neg (by simp [hk]), ih]
      by_cases h : k = key <;> simp [hk, h]
    · rw [if_pos (by simp [hk]), lookup_cons_entry, ih]
      by_cases h : k = k' <;> simp [hk, h]

/-- What a key has after the overlay is decided by what the two tables have at that key alone. -/
theorem lookup_overlayEntries (later entries : List (String × Tree)) (k : String) :
    (overlayEntries later entries).lookup k =
      match entries.lookup k, later.lookup k with
      | some value, some laterValue => some (overlay laterValue value)
      | some value, none => some value
      | none, laterValue? => laterValue? := by
  induction entries generalizing later with
  | nil => simp [overlayEntries]
  | cons e entries ih =>
    obtain ⟨key, value⟩ := e
    rw [overlayEntries, lookup_cons_entry]
    split
    · rename_i laterValue hl
      rw [lookup_cons_entry, ih, lookup_filter_ne]
      by_cases h : k = key <;> simp [h, hl]
    · rename_i hl
      rw [lookup_cons_entry, ih]
      by_cases h : k = key <;> simp [h, hl]

mutual

/-- The value of a TOML document. Dates and times count as tables without known keys. -/
def ofToml (source : SettingsSource) : Toml.Value → Tree
  | .text s => .scalar (.text s) source
  | .integer n => .scalar (.signed n) source
  | .float x => .scalar (.float x) source
  | .bool b => .scalar (.bool b) source
  | .moment _ => .table [] source
  | .array items => .list (ofTomlItems source items) source
  | .table entries => .table (ofTomlEntries source entries) source

/-- The items of an array. -/
def ofTomlItems (source : SettingsSource) : List Toml.Value → List Tree
  | [] => []
  | item :: items => ofToml source item :: ofTomlItems source items

/-- The entries of a table. -/
def ofTomlEntries (source : SettingsSource) : List (String × Toml.Value) → List (String × Tree)
  | [] => []
  | (key, value) :: entries => (key, ofToml source value) :: ofTomlEntries source entries

end

/-- What a value is, for a message. -/
def description : Tree → String
  | scalar (.bool b) _ => "bool " ++ if b then "true" else "false"
  | scalar (.unsigned n) _ => "unsigned int \x60" ++ n.repr ++ "\x60"
  | scalar (.signed n) _ => "signed int \x60" ++ toString n ++ "\x60"
  | scalar (.float x) _ => "float \x60" ++ x.plainText ++ "\x60"
  | scalar (.text s) _ => "string " ++ Text.quoted s
  | list .. => "sequence"
  | table .. => "map"

end Tree

end AutoImport
