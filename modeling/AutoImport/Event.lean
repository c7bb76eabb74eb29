import AutoImport.OsError

/-!
# Log events

What the program notes down while it works, for whoever asks to see it. An event is a cause with its
data; level and wording follow from it.
-/

namespace AutoImport

/-- How much an event matters, from the most to the least. -/
inductive Level where
  | error
  | warn
  | info
  | debug
  | trace
  deriving DecidableEq, Repr

namespace Level

/-- The place of a level in the order, the most important first. -/
def rank : Level → Nat
  | error => 1
  | warn => 2
  | info => 3
  | debug => 4
  | trace => 5

/-- The name of a level, as wide as the widest. -/
def label : Level → String
  | error => "ERROR"
  | warn => " WARN"
  | info => " INFO"
  | debug => "DEBUG"
  | trace => "TRACE"

end Level

/-- Something worth a line in the log. -/
inductive Event where
  /-- A segment of a list of names was skipped. -/
  | malformedName (text : String)
  /-- An imports file could not be opened. -/
  | notLoaded (path : String) (cause : OsError)
  /-- An imports file could not be read from a line on. -/
  | stopped (path : String) (line : Nat) (cause : OsError)
  /-- A line is no statement of the grammar. -/
  | unrecognized (path : String) (line : Nat)
  /-- An imports file was read to its end. -/
  | loaded (path : String) (imports aliases : Nat)
  /-- The settings could not be read. -/
  | defaultSettings (reason : String)
  deriving DecidableEq, Repr

namespace Event

/-- Unreadable settings are worth a warning, everything else is detail. -/
def level : Event → Level
  | defaultSettings _ => .warn
  | _ => .debug

/-- The part of the program that an event is about, for log filters. -/
def target : Event → String
  | malformedName _ => "pyimports::parsing::grammar"
  | defaultSettings _ => "pyimports"
  | _ => "pyimports::loader"

/-- The text of an event. -/
def message : Event → String
  | malformedName text => "skipping malformed import name '" ++ text ++ "'"
  | notLoaded path cause => "import file " ++ path ++ " not loaded: " ++ cause.message
  | stopped path line cause =>
    "stopped reading " ++ path ++ " at line " ++ line.repr ++ ": " ++ cause.message
  | unrecognized path line => path ++ ":" ++ line.repr ++ ": unrecognized line"
  | loaded path imports aliases =>
    "loaded " ++ imports.repr ++ " imports and " ++ aliases.repr ++ " aliases from " ++ path
  | defaultSettings reason => "configuration error, using defaults: " ++ reason

end Event

end AutoImport
