import AutoImport.Event
import AutoImport.Failure
import AutoImport.Json.Basic
import AutoImport.Line
import AutoImport.Registration

/-!
# Loading an imports file

An imports file is read line by line, and each line means one thing on its own (`LineMeaning`): it
is blank or a comment and says nothing, it is no statement of the grammar, or it binds names. A load
takes the lines in turn (`Load.takeLine`), and every binding of a line in turn (`Load.takeBinding`);
on the way it tells the keeper of names what to remember, counts what it has told, keeps the lines
outside the grammar with their numbers, and says and notes down what happens.

A load never fails. It ends early where a file cannot be opened, or where a line cannot be read: the
first line that is not UTF-8, even in a comment, or the one that is being read when the system gives
up (`Opened.broken`). What it has done until then stays done.
-/

namespace AutoImport

/-! ## Lines of a file -/

/-- What opening a path gives. -/
inductive Opened where
  /-- It cannot be opened. -/
  | refused (cause : OsError)
  /-- It can be opened, and reading it fails behind these bytes. Of a directory nothing can be
      read. -/
  | broken (bytes : List UInt8) (cause : OsError)
  /-- It is a file with this content. -/
  | content (bytes : List UInt8)
  deriving DecidableEq, Repr

/-- The bytes of a line without the carriage return they may end with. -/
def dropReturn (line : List UInt8) : List UInt8 :=
  if line.getLast? = some 13 then line.dropLast else line

/-- The bytes of each line that ends with a line feed, which may have a carriage return before
    it. -/
def completeLines (bytes : List UInt8) : List (List UInt8) :=
  (bytes.splitOn 10).dropLast.map dropReturn

/-- The bytes of each line. The last line may end with the content; after a line feed that ends the
    content there is no line. -/
def splitLines (bytes : List UInt8) : List (List UInt8) :=
  completeLines bytes ++ ((bytes.splitOn 10).getLast?.filter (· ≠ [])).toList

/-- The lines that can be had of what was opened. Where reading fails in the middle of a line, there
    is no line. -/
def Opened.lines : Opened → List (List UInt8)
  | refused _ => []
  | broken bytes _ => completeLines bytes
  | content bytes => splitLines bytes

/-- The text of a line, if it is UTF-8. -/
def decodeLine (bytes : List UInt8) : Option String :=
  String.fromUTF8? ⟨bytes.toArray⟩

/-! ## Meaning of a line -/

/-- What a line means on its own. -/
inductive LineMeaning where
  /-- The line is blank or a comment. -/
  | idle
  /-- The line is no statement; its text without the blanks around it. -/
  | unrecognized (text : String)
  /-- The line is a statement. -/
  | statement (names : Names)
  deriving DecidableEq, Repr

namespace LineMeaning

/-- The meaning of a line. The blanks around it do not matter. -/
def ofLine (line : String) : LineMeaning :=
  let text := Text.trim line.toList
  if text.isEmpty || text.head? == some '#' then .idle
  else
    match readLine? (.ofList text) with
    | some names => .statement names
    | none => .unrecognized (.ofList text)

end LineMeaning

/-! ## Reports -/

/-- A line outside the grammar. -/
structure UnrecognizedLine where
  /-- Its number, the first line of the file having number 1. -/
  number : Nat
  /-- Its text, without the blanks around it. -/
  text : String
  deriving DecidableEq, Repr

/-- What a load did. -/
structure Report where
  path : String
  /-- Whether the file was read to its end. -/
  fileRead : Bool
  imports : Nat
  aliases : Nat
  unrecognized : List UnrecognizedLine
  deriving DecidableEq, Repr

namespace UnrecognizedLine

/-- The object of a line. -/
def toJson (line : UnrecognizedLine) : Json :=
  .obj [("line_number", .int line.number), ("text", .str line.text)]

end UnrecognizedLine

namespace Report

/-- The object of a report. -/
def toJson (r : Report) : Json :=
  .obj [("path", .str r.path), ("file_read", .bool r.fileRead), ("imports", .int r.imports),
    ("aliases", .int r.aliases), ("unrecognized", .arr (r.unrecognized.map (·.toJson)))]

/-- A report in one line; lines outside the grammar are mentioned only if there are any. -/
def label (r : Report) : String :=
  r.imports.repr ++ " names and " ++ r.aliases.repr ++ " aliases from " ++ r.path ++
    if r.unrecognized.isEmpty then ""
    else " (" ++ r.unrecognized.length.repr ++ " unrecognized lines)"

end Report

/-! ## Loads -/

/-- Something a load says or notes down. -/
inductive Notice where
  /-- A line for whoever wants to follow the load. -/
  | shown (text : String)
  /-- An event for the log. -/
  | logged (event : Event)
  deriving DecidableEq, Repr

/-- The line shown, if it is one. -/
def Notice.shown? : Notice → Option String
  | shown text => some text
  | logged _ => none

/-- The event logged, if it is one. -/
def Notice.logged? : Notice → Option Event
  | shown _ => none
  | logged event => some event

/-- A load, as far as it has come. -/
structure Load where
  path : String
  /-- What the keeper of names was told, in order. -/
  registrations : List Registration
  /-- What was said and noted down, in order. -/
  notices : List Notice
  /-- How many names the keeper was told of. -/
  imports : Nat
  /-- How many other local names the keeper was told of. -/
  aliases : Nat
  /-- The lines outside the grammar. -/
  unrecognized : List UnrecognizedLine
  /-- Whether the file was read to its end. -/
  fileRead : Bool
  /-- Why the file could not be opened, or read to its end. -/
  fault? : Option OsError
  deriving DecidableEq, Repr

namespace Load

/-! ### Steps -/

/-- Nothing done yet. -/
def start (path : String) : Load :=
  ⟨path, [], [], 0, 0, [], false, none⟩

/-- Says something, or notes it down. -/
def note (load : Load) (notice : Notice) : Load :=
  { load with notices := load.notices ++ [notice] }

/-- Tells the keeper of names something. -/
def register (load : Load) (r : Registration) : Load :=
  { load with registrations := load.registrations ++ [r] }

/-- Passes a binding on. -/
def takeBinding (load : Load) (b : Binding) : Load :=
  let load := (load.note (.shown b.label)).register (.name b.name b.module)
  let load := { load with imports := load.imports + 1 }
  if b.renames then
    let load := load.register (.rename b.localName b.name)
    { load with aliases := load.aliases + 1 }
  else load

/-- Passes on what a segment of a list of names binds. -/
def takeReading (load : Load) : SegmentReading → Load
  | .binds b => load.takeBinding b
  | .malformed text => load.note (.logged (.malformedName text))

/-- Takes in the line with a number. -/
def takeLine (load : Load) (number : Nat) (line : String) : Load :=
  match LineMeaning.ofLine line with
  | .idle => load
  | .unrecognized text =>
    let load := load.note (.logged (.unrecognized load.path number))
    { load with unrecognized := load.unrecognized ++ [⟨number, text⟩] }
  | .statement names => names.readings.foldl takeReading load

/-- Ends early, for a reason that is noted down as an event of its own. -/
def fail (load : Load) (event : Event) (cause : OsError) : Load :=
  let load := load.note (.logged event)
  let load := load.note (.shown ("Failed to load " ++ load.path ++ ": " ++ cause.message))
  { load with fault? := some cause }

/-- Ends at the end of the file. -/
def finish (load : Load) : Load :=
  { load.note (.logged (.loaded load.path load.imports load.aliases)) with fileRead := true }

/-- Ends early at the line with a number. -/
def stop (load : Load) (number : Nat) (cause : OsError) : Load :=
  load.fail (.stopped load.path number cause) cause

/-- Takes in the lines from a number on, up to the first that is not UTF-8. Behind the last line is
    the end of the file, or a line that cannot be read for some cause. -/
def takeLines (fault? : Option OsError) (number : Nat) : List (List UInt8) → Load → Load
  | [], load => fault?.elim load.finish (load.stop number)
  | line :: lines, load =>
    match decodeLine line with
    | none => load.stop number .invalidUtf8
    | some text => takeLines fault? (number + 1) lines (load.takeLine number text)

/-- Loads what was opened under a path. -/
def ofOpened (path : String) : Opened → Load
  | .refused cause => (start path).fail (.notLoaded path cause) cause
  | .broken bytes cause => takeLines (some cause) 1 (completeLines bytes) (start path)
  | .content bytes => takeLines none 1 (splitLines bytes) (start path)

/-! ### Results -/

/-- What the load did. -/
def report (load : Load) : Report :=
  ⟨load.path, load.fileRead, load.imports, load.aliases, load.unrecognized⟩

/-- The failure that ended the load early. -/
def failure? (load : Load) : Option Failure :=
  load.fault?.map (.fileRead load.path)

/-- The events of the load, in order. -/
def events (load : Load) : List Event :=
  load.notices.filterMap Notice.logged?

/-- What the load says on its diagnostic stream: nothing, unless it is asked to. -/
def diagnostics (load : Load) (verbose : Bool) : String :=
  if verbose then .join ((load.notices.filterMap Notice.shown?).map (· ++ "\n")) else ""

end Load

end AutoImport
