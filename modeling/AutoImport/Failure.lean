import AutoImport.OsError

/-!
# Failures

What can go wrong for a user of the program, as causes. Everything else about a failure follows from
its cause: the message, a stable code for programs, suggestions for people, and the exit status.
-/

namespace AutoImport

/-- How a command ended. -/
inductive ExitStatus where
  | success
  | generalError
  | notFound
  | parseError
  | ioError
  | configError
  deriving DecidableEq, Repr

/-- The number the shell sees. 2 is left to misused command lines. -/
def ExitStatus.code : ExitStatus → Nat
  | success => 0
  | generalError => 1
  | notFound => 3
  | parseError => 4
  | ioError => 5
  | configError => 6

/-- A failure that a user is told about. -/
inductive Failure where
  /-- An imports file could not be opened or read to its end. -/
  | fileRead (path : String) (cause : OsError)
  /-- A settings file or variable is wrong. -/
  | config (reason : String)
  /-- A looked-up name is in no statement. -/
  | nameNotFound (name : String)
  /-- An imports file has lines outside the grammar. -/
  | unrecognizedLines (path : String) (count : Nat)
  /-- Anything else. -/
  | general (text : String)
  deriving DecidableEq, Repr

namespace Failure

/-- What is said about a failure. -/
def message : Failure → String
  | fileRead path cause => "Failed to read file '" ++ path ++ "': " ++ cause.message
  | config reason => "Invalid configuration: " ++ reason
  | nameNotFound name => "Name '" ++ name ++ "' not found in the import table"
  | unrecognizedLines path count => count.repr ++ " unrecognized line(s) in '" ++ path ++ "'"
  | general text => text

/-- The code of a failure. -/
def code : Failure → String
  | fileRead .. => "FILE_READ_ERROR"
  | config _ => "CONFIG_ERROR"
  | nameNotFound _ => "NOT_FOUND"
  | unrecognizedLines .. => "PARSE_ERROR"
  | general _ => "GENERAL_ERROR"

/-- What to try next. -/
def suggestions : Failure → List String
  | fileRead .. =>
    ["Check that the file exists and you have read permissions",
      "Pass another file with --file or set imports_file in settings.toml"]
  | config _ =>
    ["Run 'pyimports config' to see the effective settings",
      "Check PYIMPORTS_* environment variables"]
  | nameNotFound _ =>
    ["Check the spelling", "Add an import line for it to the imports file"]
  | unrecognizedLines .. =>
    ["Only 'import a, b as c' and 'from mod import a, b as c' lines are understood",
      "Split parenthesized or multi-line imports onto single lines"]
  | general _ => []

/-- The exit status of a command that fails so. -/
def exitStatus : Failure → ExitStatus
  | fileRead .. => .ioError
  | config _ => .configError
  | nameNotFound _ => .notFound
  | unrecognizedLines .. => .parseError
  | general _ => .generalError

/-- The failure of a chain of causes, given from the root outwards: the outermost is said first. -/
def ofChain (causes : List String) : Failure :=
  .general (": ".intercalate causes.reverse)

end Failure

end AutoImport
