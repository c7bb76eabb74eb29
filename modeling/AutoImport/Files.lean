import AutoImport.Load
import AutoImport.Path
import AutoImport.Text.Bytes

/-!
# A tree of files

The part of a file system that the program sees: which absolute paths are files, and with what
content, which are directories, and which directory is the current one. Paths are followed component
by component, as the system does it, so that a missing directory is found before `..` leads out of
it, and a slash after the name of a file is an error.
-/

namespace AutoImport

/-- What is at a place in the tree. -/
inductive Node where
  | file (content : List UInt8)
  | directory
  deriving DecidableEq, Repr

/-- A place in the tree: the names on the way from the root. -/
abbrev Place := List String

/-- A tree of files with a current directory. -/
structure Files where
  /-- The places that hold something. The directories above them need not be listed. -/
  nodes : List (Place × Node)
  /-- The current directory. -/
  cwd : Place

/-- A file that was looked for and found. -/
structure FoundFile where
  /-- Its path, as messages show it. -/
  path : String
  /-- Its content, or why it cannot be read. -/
  content : Except OsError (List UInt8)

namespace Files

/-- What is at a place. The current directory, and all directories above something, are there
    without being listed. -/
def node? (files : Files) (place : Place) : Option Node :=
  match files.nodes.find? (·.1 == place) with
  | some (_, node) => some node
  | none =>
    if place.isPrefixOf files.cwd || files.nodes.any (place.isPrefixOf ·.1) then some .directory
    else none

/-- Follows the pieces of a path from a directory. An empty last piece, after a slash, asks for a
    directory, as `.` does. -/
def walk (files : Files) (place : Place) : List (List Char) → Except OsError Place
  | [] => .ok place
  | piece :: pieces =>
    if files.node? place != some .directory then .error .notADirectory
    else if Text.byteLength piece > 255 then .error .nameTooLong
    else if Path.isVoid piece then walk files place pieces
    else if piece = ['.', '.'] then walk files place.dropLast pieces
    else
      let below := place ++ [.ofList piece]
      if (files.node? below).isNone then .error .noSuchFile else walk files below pieces

/-- The place of a path, seen from a directory. -/
def locate (files : Files) (directory : Place) (path : String) : Except OsError Place :=
  let cs := path.toList
  if cs.contains '\x00' then .error .nulInName
  else if cs.isEmpty then .error .noSuchFile
  else if Text.byteLength cs > 4095 then .error .nameTooLong
  else files.walk (if Path.isAbsolute path then [] else directory) (Path.pieces cs)

/-- Opens a path. A directory can be opened, but not read. -/
def openPath (files : Files) (path : String) : Opened :=
  match files.locate files.cwd path with
  | .error cause => .refused cause
  | .ok place =>
    match files.node? place with
    | some (.file content) => .content content
    | some .directory => .broken [] .isADirectory
    | none => .refused .noSuchFile

/-- The content of a path that is a file, seen from a directory. -/
def fileAt? (files : Files) (directory : Place) (path : String) : Option (List UInt8) :=
  match files.locate directory path with
  | .error _ => none
  | .ok place =>
    match files.node? place with
    | some (.file content) => some content
    | _ => none

/-- A directory and those above it, the nearest first. -/
def ancestors (place : Place) : List Place :=
  (List.range (place.length + 1)).map fun up => place.take (place.length - up)

/-- The components of the absolute path of a place. -/
def placeComponents (place : Place) : List Path.Component :=
  .root :: place.map fun name => .normal name.toList

/-- A path seen from a directory, as the current directory sees it. -/
def shownPath (files : Files) (directory : Place) (path : String) : String :=
  let components :=
    if Path.isAbsolute path then Path.components path
    else placeComponents directory ++ (Path.components path).filter (· != .current)
  Path.ofComponents (Path.relativeTo (placeComponents files.cwd) components)

/-- Looks for a file in the current directory and in each directory above it in turn; an absolute
    path is looked for once. Gives the path as the current directory sees it, and the content. -/
def search? (files : Files) (path : String) : Option FoundFile :=
  let directories := if Path.isAbsolute path then [files.cwd] else ancestors files.cwd
  directories.findSome? fun directory =>
    (files.fileAt? directory path).map fun bytes => ⟨files.shownPath directory path, .ok bytes⟩

end Files

end AutoImport
