/-!
# Paths

Paths of a Unix system, as texts. A path is a list of components between slashes; empty components,
and `.` anywhere but at the start, carry no information.

A leading `~` stands for the home directory, but only as a component of its own: `~/x` is expanded,
`~user/x` is not. What follows the `~` is put under the home directory as it stands, except that the
slashes and dots that carry no information are dropped at both ends. So the result lies under the
home directory, however many slashes follow the `~`.
-/

namespace AutoImport.Path

/-- A component of a path. -/
inductive Component where
  /-- The slash an absolute path starts with. -/
  | root
  /-- The `.` a relative path starts with. -/
  | current
  /-- `..` -/
  | parent
  /-- A name. -/
  | normal (name : List Char)
  deriving DecidableEq, Repr

/-- The pieces of a path between slashes. -/
def pieces (cs : List Char) : List (List Char) :=
  cs.splitOn '/'

/-- Whether a piece carries no information. -/
def isVoid (piece : List Char) : Bool :=
  piece == [] || piece == ['.']

/-- What a piece that carries information stands for. -/
def Component.ofPiece (piece : List Char) : Component :=
  if piece = ['.', '.'] then .parent else .normal piece

/-- The components after the first piece. -/
def componentsOfPieces (ps : List (List Char)) : List Component :=
  (ps.filter (!isVoid ·)).map .ofPiece

/-- The components of a path. -/
def components (path : String) : List Component :=
  match path.toList with
  | [] => []
  | '/' :: cs => .root :: componentsOfPieces (pieces cs)
  | cs =>
    match pieces cs with
    | ['.'] :: ps => .current :: componentsOfPieces ps
    | ps => componentsOfPieces ps

/-- Whether a path starts at the root. -/
def isAbsolute (path : String) : Bool :=
  path.toList.head? == some '/'

/-- A path under a directory, unless it is absolute. -/
def join (directory path : String) : String :=
  if isAbsolute path then path
  else if directory.isEmpty || directory.toList.getLast? == some '/' then directory ++ path
  else directory ++ "/" ++ path

/-- Pieces without those that carry no information at either end. -/
def trimPieces (ps : List (List Char)) : List (List Char) :=
  ((ps.dropWhile isVoid).reverse.dropWhile isVoid).reverse

/-- The path with a leading `~` replaced by the home directory. -/
def expandHome (home path : String) : String :=
  match pieces path.toList with
  | ['~'] :: ps => join home (.ofList (['/'].intercalate (trimPieces ps)))
  | _ => path

/-- The text of a component. -/
def Component.text : Component → List Char
  | root => ['/']
  | current => ['.']
  | parent => ['.', '.']
  | normal name => name

/-- The path of a list of components. -/
def ofComponents (cs : List Component) : String :=
  cs.foldl (fun path c => join path (.ofList c.text)) ""

/-- The components of a path as seen from a directory: what the two have in common in front is left
    out, and a `..` leads out of every other component of the directory. -/
def relativeTo : (directory path : List Component) → List Component
  | d :: ds, c :: cs =>
    if d = c then relativeTo ds cs else (d :: ds).map (fun _ => .parent) ++ c :: cs
  | ds, cs => ds.map (fun _ => .parent) ++ cs

end AutoImport.Path
