import AutoImport.Cli.Run
import Std.Time

/-!
# The command line program

The outer layer: it asks the system for what `runProgram` wants to know, and writes what it says. It
decides nothing.
-/

namespace AutoImport

/-- The variables of the process, as the system lists them. Variables that are not UTF-8 are left
    out. -/
def readVariables : IO (List (String × String)) := do
  let bytes ← IO.FS.readBinFile "/proc/self/environ"
  return (bytes.toList.splitOn 0).filterMap fun entry =>
    (decodeLine entry).bind fun text =>
      match text.toList.span (· != '=') with
      | (name@(_ :: _), _ :: value) => some (.ofList name, .ofList value)
      | _ => none

/-- The home directory that the user database has for the user of the process. -/
def readUserHome? : IO (Option String) := do
  try
    let status ← IO.FS.readFile "/proc/self/status"
    let user? := (status.splitOn "\n").findSome? fun line =>
      match line.splitOn "\t" with
      | "Uid:" :: user :: _ => some user
      | _ => none
    let users ← IO.FS.readFile "/etc/passwd"
    return (users.splitOn "\n").findSome? fun line =>
      match line.splitOn ":" with
      | [_, _, user, _, _, home, _] => if some user = user? then some home else none
      | _ => none
  catch _ => return none

/-- The code of an error. -/
def errorCode : IO.Error → UInt32
  | .alreadyExists _ code _ | .noFileOrDirectory _ code _ | .invalidArgument _ code _
  | .permissionDenied _ code _ | .resourceExhausted _ code _ | .inappropriateType _ code _
  | .noSuchThing _ code _ | .interrupted _ code _ => code
  | .otherError code _ | .resourceBusy code _ | .resourceVanished code _
  | .unsupportedOperation code _ | .hardwareFault code _ | .unsatisfiedConstraints code _
  | .illegalOperation code _ | .protocolError code _ | .timeExpired code _ => code
  | _ => 5

/-- An error of the system by its number. Some codes are the number with a minus. -/
def osErrorOf (error : IO.Error) : OsError :=
  .system (errorCode error).toInt32.toInt.natAbs

/-- Reads what has been opened, as far as it can be read. -/
def readOpened (handle : IO.FS.Handle) : IO Opened := do
  let mut bytes : ByteArray := .empty
  repeat
    match ← observing (handle.read 0x10000) with
    | .error error => return .broken bytes.toList (osErrorOf error)
    | .ok chunk =>
      if chunk.isEmpty then break
      bytes := bytes ++ chunk
  return .content bytes.toList

/-- Opens a path, and reads what is there. -/
def openFile (path : String) : IO Opened := do
  if path.toList.contains '\x00' then return .refused .nulInName
  match ← observing (IO.FS.Handle.mk path .read) with
  | .error error => return .refused (osErrorOf error)
  | .ok handle => readOpened handle

/-- What is read of something that was opened as a whole. -/
def Opened.whole : Opened → Except OsError (List UInt8)
  | refused cause | broken _ cause => .error cause
  | content bytes => .ok bytes

/-- Whether a path is that of a file. -/
def isFile (path : String) : IO Bool := do
  match ← observing ((← IO.currentDir) / path).metadata with
  | .ok metadata => return metadata.type == .file
  | .error _ => return false

/-- The first of several directories in which a path is a file, with what is read of that file. -/
def findFile (path : String) : List Place → IO (Option (Place × Except OsError (List UInt8)))
  | [] => return none
  | directory :: directories => do
    let there := Path.join (Path.ofComponents (Files.placeComponents directory)) path
    if ← isFile there then return some (directory, (← openFile there).whole)
    else findFile path directories

/-- Looks for a settings file in the current directory and above. -/
def searchFile (path : String) : IO (Option FoundFile) := do
  let cwd := (← IO.currentDir).toString
  let place := (Path.pieces cwd.toList).filterMap fun piece =>
    if Path.isVoid piece then none else some (String.ofList piece)
  let files : Files := ⟨[], place⟩
  let found? ← findFile path (if Path.isAbsolute path then [place] else Files.ancestors place)
  return found?.map fun (directory, content) => ⟨files.shownPath directory path, content⟩

/-- The time, as the log writes it. -/
def currentTime : IO String := do
  let now ← Std.Time.Timestamp.now
  return (Std.Time.DateTime.ofTimestampWithZone now .UTC).format
    "uuuu-MM-dd'T'HH:mm:ss.SSSSSS'Z'"

/-- What the program sees of the world when it is given these arguments. -/
def readWorld (args : List String) : IO World := do
  let env : Environment := ⟨← readVariables, ← readUserHome?⟩
  let terminal : Terminal := ⟨← (← IO.getStdout).isTty, (env.get? "NO_COLOR").isSome⟩
  let world : World := ⟨env, terminal, ← currentTime, fun _ => none, fun _ => .content []⟩
  match Invocation.read args with
  | .error _ => return world
  | .ok inv =>
    let found? ← match inv.settingsPath? env with
      | some path => searchFile path
      | none => pure none
    match Session.start inv env found? with
    | .error _ => return { world with search? := fun _ => found? }
    | .ok session =>
      let opened ←
        if session.command.loads then openFile session.settings.importsFile else pure (.content [])
      return { world with search? := fun _ => found?, openPath := fun _ => opened }

/-- Writes a text to a stream, and says whether the stream has taken it. -/
def offer (stream : IO.FS.Stream) (text : String) : IO Bool := do
  try
    stream.putStr text
    stream.flush
    return true
  catch _ => return false

/-- Runs the program. Should a stream refuse to be written to, the run is the one that
    knows of it. -/
def runWith (args : List String) : IO UInt32 := do
  let world ← readWorld args
  let attempt (refuses : Stream → Bool) := runProgram world args (.fresh refuses)
  let code (ending : Ending) : UInt32 := .ofNat ending.code
  let (ending, console) := attempt fun _ => false
  if ← offer (← IO.getStdout) console.out then
    if ← offer (← IO.getStderr) console.err then return code ending
    else return code (attempt (· = .err)).1
  else
    let (ending, console) := attempt (· = .out)
    if ← offer (← IO.getStderr) console.err then return code ending
    else return code (attempt fun _ => true).1

end AutoImport

/-- The program. -/
def main (args : List String) : IO UInt32 :=
  AutoImport.runWith args
