import AutoImport.Binding.Json
import AutoImport.Cli.Invocation
import AutoImport.Grid
import AutoImport.Log
import AutoImport.Settings.Load
import AutoImport.Table
import AutoImport.Vim

/-!
# Carrying out a command

A run of the program has three steps, and between them it needs one file each:

* `Invocation.settingsPath?` says which settings file to look for, if any, and `Session.start` takes
  what was found and gives a session: the command, the settings it is carried out with, and what is
  to be logged. Settings that the command line names have to be right. The user's own are replaced
  by the defaults if they are not, and a warning is logged.
* the session's settings say which imports file to open, and `Session.run` takes what was opened,
  and writes everything that the command has to say.

What is written on the way, the diagnostics of a verbose load and the lines of the log, comes before
what the command says. A diagnostic that cannot be written is dropped; a line of the log that cannot
be written ends the run. A result that cannot be written is a failure, which is said instead of it,
and if that cannot be written either the run still ends as a failure.
-/

namespace AutoImport

/-! ## Sessions -/

/-- What a command line and the settings come to. -/
structure Session where
  command : Command
  settings : Settings
  /-- Which events are logged. -/
  filter : Log.Filter
  /-- What there is to log before the command is carried out. -/
  events : List Event

/-- The settings file of a command line, or else that of the user. -/
def Invocation.settingsPath? (inv : Invocation) (env : Environment) : Option String :=
  inv.config?.or (Settings.userPath? env)

/-- The events that are logged: what the user's filter lets pass, if there is one that can be read,
    and else warnings and errors, or everything down to details where the settings ask for them. -/
def Environment.logFilter (env : Environment) (debug : Bool) : Log.Filter :=
  ((env.get? "RUST_LOG").bind Log.Filter.read?).getD (.atLevel (if debug then .debug else .warn))

/-- The settings with what the command line says instead. -/
def Invocation.override (inv : Invocation) (env : Environment) (s : Settings) : Settings :=
  { s with
    importsFile := (inv.file?.map env.expandHome).getD s.importsFile
    verbose := s.verbose || inv.verbose }

/-- Starts a session with the settings file that was found. -/
def Session.start (inv : Invocation) (env : Environment) (file? : Option FoundFile) :
    Except Failure Session :=
  match Settings.load env file?, inv.config? with
  | .ok settings, _ =>
    .ok ⟨inv.command, inv.override env settings, env.logFilter settings.debug, []⟩
  | .error fault, some path => .error (.config (path ++ ": " ++ fault.message))
  | .error fault, none =>
    .ok ⟨inv.command, inv.override env (.default env.home?), env.logFilter false,
      [.defaultSettings fault.message]⟩

/-! ## Commands -/

/-- The answer to a lookup: a binding, and the statement to insert. -/
def lookupAnswer (b : Binding) : Answer :=
  ⟨b.statement, .obj (b.fields ++ [("statement", .str b.statement)])⟩

/-- A binding among others. -/
def bindingAnswer (b : Binding) : Answer :=
  ⟨b.label, b.toJson⟩

/-- A line outside the grammar, for people. -/
def unrecognizedText (terminal : Terminal) (path : String) (line : UnrecognizedLine) : String :=
  terminal.apply .path (path ++ ":" ++ line.number.repr) ++ " " ++ terminal.warning line.text

namespace Command

open Output

/-- Lists the bindings of a load. -/
def runList (terminal : Terminal) (format : Format) (load : Load) : Writing ExitStatus := do
  let bindings := (Table.empty.registerAll load.registrations).bindings
  match format with
  | .json => collection .json (bindings.map bindingAnswer) "imports"
  | .text =>
    if bindings.isEmpty then notFound .text "Imports in" load.path
    else
      info .text ((Grid.ofBindings bindings).render terminal.isTerminal)
      return .success

/-- Finds the statement for a name. -/
def runLookup (name : String) (format : Format) (load : Load) : Writing ExitStatus :=
  match (Table.empty.registerAll load.registrations).resolve? name with
  | some b => success format (lookupAnswer b)
  | none => failure format (.nameNotFound name) none

/-- Writes the Vim commands of a load. -/
def runVim (vars : Vim.Variables) (load : Load) : Writing ExitStatus := do
  raw (Vim.script (vars.commands load.registrations))
  return .success

/-- Reports what a load did, if it left nothing out. -/
def reportLoad (terminal : Terminal) (format : Format) (report : Report) : Writing ExitStatus := do
  match format with
  | .json => success .json ⟨report.label, report.toJson⟩
  | .text =>
    info .text ((Grid.ofReport report).render terminal.isTerminal)
    info .text (terminal.success "All lines recognized")
    return .success

/-- Reports the lines outside the grammar. -/
def runCheck (terminal : Terminal) (format : Format) (load : Load) : Writing ExitStatus := do
  let report := load.report
  match load.failure? with
  | some f => failure format f none
  | none =>
    if report.unrecognized.isEmpty then reportLoad terminal format report
    else
      report.unrecognized.forM fun line =>
        info format (unrecognizedText terminal load.path line)
      failure format (.unrecognizedLines load.path report.unrecognized.length)
        (some (.arr (report.unrecognized.map (·.toJson))))

/-- Writes the settings. -/
def runConfig (settings : Settings) : Writing ExitStatus := do
  info .text "Current Configuration:"
  info .text (String.ofList (List.replicate 50 '='))
  info .text settings.toToml
  return .success

/-- Carries out a command with the load of the imports file. -/
def run (terminal : Terminal) (settings : Settings) (load : Load) : Command → Writing ExitStatus
  | list format => runList terminal format load
  | lookup name format => runLookup name format load
  | vim => runVim settings.vim load
  | check format => runCheck terminal format load
  | config => runConfig settings

/-- Whether a command loads the imports file. -/
def loads : Command → Bool
  | config => false
  | _ => true

end Command

/-! ## Runs -/

/-- How a run ends. -/
inductive Ending where
  /-- The command was carried out, or failed. -/
  | exited (status : ExitStatus)
  /-- The command line was wrong. -/
  | misused
  /-- Something had to be written for which there is no other way. -/
  | aborted
  deriving DecidableEq, Repr

/-- The number the shell sees. -/
def Ending.code : Ending → Nat
  | exited status => status.code
  | misused => 2
  | aborted => 101

/-- Writes a notice; `time` is put in front of the lines of the log. -/
def Notice.write (time : String) : Notice → Writing Unit
  | shown text => .offerLine .err text
  | logged event => .writeLine .err (Log.line time event)

/-- Says that something failed. The status is the one of the failure, or `unsaid` if nothing can be
    said. -/
def sayFailure (format : Format) (f : Failure) (unsaid : ExitStatus) (console : Console) :
    ExitStatus × Console :=
  match (Output.failure format f none).run console with
  | .ok status console => (status, console)
  | .error _ console => (unsaid, console)

namespace Session

/-- Whether a notice is for the user. -/
def notes (s : Session) : Notice → Bool
  | .shown _ => s.settings.verbose
  | .logged event => s.filter.passes event

/-- What the session says and logs before the command has its say. -/
def notices (s : Session) (load : Load) : List Notice :=
  (s.events.map Notice.logged ++ if s.command.loads then load.notices else []).filter s.notes

/-- Carries out the command, and says so if what it writes is refused. The settings have no other
    way to be said. -/
def carryOut (s : Session) (terminal : Terminal) (load : Load) (console : Console) :
    Ending × Console :=
  match (s.command.run terminal s.settings load).run console with
  | .ok status console => (.exited status, console)
  | .error cause console =>
    if s.command = .config then (.aborted, console)
    else
      let (status, console) :=
        sayFailure s.command.format (.general cause.message) .generalError console
      (.exited status, console)

/-- Runs a session with what was opened as its imports file. -/
def run (s : Session) (terminal : Terminal) (time : String) (opened : Opened) (console : Console) :
    Ending × Console :=
  let load := Load.ofOpened s.settings.importsFile opened
  match ((s.notices load).forM (Notice.write time)).run console with
  | .error _ console => (.aborted, console)
  | .ok _ console => s.carryOut terminal load console

end Session

/-! ## The program -/

/-- What the program says about itself. -/
def versionText : String :=
  "pyimports 0.1.0"

/-- How the program is used. -/
def helpText : String :=
  "Parse a list of canonical import statements and expose name -> module bindings to an " ++
  "editor.\n\n" ++
  "Usage: pyimports [OPTIONS] <COMMAND>\n\n" ++
  "Commands:\n" ++
  "  show    List every binding in the imports file\n" ++
  "  lookup  Print the import statement for a typed name\n" ++
  "  vim     Emit Vim commands that fill the import dictionaries\n" ++
  "  check   Report lines the grammar does not recognize\n" ++
  "  config  Show current configuration settings\n" ++
  "  help    Print this message\n\n" ++
  "Options:\n" ++
  "  -c, --config <CONFIG>  Path to custom settings.toml file\n" ++
  "  -f, --file <FILE>      Imports file to load (overrides settings)\n" ++
  "  -v, --verbose          Print every parsed binding and load failures\n" ++
  "  -h, --help             Print help\n" ++
  "  -V, --version          Print version"

/-- What is said where no command is carried out. -/
def Refusal.run (refusal : Refusal) (console : Console) : Ending × Console :=
  let (stream, text, ending) : Stream × String × Ending := match refusal with
    | .misuse => (.err, "error: invalid arguments\n\nFor more information, try '--help'.", .misused)
    | .help => (.out, helpText, .exited .success)
    | .version => (.out, versionText, .exited .success)
  match (Writing.offerLine stream text).run console with
  | .ok _ console => (ending, console)
  | .error _ console => (ending, console)

/-- What the program sees of the world: its environment, and how it finds and opens files. -/
structure World where
  env : Environment
  terminal : Terminal
  /-- The time, as the log writes it. -/
  time : String
  /-- Looks for a settings file. -/
  search? : String → Option FoundFile
  /-- Opens an imports file. -/
  openPath : String → Opened

/-- The settings file that is found for a command line. -/
def World.settingsFile? (world : World) (inv : Invocation) : Option FoundFile :=
  (inv.settingsPath? world.env).bind world.search?

/-- Runs the program. -/
def runProgram (world : World) (args : List String) (console : Console) : Ending × Console :=
  match Invocation.read args with
  | .error refusal => refusal.run console
  | .ok inv =>
    match Session.start inv world.env (world.settingsFile? inv) with
    | .error f =>
      let (status, console) := sayFailure .text f .configError console
      (.exited status, console)
    | .ok session =>
      session.run world.terminal world.time (world.openPath session.settings.importsFile) console

end AutoImport
