import AutoImport.Files
import AutoImport.Settings.Basic
import AutoImport.Settings.Variable
import AutoImport.Toml.Reader

/-!
# Loading settings

Settings come in layers: the defaults, a settings file laid over them, and the variables of the
environment laid over both. Each setting is decided by the last layer that has it, alone: what
another layer says, even a value of the wrong type, does not matter, and neither do keys that nobody
asks for.

There are no conversions between types. The first value of a wrong type is a fault, in the order in
which the settings are asked for: `debug`, `imports_file`, `verbose`, `vim`. A settings file that
cannot be read, or not as TOML, is a fault before all others. One that does not exist is none.
-/

namespace AutoImport

/-! ## Faults -/

/-- What a setting can have to be. -/
inductive Expectation where
  | bool
  | path
  | text
  | vimTable
  deriving DecidableEq, Repr

/-- What is expected, for a message. -/
def Expectation.description : Expectation → String
  | bool => "a boolean"
  | path => "path string"
  | text => "a string"
  | vimTable => "struct VimConfig"

/-- Why settings cannot be loaded. -/
inductive SettingsFault where
  /-- The settings file cannot be read as a text. -/
  | unreadable (path : String) (cause : OsError)
  /-- The settings file is not TOML. -/
  | malformed (path : String)
  /-- A setting has a value of a wrong type. -/
  | wrongType (found : Tree) (expected : Expectation) (keys : List String)

/-- A source, for a message. -/
def SettingsSource.description : SettingsSource → String
  | file path => path ++ " TOML file"
  | environment => "\x60" ++ Variable.namePrefix ++ "\x60 environment variable(s)"

/-- The keys that lead to a setting, as its source writes them. -/
def SettingsSource.keyText (keys : List String) : SettingsSource → String
  | file _ => ".".intercalate ("default" :: keys)
  | environment => (".".intercalate keys).map Char.toUpper

namespace SettingsFault

/-- What is said about a fault. -/
def message : SettingsFault → String
  | unreadable path cause =>
    cause.message ++ "\n in " ++ (SettingsSource.file path).description
  | malformed path => "TOML parse error\n in " ++ (SettingsSource.file path).description
  | wrongType found expected keys =>
    "invalid type: found " ++ found.description ++ ", expected " ++ expected.description ++
      " for key " ++ "\"" ++ found.source.keyText keys ++ "\" in " ++ found.source.description

end SettingsFault

/-! ## Types -/

namespace Tree

/-- A truth value. -/
def toBool (keys : List String) : Tree → Except SettingsFault Bool
  | scalar (.bool b) _ => .ok b
  | found => .error (.wrongType found .bool keys)

/-- A text. -/
def toText (expected : Expectation) (keys : List String) : Tree → Except SettingsFault String
  | scalar (.text s) _ => .ok s
  | found => .error (.wrongType found expected keys)

/-- What a value says if it is there, and else the default. -/
def orDefault {α : Type} (read : Tree → Except SettingsFault α) (default : α) :
    Option Tree → Except SettingsFault α
  | some tree => read tree
  | none => .ok default

/-- The variables of the Vim commands: by key, or by place in a list, that of the imports first. -/
def toVimVariables (default : Vim.Variables) : Tree → Except SettingsFault Vim.Variables
  | table entries _ => do
    let aliases ← orDefault (toText .text ["vim", "aliases_var"]) default.aliases
      (find? entries "aliases_var")
    let imports ← orDefault (toText .text ["vim", "imports_var"]) default.imports
      (find? entries "imports_var")
    .ok ⟨imports, aliases⟩
  | list items _ => do
    let imports ← orDefault (toText .text ["vim", "0"]) default.imports items[0]?
    let aliases ← orDefault (toText .text ["vim", "1"]) default.aliases items[1]?
    .ok ⟨imports, aliases⟩
  | found => .error (.wrongType found .vimTable ["vim"])

/-- The settings that the entries of a table say. -/
def toSettings (default : Settings) (entries : List (String × Tree)) :
    Except SettingsFault Settings := do
  let debug ← orDefault (toBool ["debug"]) default.debug (find? entries "debug")
  let importsFile ← orDefault (toText .path ["imports_file"]) default.importsFile
    (find? entries "imports_file")
  let verbose ← orDefault (toBool ["verbose"]) default.verbose (find? entries "verbose")
  let vim ← orDefault (toVimVariables default.vim) default.vim (find? entries "vim")
  .ok ⟨importsFile, verbose, debug, vim⟩

end Tree

/-! ## Layers -/

/-- The text of a file, or why there is none. -/
def FoundFile.text (file : FoundFile) : Except OsError String :=
  file.content >>= fun bytes => (String.fromUTF8? ⟨bytes.toArray⟩).elim (.error .invalidUtf8) .ok

/-- The entries of a settings file. -/
def FoundFile.settingsEntries (file : FoundFile) : Except SettingsFault (List (String × Tree)) :=
  match file.text with
  | .error cause => .error (.unreadable file.path cause)
  | .ok text =>
    match Toml.parse? text with
    | none => .error (.malformed file.path)
    | some table => .ok (Tree.ofTomlEntries (.file file.path) table)

namespace Settings

/-- The settings, with a leading `~` in the path of the imports file standing for the home directory
    of an environment. -/
def expandHome (env : Environment) (s : Settings) : Settings :=
  { s with importsFile := env.expandHome s.importsFile }

/-- Loads the settings of an environment and a settings file, if there is one. -/
def load (env : Environment) (file? : Option FoundFile) : Except SettingsFault Settings := do
  let fileEntries ← file?.elim (.ok []) FoundFile.settingsEntries
  let entries := Tree.overlayEntries env.settingsEntries fileEntries
  let settings ← Tree.toSettings (default env.home?) entries
  .ok (settings.expandHome env)

end Settings

end AutoImport
