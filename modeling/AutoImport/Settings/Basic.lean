import AutoImport.Environment
import AutoImport.Toml.Text
import AutoImport.Vim

/-!
# Settings

What a user can choose: the imports file, how much the program says, and the variables of the Vim
commands.

Settings are written as a TOML document. It is also a settings file: reading it gives the settings
back.
-/

namespace AutoImport

/-- What a user can choose. -/
structure Settings where
  /-- The path of the imports file. -/
  importsFile : String
  /-- Whether to show every binding, and a failure to load. -/
  verbose : Bool
  /-- Whether to log details. -/
  debug : Bool
  /-- The variables of the Vim commands. -/
  vim : Vim.Variables
  deriving DecidableEq, Repr

namespace Settings

/-- The path of the imports file unless the user chooses another. -/
def defaultImportsFile : (home? : Option String) → String
  | some home => Path.join home ".vim/python-imports.cfg"
  | none => ".vim/python-imports.cfg"

/-- The settings of a user who has chosen nothing. -/
def default (home? : Option String) : Settings :=
  ⟨defaultImportsFile home?, false, false, .default⟩

/-- The path of the user's settings file, if there is a directory for it. -/
def userPath? (env : Environment) : Option String :=
  env.settingsDirectory?.map fun directory =>
    Path.join (Path.join directory "pyimports") "settings.toml"

/-- A key with a text, on a line. -/
def textLine (key value : String) : String :=
  key ++ " = " ++ Toml.writeText value ++ "\n"

/-- A key with a truth value, on a line. -/
def boolLine (key : String) (value : Bool) : String :=
  key ++ " = " ++ (if value then "true" else "false") ++ "\n"

/-- The settings as a TOML document. -/
def toToml (s : Settings) : String :=
  textLine "imports_file" s.importsFile ++ boolLine "verbose" s.verbose ++
    boolLine "debug" s.debug ++ "\n[vim]\n" ++ textLine "imports_var" s.vim.imports ++
    textLine "aliases_var" s.vim.aliases

end Settings

end AutoImport
