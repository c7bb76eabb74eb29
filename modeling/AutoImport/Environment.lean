import AutoImport.Path

/-!
# The environment

What a program is started with, and the places that it says the user's own files are in.

The home directory is the one that the variable `HOME` names, or else the one that the user database
has. There may be none. Then there is no directory for settings either, unless a variable names one,
and a `~` in front of a path stays where it is.
-/

namespace AutoImport

/-- What a program is started with. -/
structure Environment where
  /-- The variables, each with its value, in the order in which they are listed. -/
  vars : List (String × String)
  /-- The home directory in the entry of the user database for the user, if there is an entry. -/
  userHome? : Option String
  deriving DecidableEq, Repr

namespace Environment

/-- The value of a variable. -/
def get? (env : Environment) (name : String) : Option String :=
  env.vars.lookup name

/-- The user's home directory. An empty path in the variable or in the user database names none. -/
def home? (env : Environment) : Option String :=
  ((env.get? "HOME").filter (· ≠ "")).or (env.userHome?.filter (· ≠ ""))

/-- The directory of the user's settings: the one the user has chosen, if that is an absolute path,
    and else the usual one under the home directory. -/
def settingsDirectory? (env : Environment) : Option String :=
  ((env.get? "XDG_CONFIG_HOME").filter Path.isAbsolute).or
    (env.home?.map fun home => Path.join home ".config")

/-- The path with a leading `~` replaced by the user's home directory, if there is one. -/
def expandHome (env : Environment) (path : String) : String :=
  match env.home? with
  | some home => Path.expandHome home path
  | none => path

end Environment

end AutoImport
