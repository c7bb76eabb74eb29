import AutoImport.Registration

/-!
# Vim commands

Registrations as commands of the Vim editor: each one an assignment to a key of a dictionary
variable,

    let g:pythonImports['numpy'] = ''
    let g:pythonImportAliases['np'] = 'numpy'

Keys and values are literal strings. In a literal string the only special character is the quote,
which is written twice, so nothing in a name can end the literal.

The other direction is here too: `Literal.scan?` reads a literal by Vim's rule, `Command.parse?`
reads a command, and `Command.run` carries it out.
-/

namespace AutoImport.Vim

/-! ## Literal strings -/

/-- The characters between the quotes of a literal: a quote is written twice. -/
def Literal.body (cs : List Char) : List Char :=
  cs.flatMap fun c => if c = '\'' then ['\'', '\''] else [c]

/-- A text as a literal string. -/
def Literal.write (text : String) : String :=
  "'" ++ .ofList (Literal.body text.toList) ++ "'"

/-- Reads the characters of a literal after its opening quote: two quotes are one, a single quote
    ends the literal. Gives the characters and what follows the literal. -/
def Literal.scanBody? : List Char → Option (List Char × List Char)
  | [] => none
  | '\'' :: '\'' :: cs => (scanBody? cs).map fun (text, rest) => ('\'' :: text, rest)
  | '\'' :: rest => some ([], rest)
  | c :: cs => (scanBody? cs).map fun (text, rest) => (c :: text, rest)

/-- Reads a literal off the front of a text. -/
def Literal.scan? : List Char → Option (List Char × List Char)
  | '\'' :: cs => scanBody? cs
  | _ => none

/-! ## Commands -/

/-- The assignment of a value to a key of a dictionary variable. -/
structure Command where
  target : String
  key : String
  value : String
  deriving DecidableEq, Repr

/-- The text of a command. -/
def Command.write (c : Command) : String :=
  "let " ++ c.target ++ "[" ++ Literal.write c.key ++ "] = " ++ Literal.write c.value

/-- Reads a command. The variable ends at the first bracket. -/
def Command.parse? (line : List Char) : Option Command := do
  let line ← "let ".toList.isPrefixOf? line
  let (target, rest) := line.span (· != '[')
  let (key, rest) ← Literal.scan? (← ['['].isPrefixOf? rest)
  let (value, rest) ← Literal.scan? (← "] = ".toList.isPrefixOf? rest)
  if rest.isEmpty then some ⟨.ofList target, .ofList key, .ofList value⟩ else none

/-- The dictionary variables of an editor. -/
abbrev Editor := String → String → Option String

/-- Carries out a command. -/
def Command.run (editor : Editor) (c : Command) : Editor := fun target key =>
  if target = c.target ∧ key = c.key then some c.value else editor target key

/-! ## Scripts -/

/-- The variables that the commands assign to. -/
structure Variables where
  /-- Gets the module of each name. -/
  imports : String
  /-- Gets the name behind each alias. -/
  aliases : String
  deriving DecidableEq, Repr

/-- The variables used unless the settings say otherwise. -/
def Variables.default : Variables :=
  ⟨"g:pythonImports", "g:pythonImportAliases"⟩

/-- The command for a registration. -/
def Variables.command (vars : Variables) : Registration → Command
  | .name name module => ⟨vars.imports, name, module⟩
  | .rename localName name => ⟨vars.aliases, localName, name⟩

/-- The texts of the commands for a list of registrations, in order. -/
def Variables.commands (vars : Variables) (rs : List Registration) : List String :=
  rs.map fun r => (vars.command r).write

/-- The script of a list of commands: each one on a line of its own. -/
def script (commands : List String) : String :=
  let joined := "\n".intercalate commands
  if joined.isEmpty then "" else joined ++ "\n"

end AutoImport.Vim
