import AutoImport.Output

/-!
# Command lines

A command line is read from left to right, in two parts: options that concern every command may
stand before its name and after it, and after it also the options and the name that it asks for.

    pyimports [-c FILE] [-f FILE] [-v] show [--json]
    pyimports [-c FILE] [-f FILE] [-v] lookup NAME [--json]
    pyimports [-c FILE] [-f FILE] [-v] vim
    pyimports [-c FILE] [-f FILE] [-v] check [--json]
    pyimports [-c FILE] [-f FILE] [-v] config

The value of an option is the rest of its argument, after an equals sign if there is one, or else
the next argument; it is not empty, and an argument that looks like an option is none. Options of
one letter can be written together. In one part an option is given at most once; given in both, the
one after the command counts. After `--` nothing is an option.

Reading stops at the first argument that is wrong, and where help or the version is asked for.
-/

namespace AutoImport

/-- What the program is asked to do. -/
inductive Command where
  /-- List all bindings. -/
  | list (format : Format)
  /-- Find the statement for a name. -/
  | lookup (name : String) (format : Format)
  /-- Write Vim commands. -/
  | vim
  /-- Report the lines outside the grammar. -/
  | check (format : Format)
  /-- Write the settings. -/
  | config
  deriving DecidableEq, Repr

/-- The format that a command answers in. -/
def Command.format : Command → Format
  | list format => format
  | lookup _ format => format
  | check format => format
  | vim => .text
  | config => .text

/-- A command with the options that concern every command. -/
structure Invocation where
  /-- The settings file, unless it is the user's own. -/
  config? : Option String
  /-- The imports file, unless it is the one of the settings. -/
  file? : Option String
  verbose : Bool
  command : Command
  deriving DecidableEq, Repr

/-- Why no command is carried out. -/
inductive Refusal where
  /-- The command line is wrong. -/
  | misuse
  /-- Help is asked for. -/
  | help
  /-- The version is asked for. -/
  | version
  deriving DecidableEq, Repr

namespace Invocation

/-! ## One part -/

/-- The options given in one part. -/
structure Options where
  config? : Option String
  file? : Option String
  verbose : Bool
  json : Bool
  deriving DecidableEq, Repr

/-- No options. -/
def Options.none : Options :=
  ⟨.none, .none, false, false⟩

/-- The names of the commands. -/
inductive CommandName where
  | show
  | lookup
  | vim
  | check
  | config
  deriving DecidableEq, Repr

/-- The command with a name. -/
def CommandName.ofText? (name : String) : Option CommandName :=
  [("show", .show), ("lookup", .lookup), ("vim", .vim), ("check", .check),
    ("config", CommandName.config)].lookup name

/-- The part of a command line that an argument stands in. -/
inductive Part where
  /-- Before the name of the command. -/
  | program
  /-- After it. -/
  | command (name : CommandName)
  deriving DecidableEq, Repr

/-- Whether `--json` is an option. -/
def Part.hasJson : Part → Bool
  | command .show | command .lookup | command .check => true
  | _ => false

/-- How many words a command asks for. -/
def Part.wordCount : Part → Nat
  | command .lookup => 1
  | _ => 0

/-- An option, by its long or its short name. -/
inductive Switch where
  | config
  | file
  | verbose
  | json
  | help
  | version
  deriving DecidableEq, Repr

/-- The option with a long name. -/
def Part.ofLong? (part : Part) (name : List Char) : Option Switch :=
  if name = "config".toList then some .config
  else if name = "file".toList then some .file
  else if name = "verbose".toList then some .verbose
  else if name = "help".toList then some .help
  else if part.hasJson && name = "json".toList then some .json
  else if part = .program && name = "version".toList then some .version
  else none

/-- The option with a letter. -/
def Part.ofLetter? (part : Part) (letter : Char) : Option Switch :=
  if letter = 'c' then some .config
  else if letter = 'f' then some .file
  else if letter = 'v' then some .verbose
  else if letter = 'h' then some .help
  else if part = .program && letter = 'V' then some .version
  else none

/-- Whether an option has a value. -/
def Switch.hasValue : Switch → Bool
  | config | file => true
  | _ => false

/-- The options with one more that has a value. -/
def Options.setValue (options : Options) (switch : Switch) (value : List Char) :
    Except Refusal Options :=
  if value.isEmpty then .error .misuse
  else
    match switch, options.config?, options.file? with
    | .config, .none, _ => .ok { options with config? := some (.ofList value) }
    | .file, _, .none => .ok { options with file? := some (.ofList value) }
    | _, _, _ => .error .misuse

/-- The options with one more that has no value. -/
def Options.setFlag (options : Options) (switch : Switch) : Except Refusal Options :=
  match switch with
  | .help => .error .help
  | .version => .error .version
  | .verbose => if options.verbose then .error .misuse else .ok { options with verbose := true }
  | .json => if options.json then .error .misuse else .ok { options with json := true }
  | _ => .error .misuse

/-- Options that are read, and one that still waits for its value. -/
structure Pending where
  options : Options
  waiting? : Option Switch
  deriving DecidableEq, Repr

/-- Reads the letters of a group of options. What follows the letter of an option with a value is
    that value. -/
def readLetters (part : Part) (options : Options) : List Char → Except Refusal Pending
  | [] => .ok ⟨options, none⟩
  | letter :: rest =>
    match part.ofLetter? letter with
    | none => .error .misuse
    | some switch =>
      if switch.hasValue then
        match rest with
        | [] => .ok ⟨options, some switch⟩
        | '=' :: value => do .ok ⟨← options.setValue switch value, none⟩
        | value => do .ok ⟨← options.setValue switch value, none⟩
      else do readLetters part (← options.setFlag switch) rest

/-- Reads an option with a long name. What follows an equals sign is its value. -/
def readLong (part : Part) (options : Options) (cs : List Char) : Except Refusal Pending :=
  let (name, rest) := cs.span (· != '=')
  match part.ofLong? name with
  | none => .error .misuse
  | some switch =>
    match switch.hasValue, rest with
    | true, [] => .ok ⟨options, some switch⟩
    | true, _ :: value => do .ok ⟨← options.setValue switch value, none⟩
    | false, [] => do .ok ⟨← options.setFlag switch, none⟩
    | false, _ :: _ => .error .misuse

/-- Whether an argument looks like an option. A single hyphen does not. -/
def looksLikeOption : List Char → Bool
  | '-' :: _ :: _ => true
  | _ => false

/-- What is read of a part: its options, its words, and the arguments left for the next part. -/
structure Reading where
  options : Options
  words : List String
  rest : List String
  deriving DecidableEq, Repr

/-- Reads a part. The first word before the name of the command is this name, and ends the part; a
    word that a command has not asked for is wrong, and so is any argument after a `--` but for the
    words of the command. -/
def readPart (part : Part) (p : Pending) (words : List String) :
    List String → Except Refusal Reading
  | [] => if p.waiting?.isSome then .error .misuse else .ok ⟨p.options, words, []⟩
  | arg :: args =>
    match p.waiting?, arg.toList with
    | some switch, cs =>
      if looksLikeOption cs then .error .misuse
      else do readPart part ⟨← p.options.setValue switch cs, none⟩ words args
    | none, ['-', '-'] =>
      if words.length + args.length ≤ part.wordCount then .ok ⟨p.options, words ++ args, []⟩
      else .error .misuse
    | none, '-' :: '-' :: cs => do readPart part (← readLong part p.options cs) words args
    | none, '-' :: c :: cs => do
      readPart part (← readLetters part p.options (c :: cs)) words args
    | none, _ =>
      if part = .program then .ok ⟨p.options, [arg], args⟩
      else if words.length < part.wordCount then readPart part p (words ++ [arg]) args
      else .error .misuse

/-! ## Both parts -/

/-- What a command is asked to do, given its options and its words. -/
def commandOf (format : Format) : CommandName → List String → Except Refusal Command
  | .show, _ => .ok (.list format)
  | .lookup, [name] => .ok (.lookup name format)
  | .lookup, _ => .error .misuse
  | .vim, _ => .ok .vim
  | .check, _ => .ok (.check format)
  | .config, _ => .ok .config

/-- Reads what follows the name of a command. -/
def readCommand (top : Options) (name : CommandName) (args : List String) :
    Except Refusal Invocation := do
  let r ← readPart (.command name) ⟨.none, none⟩ [] args
  let command ← commandOf (if r.options.json then .json else .text) name r.words
  .ok ⟨r.options.config?.or top.config?, r.options.file?.or top.file?,
    top.verbose || r.options.verbose, command⟩

/-- Whether the arguments name something that there is help for: a command, or help itself. -/
def isHelpTopic : List String → Bool
  | [] => true
  | [name] => name == "help" || (CommandName.ofText? name).isSome
  | _ => false

/-- Reads a command line. -/
def read (args : List String) : Except Refusal Invocation := do
  let r ← readPart .program ⟨.none, none⟩ [] args
  match r.words with
  | [word] =>
    match CommandName.ofText? word with
    | some name => readCommand r.options name r.rest
    | none => .error (if word = "help" && isHelpTopic r.rest then .help else .misuse)
  | _ => .error .misuse

end Invocation

end AutoImport
