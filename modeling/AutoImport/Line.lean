import AutoImport.Names
import AutoImport.Text.Pattern

/-!
# The line grammar

A line of an imports file is one of two statements, and has to be one from its first character to
its last:

    import-stmt ::= "import" blanks? names
    from-stmt   ::= "from" blanks? module blanks "import" blanks? names
    names       ::= name (blanks? "," blanks? name)*
    name        ::= identifier [blanks "as" blanks identifier]

Identifiers and modules are ASCII, blanks are those of `Text.isBlank`. The blanks after a keyword
are optional, so that `importos` binds `os`; keywords are ordinary identifiers, so that `import as
as as` and `from import import import` are statements too.

The section on derivations states this grammar as a relation, with the bindings that a derivation
stands for. The section on patterns has one pattern for each statement. They say whether a line is a
statement, and which part of it is the module and which the list of names; what the list of names
says is then read by `Names`, which knows of commas and blanks alone.
-/

namespace AutoImport

/-! ## Words of the grammar -/

/-- The characters an identifier starts with. -/
def isIdentifierStart (c : Char) : Bool :=
  c.isAlpha || c == '_'

/-- The characters an identifier goes on with. -/
def isIdentifierRest (c : Char) : Bool :=
  c.isAlphanum || c == '_'

/-- An identifier: nonempty, and not started by a digit. -/
def isIdentifier : List Char → Bool
  | [] => false
  | c :: cs => isIdentifierStart c && cs.all isIdentifierRest

/-- The characters of a dotted module, which may start and end with a dot. -/
def isModuleChar (c : Char) : Bool :=
  isIdentifierRest c || c == '.'

/-- A dotted module: nonempty, and not started by a digit. -/
def isModule : List Char → Bool
  | [] => false
  | c :: cs => (isIdentifierStart c || c == '.') && cs.all isModuleChar

/-- The bindings the grammar can write down. -/
def Binding.IsGrammatical (b : Binding) : Prop :=
  isIdentifier b.name.toList ∧ isIdentifier b.localName.toList ∧
    (b.module = "" ∨ isModule b.module.toList)

/-! ## Derivations -/

/-- A run of blanks, possibly empty. -/
def Blanks (cs : List Char) : Prop :=
  ∀ c ∈ cs, Text.isBlank c

/-- The texts of one bound name, with the binding each stands for. -/
inductive DerivesName (module : String) : List Char → Binding → Prop
  /-- An identifier alone. -/
  | plain {name} : isIdentifier name → DerivesName module name (.plain module (.ofList name))
  /-- An identifier, `as`, and the identifier it is renamed to. -/
  | renamed {name before after localName} :
    isIdentifier name → isIdentifier localName →
    Blanks before → before ≠ [] → Blanks after → after ≠ [] →
    DerivesName module (name ++ before ++ ['a', 's'] ++ after ++ localName)
      ⟨module, .ofList name, .ofList localName⟩

/-- The texts of a list of names, with the bindings they stand for, in order. -/
inductive DerivesNames (module : String) : List Char → List Binding → Prop
  /-- The last name. -/
  | last {text b} : DerivesName module text b → DerivesNames module text [b]
  /-- A name, a comma among blanks, and the names after it. -/
  | more {text b before after rest bs} :
    DerivesName module text b → Blanks before → Blanks after → DerivesNames module rest bs →
    DerivesNames module (text ++ before ++ [','] ++ after ++ rest) (b :: bs)

/-- The texts of a line, with the bindings they stand for, in order. -/
inductive DerivesLine : List Char → List Binding → Prop
  /-- `import names`. -/
  | importStatement {blanks names bs} :
    Blanks blanks → DerivesNames "" names bs →
    DerivesLine ("import".toList ++ blanks ++ names) bs
  /-- `from module import names`. -/
  | fromStatement {before module between after names bs} :
    Blanks before → isModule module → Blanks between → between ≠ [] → Blanks after →
    DerivesNames (.ofList module) names bs →
    DerivesLine
      ("from".toList ++ before ++ module ++ between ++ "import".toList ++ after ++ names) bs

/-! ## Patterns -/

/-- An identifier. -/
def identifierPattern : Text.Pattern :=
  .seq (.one isIdentifierStart) (.run isIdentifierRest)

/-- A dotted module. -/
def modulePattern : Text.Pattern :=
  .seq (.one fun c => isIdentifierStart c || c == '.') (.run isModuleChar)

/-- A run of blanks, possibly empty. -/
def blanksPattern : Text.Pattern :=
  .run Text.isBlank

/-- A run of blanks, not empty. -/
def gapPattern : Text.Pattern :=
  .seq (.one Text.isBlank) (.run Text.isBlank)

/-- An identifier that may be renamed. -/
def namePattern : Text.Pattern :=
  .seq identifierPattern
    (.option (.seq gapPattern (.seq (.literal "as") (.seq gapPattern identifierPattern))))

/-- A comma among blanks, and a name. -/
def furtherNamePattern : Text.Pattern :=
  .seq blanksPattern (.seq (.literal ",") (.seq blanksPattern namePattern))

/-- Names between commas. -/
def namesPattern : Text.Pattern :=
  .seq namePattern (.many furtherNamePattern)

/-- `import names`, of which the names are kept. -/
def importPattern : Text.Pattern :=
  .seq (.literal "import") (.seq blanksPattern (.group namesPattern))

/-- `from module import names`, of which the module and the names are kept. -/
def fromPattern : Text.Pattern :=
  .seq (.literal "from") (.seq blanksPattern (.seq (.group modulePattern) (.seq gapPattern
    (.seq (.literal "import") (.seq blanksPattern (.group namesPattern))))))

/-! ## Reading a line -/

/-- Reads one line, in full: the names it binds, or nothing when it is neither statement. -/
def readLine? (line : String) : Option Names :=
  match importPattern.groups? line.toList with
  | some kept => do
    let names ← kept[0]?
    some (.ofText "" (.ofList names))
  | none => do
    let kept ← fromPattern.groups? line.toList
    let module ← kept[0]?
    let names ← kept[1]?
    some (.ofText (.ofList module) (.ofList names))

end AutoImport
