/-!
# Terminals and colours

What the program knows about the place its output goes to, and what it makes of it: colours are for
terminals, and for users who have not asked for none.
-/

namespace AutoImport

/-- Where standard output goes. -/
structure Terminal where
  /-- Whether it is a terminal at all. -/
  isTerminal : Bool
  /-- Whether the user has asked for no colours. -/
  noColor : Bool
  deriving DecidableEq, Repr

namespace Terminal

/-- The parts of the output that have a colour. -/
inductive Style where
  | success
  | warning
  | path
  deriving DecidableEq, Repr

/-- The escape sequence with these parameters. -/
def escape (parameters : String) : String :=
  "\x1b[" ++ parameters ++ "m"

/-- The escape sequence that a style starts with. -/
def Style.start : Style → String
  | success => escape "38;5;10"
  | warning => escape "38;5;11"
  | path => escape "35"

/-- A text in a style, whatever the terminal. -/
def Style.paint (style : Style) (text : String) : String :=
  style.start ++ text ++ escape "0"

variable (t : Terminal)

/-- Whether to leave colours out. -/
def isPlain : Bool :=
  t.noColor || !t.isTerminal

/-- A text in a style, if there are colours. -/
def apply (style : Style) (text : String) : String :=
  if t.isPlain then text else style.paint text

/-- A text in a style, after an icon in a colour of its own. -/
def withIcon (icon color : String) (style : Style) (text : String) : String :=
  (if t.isPlain then icon else escape color ++ icon ++ escape "39") ++ " " ++ t.apply style text

/-- Good news. -/
def success (text : String) : String :=
  t.withIcon "✓" "32" .success text

/-- Bad news. -/
def warning (text : String) : String :=
  t.withIcon "⚠" "33" .warning text

end Terminal

end AutoImport
