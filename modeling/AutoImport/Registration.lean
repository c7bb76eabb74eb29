import AutoImport.Binding

/-!
# Registrations

What reading an imports file tells whoever keeps the names: for each binding that its name comes
from its module, and, right after it, that its local name stands for the name when the two differ.
The order is that of the file. A keeper of names is a function of the list of its registrations, and
a later one for the same name replaces an earlier one.
-/

namespace AutoImport

/-- One thing to remember about a name. -/
inductive Registration where
  /-- `name` is imported from `module`, which is empty for a plain import. -/
  | name (name module : String)
  /-- `localName` is another local name of `name`. -/
  | rename (localName name : String)
  deriving DecidableEq, Repr

/-- What a binding has remembered. -/
def Binding.registrations (b : Binding) : List Registration :=
  .name b.name b.module :: if b.renames then [.rename b.localName b.name] else []

end AutoImport
