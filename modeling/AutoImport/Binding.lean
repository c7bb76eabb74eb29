/-!
# Bindings

A `Binding` is one name that an import statement binds: the module it comes from, its name there,
and the local name it gets. `import numpy as np` binds `numpy`, from no module, locally as `np`;
`from os.path import join` binds `join`, from `os.path`, under its own name.

A binding has two written forms. Its *statement* is the import statement that creates it, the line
an editor inserts; its *label* is what a reader is shown. Both leave out what carries no
information: the local name unless the binding renames, and the module unless there is one.
-/

namespace AutoImport

/-- One name bound by an import statement. -/
structure Binding where
  /-- The dotted module the name comes from, empty for a plain `import`. -/
  module : String
  /-- The name as the module knows it. -/
  name : String
  /-- The local name, the name itself unless the statement renames it. -/
  localName : String
  deriving DecidableEq, Repr, Inhabited

namespace Binding

/-- The binding of a name under itself. -/
def plain (module name : String) : Binding :=
  ⟨module, name, name⟩

/-- Whether the local name differs from the name. An empty local name is none. -/
def renames (b : Binding) : Bool :=
  b.localName != "" && b.localName != b.name

/-- Whether the name comes from no module: `import x` rather than `from m import x`. -/
def isTopLevel (b : Binding) : Bool :=
  b.module == ""

/-- ` as alias`, if the binding renames. -/
def asClause (b : Binding) : String :=
  if b.renames then " as " ++ b.localName else ""

/-- The statement that creates the binding. -/
def statement (b : Binding) : String :=
  (if b.isTopLevel then "import " ++ b.name else "from " ++ b.module ++ " import " ++ b.name) ++
    b.asClause

/-- `name [as alias] [from module]`. -/
def label (b : Binding) : String :=
  b.name ++ b.asClause ++ (if b.isTopLevel then "" else " from " ++ b.module)

/-- Under its own name, a binding renames nothing. -/
@[simp] theorem renames_plain (module name : String) : (plain module name).renames = false := by
  simp [plain, renames]

end Binding

end AutoImport
