import AutoImport.Dictionary
import AutoImport.Registration

/-!
# The import table

The names of imports files, for looking them up: the module of every name, and the name behind every
alias. A binding is torn apart to be kept, and put together again to be answered: a symbol stands
for the name it is an alias of, if that name has a module, and else for itself, if it has one.

The last registration of a name or an alias counts.
-/

namespace AutoImport

/-- The names and aliases of imports files. -/
structure Table where
  /-- The module of each name, empty for a plain import. -/
  modules : Dictionary String
  /-- The name behind each alias. -/
  names : Dictionary String
  deriving DecidableEq

namespace Table

/-- Nothing registered. -/
def empty : Table :=
  ⟨.empty, .empty⟩

/-- The table after one more registration. -/
def register (t : Table) : Registration → Table
  | .name name module => { t with modules := t.modules.insert name module }
  | .rename localName name => { t with names := t.names.insert localName name }

/-- The table after a list of registrations. -/
def registerAll (t : Table) (rs : List Registration) : Table :=
  rs.foldl register t

/-- The module a name is imported from. -/
def moduleOf? (t : Table) (name : String) : Option String :=
  t.modules.get? name

/-- The name behind an alias. -/
def nameOf? (t : Table) (localName : String) : Option String :=
  t.names.get? localName

/-- How many names can be imported. -/
def size (t : Table) : Nat :=
  t.modules.size

/-- Whether neither a name nor an alias is registered. -/
def isEmpty (t : Table) : Bool :=
  t.modules.entries.isEmpty && t.names.entries.isEmpty

/-- The binding of an alias, if the name behind it has a module. -/
def resolveAlias? (t : Table) (symbol : String) : Option Binding := do
  let name ← t.nameOf? symbol
  let module ← t.moduleOf? name
  some ⟨module, name, symbol⟩

/-- The binding to insert when a symbol is typed. An alias wins over a name of the same spelling. -/
def resolve? (t : Table) (symbol : String) : Option Binding :=
  (t.resolveAlias? symbol).or ((t.moduleOf? symbol).map (.plain · symbol))

/-- Every binding of the table: one for each name, then one for each alias that resolves to a name
    other than itself, each part in the order of what is typed. -/
def bindings (t : Table) : List Binding :=
  t.modules.entries.map (fun (name, module) => .plain module name) ++
    (t.names.keys.filterMap t.resolve?).filter (·.renames)

end Table

end AutoImport
