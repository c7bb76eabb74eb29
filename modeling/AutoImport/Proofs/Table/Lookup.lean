import AutoImport.Table
import Mathlib.Data.List.Basic

/-!
# What a table answers

A table is a function of what it was told. Of the registrations for one key the last counts, and
those for other keys do not matter (`Table.moduleOf?_registerAll`, `Table.nameOf?_registerAll`).

Bindings are told to a table in two parts, which are kept under different keys. So what a table
answers from bindings is put together from two of them: the last with the local name asked for, and
the last of any with the name behind it (`Table.resolve?_ofBindings`).
-/

namespace AutoImport

/-! ## Registrations for a key -/

namespace Registration

/-- The module that a registration gives to a name. -/
def module? (s : String) : Registration → Option String
  | name n m => if s = n then some m else none
  | rename _ _ => none

/-- The name that a registration puts behind a local name. -/
def target? (s : String) : Registration → Option String
  | name _ _ => none
  | rename a n => if s = a then some n else none

end Registration

/-- The last of several values, or else the value before, taking the first of them as the value
    before the others. -/
theorem getLast?_filterMap_cons_or {α β : Type} (f : α → Option β) (a : α) (as : List α)
    (before : Option β) :
    ((a :: as).filterMap f).getLast?.or before =
      (as.filterMap f).getLast?.or ((f a).or before) := by
  cases h : f a with
  | none => rw [List.filterMap_cons_none h, Option.none_or]
  | some b =>
    rw [List.filterMap_cons_some h, List.getLast?_cons]
    cases (as.filterMap f).getLast? <;> rfl

namespace Table

variable (t : Table) (s : String)

/-- A table that is told of some registrations and then of others is told of both. -/
theorem registerAll_append (rs rs' : List Registration) :
    t.registerAll (rs ++ rs') = (t.registerAll rs).registerAll rs' :=
  List.foldl_append

theorem moduleOf?_register (r : Registration) :
    (t.register r).moduleOf? s = (r.module? s).or (t.moduleOf? s) := by
  cases r with
  | name n m =>
    rw [register, moduleOf?, Dictionary.get?_insert, Registration.module?]
    split <;> rfl
  | rename a n => rfl

theorem nameOf?_register (r : Registration) :
    (t.register r).nameOf? s = (r.target? s).or (t.nameOf? s) := by
  cases r with
  | name n m => rfl
  | rename a n =>
    rw [register, nameOf?, Dictionary.get?_insert, Registration.target?]
    split <;> rfl

/-- If one registration replaces what is looked up by its own value, or keeps it if it has none,
    then after several what is looked up is the last of their values, or else what it was before. -/
theorem lookup_registerAll (lookup : Table → Option String)
    (value? : Registration → Option String)
    (hstep : ∀ t r, lookup (register t r) = (value? r).or (lookup t)) (rs : List Registration) :
    lookup (t.registerAll rs) = (rs.filterMap value?).getLast?.or (lookup t) := by
  induction rs generalizing t with
  | nil => rfl
  | cons r rs ih =>
    rw [getLast?_filterMap_cons_or, ← hstep]
    exact ih (t.register r)

/-- The module of a name is the one it was given last, or else the one it had. -/
theorem moduleOf?_registerAll (rs : List Registration) :
    (t.registerAll rs).moduleOf? s =
      (rs.filterMap (·.module? s)).getLast?.or (t.moduleOf? s) :=
  lookup_registerAll t (·.moduleOf? s) (·.module? s) (fun t => moduleOf?_register t s) rs

/-- The name behind a local name is the one that was put there last, or else the one that was
    there. -/
theorem nameOf?_registerAll (rs : List Registration) :
    (t.registerAll rs).nameOf? s =
      (rs.filterMap (·.target? s)).getLast?.or (t.nameOf? s) :=
  lookup_registerAll t (·.nameOf? s) (·.target? s) (fun t => nameOf?_register t s) rs

end Table

/-! ## Bindings for a key -/

namespace Binding

/-- Whether a binding is one of a name. -/
def isNamed (s : String) (b : Binding) : Bool :=
  b.name == s

/-- Whether a binding has a local name, which is not its name. -/
def isAliased (s : String) (b : Binding) : Bool :=
  b.renames && b.localName == s

variable {s : String} {b : Binding}

theorem isNamed_iff : b.isNamed s ↔ b.name = s :=
  beq_iff_eq

theorem isAliased_iff : b.isAliased s ↔ b.renames ∧ b.localName = s := by
  rw [isAliased, Bool.and_eq_true, beq_iff_eq]

/-- What a binding registers for a name. -/
theorem module?_registrations (s : String) (b : Binding) :
    b.registrations.filterMap (·.module? s) = if b.isNamed s then [b.module] else [] := by
  have hname : s = b.name ↔ b.isNamed s := by rw [isNamed_iff, eq_comm]
  -- Whether the binding renames makes no difference, as it is registered under its name first.
  cases hr : b.renames <;> by_cases h : b.isNamed s <;>
    simp [registrations, hr, Registration.module?, hname, h]

/-- What a binding registers for a local name. -/
theorem target?_registrations (s : String) (b : Binding) :
    b.registrations.filterMap (·.target? s) = if b.isAliased s then [b.name] else [] := by
  cases hr : b.renames with
  | false => simp [registrations, hr, Registration.target?, isAliased]
  | true =>
    by_cases h : s = b.localName
    · simp [registrations, hr, Registration.target?, isAliased, h]
    · simp [registrations, hr, Registration.target?, isAliased, h, Ne.symm h]

end Binding

/-- The last binding of a kind. -/
def lastOf? (p : Binding → Bool) (bs : List Binding) : Option Binding :=
  (bs.filter p).getLast?

/-- The last binding of a kind is one of the bindings, and of that kind. -/
theorem mem_of_lastOf? {p : Binding → Bool} {bs : List Binding} {b : Binding}
    (h : lastOf? p bs = some b) : b ∈ bs ∧ p b :=
  List.mem_filter.1 (List.mem_of_getLast? h)

/-- If there is a binding of a kind, there is a last one. -/
theorem exists_lastOf? {p : Binding → Bool} {bs : List Binding} {b : Binding} (hb : b ∈ bs)
    (hp : p b) : ∃ b', lastOf? p bs = some b' := by
  refine Option.ne_none_iff_exists'.1 fun hnone => ?_
  rw [lastOf?, List.getLast?_eq_none_iff, List.filter_eq_nil_iff] at hnone
  exact hnone b hb hp

/-- If all bindings of a kind agree on a value, and there is one if there is a value, then the last
    one has it. -/
theorem map_lastOf?_eq {α : Type} {p : Binding → Bool} {value : Binding → α} {bs : List Binding}
    {v? : Option α} (hagree : ∀ b ∈ bs, p b → v? = some (value b))
    (hexists : ∀ v, v? = some v → ∃ b ∈ bs, p b) : (lastOf? p bs).map value = v? := by
  cases hlast : lastOf? p bs with
  | some b =>
    obtain ⟨hmem, hp⟩ := mem_of_lastOf? hlast
    exact (hagree b hmem hp).symm
  | none =>
    cases hv : v? with
    | none => rfl
    | some v =>
      obtain ⟨b, hb, hp⟩ := hexists v hv
      obtain ⟨b', hb'⟩ := exists_lastOf? hb hp
      cases hlast.symm.trans hb'

/-- What bindings register for a key, if each of them registers one value for it or none. -/
theorem filterMap_flatMap_registrations {f : Registration → Option String} {p : Binding → Bool}
    {value : Binding → String}
    (h : ∀ b : Binding, b.registrations.filterMap f = if p b then [value b] else [])
    (bs : List Binding) :
    (bs.flatMap (·.registrations)).filterMap f = (bs.filter p).map value := by
  induction bs with
  | nil => rfl
  | cons b bs ih =>
    rw [List.flatMap_cons, List.filterMap_append, ih, h]
    by_cases hp : p b
    · rw [if_pos hp, List.filter_cons_of_pos hp]
      rfl
    · rw [if_neg hp, List.filter_cons_of_neg hp]
      rfl

namespace Table

/-- The table that was told of bindings, one after the other. -/
def ofBindings (bs : List Binding) : Table :=
  empty.registerAll (bs.flatMap (·.registrations))

variable (bs : List Binding) (s : String)

/-- The module of a name is that of the last binding with the name. -/
theorem moduleOf?_ofBindings :
    (ofBindings bs).moduleOf? s = (lastOf? (·.isNamed s) bs).map (·.module) := by
  rw [ofBindings, moduleOf?_registerAll,
    filterMap_flatMap_registrations (Binding.module?_registrations s), List.getLast?_map]
  exact Option.or_none

/-- The name behind a local name is that of the last binding that gives the local name to another
    name. -/
theorem nameOf?_ofBindings :
    (ofBindings bs).nameOf? s = (lastOf? (·.isAliased s) bs).map (·.name) := by
  rw [ofBindings, nameOf?_registerAll,
    filterMap_flatMap_registrations (Binding.target?_registrations s), List.getLast?_map]
  exact Option.or_none

/-- A local name is answered with the name behind it, from the module of the last binding of that
    name, and anything else with itself, from the module of the last binding of it. -/
theorem resolve?_ofBindings :
    (∀ r, lastOf? (·.isAliased s) bs = some r →
      ∃ q, lastOf? (·.isNamed r.name) bs = some q ∧
        (ofBindings bs).resolve? s = some ⟨q.module, r.name, s⟩) ∧
    (lastOf? (·.isAliased s) bs = none →
      (ofBindings bs).resolve? s = (lastOf? (·.isNamed s) bs).map fun q => .plain q.module s) := by
  constructor
  · intro r hr
    -- The binding is one of its own name, so there is a last one of that name.
    obtain ⟨hmem, -⟩ := mem_of_lastOf? hr
    obtain ⟨q, hq⟩ := exists_lastOf? (p := (·.isNamed r.name)) hmem (by simp [Binding.isNamed])
    refine ⟨q, hq, ?_⟩
    simp [resolve?, resolveAlias?, nameOf?_ofBindings, moduleOf?_ofBindings, hr, hq]
  · intro hnone
    simp only [resolve?, resolveAlias?, nameOf?_ofBindings, moduleOf?_ofBindings, hnone]
    exact Option.map_map ..

end Table

end AutoImport
