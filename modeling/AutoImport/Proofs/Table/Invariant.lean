import AutoImport.Proofs.Dictionary
import AutoImport.Proofs.Line.Statement
import AutoImport.Proofs.Table.Loads

/-!
# Tables of the grammar

A table can be told anything, but loads tell it of bindings of the grammar only, of each binding the
name before the local name. So every name and every local name in a table that was filled by loads
is an identifier, and no local name is left without a module for the name behind it
(`Table.WellFormed`).

* Telling such a table of one more binding keeps it so (`Table.WellFormed.registerBinding`), and so
  does any sequence of loads (`Table.wellFormed_ofLoads`).
* The bindings of such a table are one for each name and one for each local name, with the modules
  that are looked up (`Table.WellFormed.mem_bindings_iff`). They say everything about it: a new
  table that is told of them is the same table (`Table.WellFormed.ofBindings_bindings`).
-/

namespace AutoImport.Table

/-! ## The invariant -/

/-- What a table has can be written down in the grammar. -/
structure WellFormed (t : Table) : Prop where
  /-- A name can be imported from its module. -/
  name : ∀ name module, t.moduleOf? name = some module → (Binding.plain module name).IsGrammatical
  /-- A local name is that of another name, which has a module and can be imported from it under the
      local name. -/
  localName : ∀ localName name, t.nameOf? localName = some name → localName ≠ name ∧
    ∃ module, t.moduleOf? name = some module ∧ Binding.IsGrammatical ⟨module, name, localName⟩

section Binding

variable (t : Table) (b : Binding) (s : String)

theorem moduleOf?_registrations :
    (t.registerAll b.registrations).moduleOf? s =
      if b.isNamed s then some b.module else t.moduleOf? s := by
  rw [moduleOf?_registerAll, Binding.module?_registrations]
  split <;> rfl

theorem nameOf?_registrations :
    (t.registerAll b.registrations).nameOf? s =
      if b.isAliased s then some b.name else t.nameOf? s := by
  rw [nameOf?_registerAll, Binding.target?_registrations]
  split <;> rfl

end Binding

theorem wellFormed_empty : empty.WellFormed :=
  ⟨fun _ _ h => (nomatch h), fun _ _ h => (nomatch h)⟩

namespace WellFormed

variable {t : Table} {b : Binding}

/-- A binding of the grammar leaves a table as it should be, whatever it replaces there. -/
theorem registerBinding (h : t.WellFormed) (hb : b.IsGrammatical) :
    (t.registerAll b.registrations).WellFormed := by
  obtain ⟨hname, hlocal, hmodule⟩ := id hb
  constructor
  · intro name module heq
    rw [moduleOf?_registrations] at heq
    split at heq
    · rename_i hnamed
      cases heq
      obtain rfl := Binding.isNamed_iff.1 hnamed
      exact ⟨hname, hname, hmodule⟩
    · exact h.name name module heq
  · intro localName name heq
    rw [nameOf?_registrations] at heq
    rw [moduleOf?_registrations]
    split at heq
    · -- The binding has brought a module along for its name.
      rename_i haliased
      cases heq
      obtain ⟨hr, rfl⟩ := Binding.isAliased_iff.1 haliased
      rw [if_pos (Binding.isNamed_iff.2 rfl)]
      exact ⟨hb.renames_iff.1 hr, b.module, rfl, hb⟩
    · obtain ⟨hne, module, hmoduleOf, hold⟩ := h.localName localName name heq
      refine ⟨hne, ?_⟩
      -- The name behind a local name may have got another module, but it has not lost its own.
      split
      · exact ⟨b.module, rfl, hold.1, hold.2.1, hmodule⟩
      · exact ⟨module, hmoduleOf, hold⟩

theorem registerBindings (h : t.WellFormed) {bs : List Binding} (hbs : ∀ b ∈ bs, b.IsGrammatical) :
    (t.registerAll (bs.flatMap (·.registrations))).WellFormed := by
  induction bs generalizing t with
  | nil => exact h
  | cons b bs ih =>
    obtain ⟨hb, hbs⟩ := List.forall_mem_cons.1 hbs
    rw [List.flatMap_cons, registerAll_append]
    exact ih (h.registerBinding hb) hbs

end WellFormed

/-- A table of loads can be written down in the grammar. -/
theorem wellFormed_ofLoads (loads : List (String × Opened)) : (ofLoads loads).WellFormed := by
  rw [ofLoads_eq]
  exact wellFormed_empty.registerBindings fun _ => isGrammatical_of_mem_declared

/-! ## Listing a table -/

/-- A local name is answered with the name behind it, if that has a module. -/
theorem resolve?_of_nameOf? {t : Table} {localName name module : String}
    (hname : t.nameOf? localName = some name) (hmodule : t.moduleOf? name = some module) :
    t.resolve? localName = some ⟨module, name, localName⟩ := by
  simp [resolve?, resolveAlias?, hname, hmodule]

/-- Tables in which the same is looked up are the same. -/
theorem ext_lookup {t t' : Table} (hmodule : ∀ s, t.moduleOf? s = t'.moduleOf? s)
    (hname : ∀ s, t.nameOf? s = t'.nameOf? s) : t = t' := by
  cases t
  cases t'
  rw [mk.injEq]
  exact ⟨Dictionary.ext_get? hmodule, Dictionary.ext_get? hname⟩

namespace WellFormed

variable {t : Table} {b : Binding}

theorem isGrammatical_of_lookup (h : t.WellFormed) (hmodule : t.moduleOf? b.name = some b.module)
    (hlocal : b.localName = b.name ∨ t.nameOf? b.localName = some b.name) : b.IsGrammatical := by
  rcases hlocal with hlocal | hlocal
  · obtain ⟨hname, -, hgrammatical⟩ := h.name b.name b.module hmodule
    exact ⟨hname, hlocal ▸ hname, hgrammatical⟩
  · obtain ⟨-, module, hmodule', hb⟩ := h.localName b.localName b.name hlocal
    obtain rfl := Option.some.inj (hmodule.symm.trans hmodule')
    exact hb

/-- An answer is of the grammar, and has the symbol asked for as its local name. -/
theorem isGrammatical_of_resolve? (h : t.WellFormed) {s : String} (hs : t.resolve? s = some b) :
    b.IsGrammatical ∧ b.localName = s := by
  cases hname : t.nameOf? s with
  | none =>
    rw [resolve?, resolveAlias?, hname] at hs
    obtain ⟨module, hmodule, rfl⟩ := Option.map_eq_some_iff.1 hs
    exact ⟨h.name s module hmodule, rfl⟩
  | some name =>
    obtain ⟨-, module, hmodule, hb⟩ := h.localName s name hname
    obtain rfl := Option.some.inj (hs.symm.trans (resolve?_of_nameOf? hname hmodule))
    exact ⟨hb, rfl⟩

/-- A table has the bindings of its names, each under itself and under every local name. -/
theorem mem_bindings_iff (h : t.WellFormed) : b ∈ t.bindings ↔ t.moduleOf? b.name = some b.module ∧
    (b.localName = b.name ∨ t.nameOf? b.localName = some b.name) := by
  rw [bindings, List.mem_append, List.mem_filter]
  constructor
  · rintro (hb | ⟨hb, hr⟩)
    · obtain ⟨⟨name, module⟩, hentry, rfl⟩ := List.mem_map.1 hb
      exact ⟨Dictionary.mem_entries_iff.1 hentry, .inl rfl⟩
    · obtain ⟨localName, hkey, hresolve⟩ := List.mem_filterMap.1 hb
      obtain ⟨name, hname⟩ := Dictionary.mem_keys_iff.1 hkey
      -- The local name is answered with the name behind it, as that has a module.
      obtain ⟨-, module, hmodule, -⟩ := h.localName localName name hname
      obtain rfl := Option.some.inj (hresolve.symm.trans (resolve?_of_nameOf? hname hmodule))
      exact ⟨hmodule, .inr hname⟩
  · rintro ⟨hmodule, hlocal⟩
    have hb := h.isGrammatical_of_lookup hmodule hlocal
    by_cases hr : b.renames
    · have hname := hlocal.resolve_left (hb.renames_iff.1 hr)
      refine .inr ⟨List.mem_filterMap.2 ⟨b.localName, ?_, ?_⟩, hr⟩
      · exact Dictionary.mem_keys_iff.2 ⟨b.name, hname⟩
      · exact resolve?_of_nameOf? hname hmodule
    · refine .inl (List.mem_map.2 ⟨(b.name, b.module), ?_, (hb.eq_plain hr).symm⟩)
      exact Dictionary.mem_entries_iff.2 hmodule

/-- The bindings of a table can be written down in the grammar. -/
theorem isGrammatical_of_mem_bindings (h : t.WellFormed) (hb : b ∈ t.bindings) :
    b.IsGrammatical :=
  have ⟨hmodule, hlocal⟩ := h.mem_bindings_iff.1 hb
  h.isGrammatical_of_lookup hmodule hlocal

/-- A new table that is told of the bindings of a table is the same as this one. -/
theorem ofBindings_bindings (h : t.WellFormed) : ofBindings t.bindings = t := by
  refine ext_lookup (fun s => ?_) fun s => ?_
  · rw [moduleOf?_ofBindings]
    refine map_lastOf?_eq (fun b hb hnamed => ?_) fun module hmodule => ?_
    · rw [← Binding.isNamed_iff.1 hnamed]
      exact (h.mem_bindings_iff.1 hb).1
    · exact ⟨.plain module s, h.mem_bindings_iff.2 ⟨hmodule, .inl rfl⟩, Binding.isNamed_iff.2 rfl⟩
  · rw [nameOf?_ofBindings]
    refine map_lastOf?_eq (fun b hb haliased => ?_) fun name hname => ?_
    · obtain ⟨hr, rfl⟩ := Binding.isAliased_iff.1 haliased
      have hne := (h.isGrammatical_of_mem_bindings hb).renames_iff.1 hr
      exact (h.mem_bindings_iff.1 hb).2.resolve_left hne
    · obtain ⟨hne, module, hmodule, hb⟩ := h.localName s name hname
      exact ⟨⟨module, name, s⟩, h.mem_bindings_iff.2 ⟨hmodule, .inr hname⟩,
        Binding.isAliased_iff.2 ⟨hb.renames_iff.2 hne, rfl⟩⟩

end WellFormed

end AutoImport.Table
