import AutoImport.Proofs.Table.Invariant

/-!
# Tables as they are listed

A table is listed in two parts: the bindings of its names, under themselves, and those of its local
names, under the names behind them. In general a local name may be left out, as nothing need be
behind it. In a table that was filled by loads none is: there is one binding for each key of the two
dictionaries, and each part is in the order of its keys, byte by byte (`Table.consistent_ofLoads`).

Where a local name is listed in one part only, what is listed under it is what the table answers for
it. Where it is listed in both, the answer is what is listed in the second
(`Table.WellFormed.exists_answersListed`).
-/

namespace AutoImport.Table

variable (t : Table) {b : Binding}

/-! ## The two parts of a listing -/

/-- The bindings of the names of a table. -/
def ownBindings : List Binding :=
  t.modules.entries.map fun (name, module) => .plain module name

/-- The bindings of the local names of a table. -/
def renamings : List Binding :=
  (t.names.keys.filterMap t.resolve?).filter (·.renames)

theorem bindings_eq : t.bindings = t.ownBindings ++ t.renamings :=
  rfl

theorem map_name_ownBindings : t.ownBindings.map (·.name) = t.modules.keys :=
  List.map_map

theorem eq_plain_of_mem_ownBindings (hb : b ∈ t.ownBindings) : b = .plain b.module b.name := by
  obtain ⟨⟨name, module⟩, -, rfl⟩ := List.mem_map.1 hb
  rfl

theorem renames_of_mem_renamings (hb : b ∈ t.renamings) : b.renames :=
  (List.mem_filter.1 hb).2

/-- No binding is in both parts, as those of the first rename nothing. -/
theorem disjoint_ownBindings_renamings : t.ownBindings.Disjoint t.renamings := by
  intro b hown hrenaming
  have hr := t.renames_of_mem_renamings hrenaming
  rw [t.eq_plain_of_mem_ownBindings hown, Binding.renames_plain] at hr
  cases hr

/-- Bindings that have the keys of a dictionary have them in the order of their bytes. -/
theorem pairwise_toUTF8_lt {α : Type} {d : Dictionary α} {key : Binding → String}
    {bs : List Binding} (h : bs.map key = d.keys) :
    bs.Pairwise fun b b' => (key b).toUTF8.data.toList < (key b').toUTF8.data.toList := by
  have hkeys : (bs.map key).Pairwise (· < ·) := h ▸ d.pairwise_keys
  exact (List.pairwise_map.1 hkeys).imp Text.toList_data_toUTF8_lt

namespace WellFormed

variable {t : Table}

/-- Every local name has a binding, in the order of the local names. -/
theorem map_localName_renamings (h : t.WellFormed) :
    t.renamings.map (·.localName) = t.names.keys := by
  have hkeys : ∀ key ∈ t.names.keys,
      ∃ b, t.resolve? key = some b ∧ b.renames ∧ b.localName = key := by
    intro key hkey
    obtain ⟨name, hname⟩ := Dictionary.mem_keys_iff.1 hkey
    obtain ⟨hne, module, hmodule, hb⟩ := h.localName key name hname
    exact ⟨_, resolve?_of_nameOf? hname hmodule, hb.renames_iff.2 hne, rfl⟩
  rw [renamings]
  generalize t.names.keys = keys at hkeys
  induction keys with
  | nil => rfl
  | cons key keys ih =>
    obtain ⟨⟨b, hb, hr, hlocal⟩, hkeys⟩ := List.forall_mem_cons.1 hkeys
    rw [List.filterMap_cons_some hb, List.filter_cons_of_pos hr, List.map_cons, hlocal, ih hkeys]

theorem length_bindings (h : t.WellFormed) : t.bindings.length = t.size + t.names.size := by
  have hown := congrArg List.length t.map_name_ownBindings
  have hrenamings := congrArg List.length h.map_localName_renamings
  rw [List.length_map, Dictionary.keys, List.length_map] at hown hrenamings
  rw [bindings_eq, List.length_append, hown, hrenamings]
  rfl

theorem nodup_bindings (h : t.WellFormed) : t.bindings.Nodup := by
  have hown : t.ownBindings.Nodup :=
    .of_map (·.name) (t.map_name_ownBindings ▸ t.modules.nodup_keys)
  have hrenamings : t.renamings.Nodup :=
    .of_map (·.localName) (h.map_localName_renamings ▸ t.names.nodup_keys)
  exact hown.append hrenamings t.disjoint_ownBindings_renamings

/-- Without a name there is no local name, as each of them has a name behind it. -/
theorem names_size_eq_zero (h : t.WellFormed) (hsize : t.size = 0) : t.names.size = 0 := by
  by_contra hne
  obtain ⟨⟨localName, name⟩, hentry⟩ := List.exists_mem_of_length_pos (Nat.pos_of_ne_zero hne)
  obtain ⟨-, module, hmodule, -⟩ := h.localName localName name (Dictionary.mem_entries_iff.1 hentry)
  have hmem : (name, module) ∈ t.modules.entries := Dictionary.mem_entries_iff.2 hmodule
  rw [List.length_eq_zero_iff.1 hsize] at hmem
  cases hmem

theorem isEmpty_iff (h : t.WellFormed) : t.isEmpty ↔ t.size = 0 := by
  have hiff : t.isEmpty ↔ t.size = 0 ∧ t.names.size = 0 := by
    simp [isEmpty, size, Dictionary.size]
  rw [hiff, and_iff_left_of_imp h.names_size_eq_zero]

theorem bindings_eq_nil_iff (h : t.WellFormed) : t.bindings = [] ↔ t.size = 0 := by
  rw [← List.length_eq_zero_iff, h.length_bindings, Nat.add_eq_zero_iff,
    and_iff_left_of_imp h.names_size_eq_zero]

end WellFormed

/-! ## Answers and what is listed -/

/-- For the local name of a binding that a table lists, the table answers with a binding that it
    lists under the same local name. -/
structure AnswersListed (t : Table) (b answer : Binding) : Prop where
  resolve? : t.resolve? b.localName = some answer
  mem_bindings : answer ∈ t.bindings
  localName : answer.localName = b.localName
  /-- The answer is the binding itself, unless that is one of a name that is a local name too. -/
  eq_iff : answer = b ↔ b.renames ∨ t.nameOf? b.localName = none

variable {t} in
theorem WellFormed.exists_answersListed (h : t.WellFormed) (hb : b ∈ t.bindings) :
    ∃ answer, t.AnswersListed b answer := by
  have hgrammatical := h.isGrammatical_of_mem_bindings hb
  obtain ⟨hmodule, hlocal⟩ := h.mem_bindings_iff.1 hb
  cases hname : t.nameOf? b.localName with
  | none =>
    -- The local name is a name, and nothing else.
    have hplain : b.localName = b.name := hlocal.resolve_right (by simp [hname])
    refine ⟨b, ?_, hb, rfl, by simp [hname]⟩
    rw [Table.resolve?, resolveAlias?, hname, hplain, hmodule]
    exact congrArg some (congrArg (Binding.mk b.module b.name) hplain.symm)
  | some name =>
    obtain ⟨hne, module, hmodule', hanswer⟩ := h.localName b.localName name hname
    refine ⟨⟨module, name, b.localName⟩, resolve?_of_nameOf? hname hmodule',
      h.mem_bindings_iff.2 ⟨hmodule', .inr hname⟩, rfl, ?_⟩
    rw [hname, or_iff_left (Option.some_ne_none name), hgrammatical.renames_iff]
    constructor
    · intro heq
      rwa [← congrArg Binding.name heq]
    · intro hr
      -- The name behind the local name is that of the binding.
      have hname' := hlocal.resolve_left hr
      obtain rfl := Option.some.inj (hname.symm.trans hname')
      obtain rfl := Option.some.inj (hmodule'.symm.trans hmodule)
      rfl

/-! ## What holds after loads -/

/-- What holds of a table that was filled by loads, and not of every table. -/
structure Consistent (t : Table) : Prop where
  /-- A name is an identifier, and its module is a dotted module if it is not empty. -/
  name : ∀ name module, t.moduleOf? name = some module →
    isIdentifier name.toList ∧ (module = "" ∨ isModule module.toList)
  /-- A local name is an identifier, and not the name behind it. That has a module, and with both of
      them the local name is answered. -/
  localName : ∀ localName name, t.nameOf? localName = some name →
    isIdentifier localName.toList ∧ localName ≠ name ∧
      ∃ module, t.moduleOf? name = some module ∧
        t.resolve? localName = some ⟨module, name, localName⟩
  /-- A table without names has nothing at all. -/
  isEmpty_iff : t.isEmpty ↔ t.size = 0
  bindings_eq_nil_iff : t.bindings = [] ↔ t.size = 0
  /-- Every key is listed, and nothing is listed twice. -/
  length_bindings : t.bindings.length = t.modules.size + t.names.size
  nodup_bindings : t.bindings.Nodup
  /-- The names under themselves are listed first, in the order of their bytes, and then the local
      names in theirs. -/
  order : ∃ own renamings, t.bindings = own ++ renamings ∧
    (∀ b ∈ own, b = .plain b.module b.name) ∧
    (own.Pairwise fun b b' => b.name.toUTF8.data.toList < b'.name.toUTF8.data.toList) ∧
    (∀ b ∈ renamings, b.renames) ∧
    renamings.Pairwise fun b b' => b.localName.toUTF8.data.toList < b'.localName.toUTF8.data.toList

/-- Whatever is loaded into a new table, and wherever the loads stop, the table is consistent. -/
theorem consistent_ofLoads (loads : List (String × Opened)) : (ofLoads loads).Consistent := by
  have h := wellFormed_ofLoads loads
  refine {
    name := fun name module hmodule => ?_
    localName := fun localName name hname => ?_
    isEmpty_iff := h.isEmpty_iff
    bindings_eq_nil_iff := h.bindings_eq_nil_iff
    length_bindings := h.length_bindings
    nodup_bindings := h.nodup_bindings
    order := ⟨_, _, bindings_eq _, fun _ => eq_plain_of_mem_ownBindings _,
      pairwise_toUTF8_lt (map_name_ownBindings _), fun _ => renames_of_mem_renamings _,
      pairwise_toUTF8_lt h.map_localName_renamings⟩ }
  · obtain ⟨hidentifier, -, hmodule⟩ := h.name name module hmodule
    exact ⟨hidentifier, hmodule⟩
  · obtain ⟨hne, module, hmodule, hb⟩ := h.localName localName name hname
    exact ⟨hb.2.1, hne, module, hmodule, resolve?_of_nameOf? hname hmodule⟩

/-- Three loads: of a file that is not UTF-8 from its second line on, of something that cannot be
    opened, and of a file that gives the name in the first another module. -/
def stoppedLoads : List (String × Opened) :=
  [("imports", .content ("import numpy as np\n".toUTF8.data.toList ++ [255])),
    ("missing", .refused .noSuchFile),
    ("more", .content "from numerics import numpy\n".toUTF8.data.toList)]

/-- After these loads a name and a local name are listed, and the local name is answered with the
    module that the name has got last. -/
theorem consistent_ofLoads_stoppedLoads :
    (ofLoads stoppedLoads).bindings.length = 2 ∧
    ∃ module, (ofLoads stoppedLoads).moduleOf? "numpy" = some module ∧ module = "numerics" ∧
      (ofLoads stoppedLoads).resolve? "np" = some ⟨module, "numpy", "np"⟩ := by
  have h := consistent_ofLoads stoppedLoads
  have hname : (ofLoads stoppedLoads).nameOf? "np" = some "numpy" := by decide +kernel
  have hlast : (ofLoads stoppedLoads).moduleOf? "numpy" = some "numerics" := by decide +kernel
  obtain ⟨-, -, module, hmodule, hanswer⟩ := h.localName "np" "numpy" hname
  refine ⟨h.length_bindings.trans (by decide +kernel), module, hmodule, ?_, hanswer⟩
  exact Option.some.inj (hmodule.symm.trans hlast)

end AutoImport.Table
