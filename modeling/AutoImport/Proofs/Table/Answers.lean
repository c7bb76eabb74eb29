import AutoImport.Proofs.Table.Listing

/-!
# Tables that were told anything

A table can be told of local names that stand for nothing, or for themselves, or for a name that
hides behind another one of the same spelling. It may even be told of an empty name. The answer for
a symbol is nevertheless what is listed under it: what is listed last, if it is listed more than
once, and nothing, if it is not listed (`Table.resolve?_eq_lastOf?_bindings`). Only an empty symbol
may be answered without being listed, as an empty local name is none.

A symbol is listed in two ways, which are looked at one by one:

* as a local name with something behind it, if the answer renames (`Table.lastOf?_renamings`);
* as a name under itself, if it has a module (`Table.lastOf?_ownBindings`).
-/

namespace AutoImport

/-- What renames nothing is the binding of a name under itself, unless it has no local name. -/
theorem Binding.eq_plain_of_renames_eq_false {b : Binding} (h : b.renames = false)
    (hlocal : b.localName ≠ "") : b = .plain b.module b.name := by
  have hname : b.localName = b.name := by simpa [Binding.renames, hlocal] using h
  exact congrArg (Binding.mk b.module b.name) hname

namespace Table

variable {t : Table} {s : String} {b : Binding}

/-- An answer has a name with a module, and the symbol asked for is this name, or a local name that
    it is behind. -/
theorem resolve?_eq_some (h : t.resolve? s = some b) : b.localName = s ∧
    t.moduleOf? b.name = some b.module ∧ (b.name = s ∨ t.nameOf? s = some b.name) := by
  rcases Option.or_eq_some_iff.1 h with halias | ⟨-, hown⟩
  · obtain ⟨name, hname, halias⟩ := Option.bind_eq_some_iff.1 halias
    obtain ⟨module, hmodule, heq⟩ := Option.bind_eq_some_iff.1 halias
    cases heq
    exact ⟨rfl, hmodule, .inr hname⟩
  · obtain ⟨module, hmodule, rfl⟩ := Option.map_eq_some_iff.1 hown
    exact ⟨rfl, hmodule, .inl rfl⟩

/-- Nothing is answered for what has no module. -/
theorem moduleOf?_eq_none (h : t.resolve? s = none) : t.moduleOf? s = none :=
  Option.map_eq_none_iff.1 (Option.or_eq_none_iff.1 h).2

/-- The last that is listed under a symbol as a name. -/
theorem lastOf?_ownBindings (t : Table) (s : String) :
    lastOf? (·.localName == s) t.ownBindings = (t.moduleOf? s).map (.plain · s) := by
  have hmap : (lastOf? (·.localName == s) t.ownBindings).map id =
      (t.moduleOf? s).map (.plain · s) := by
    refine map_lastOf?_eq (fun b hb hs => ?_) fun b hb => ?_
    · obtain ⟨⟨name, module⟩, hentry, rfl⟩ := List.mem_map.1 hb
      obtain rfl : name = s := beq_iff_eq.1 hs
      rw [show t.moduleOf? name = some module from Dictionary.mem_entries_iff.1 hentry]
      rfl
    · obtain ⟨module, hmodule, rfl⟩ := Option.map_eq_some_iff.1 hb
      exact ⟨_, List.mem_map.2 ⟨_, Dictionary.mem_entries_iff.2 hmodule, rfl⟩, beq_self_eq_true s⟩
  rwa [Option.map_id_fun, id] at hmap

/-- The last that is listed under a symbol as a local name. -/
theorem lastOf?_renamings (t : Table) (s : String) :
    lastOf? (·.localName == s) t.renamings = (t.resolve? s).filter (·.renames) := by
  have hmap : (lastOf? (·.localName == s) t.renamings).map id =
      (t.resolve? s).filter (·.renames) := by
    refine map_lastOf?_eq (fun b hb hs => ?_) fun b hb => ?_
    · obtain ⟨hanswer, hr⟩ := List.mem_filter.1 hb
      obtain ⟨key, -, hkey⟩ := List.mem_filterMap.1 hanswer
      obtain rfl : key = s := (resolve?_eq_some hkey).1.symm.trans (beq_iff_eq.1 hs)
      rw [hkey, Option.filter_some, if_pos hr]
      rfl
    · obtain ⟨hanswer, hr⟩ := Option.filter_eq_some_iff.1 hb
      obtain ⟨hlocal, -, hname⟩ := resolve?_eq_some hanswer
      -- What renames is not the answer for its own name.
      have hne : b.name ≠ s := fun heq => by simp [Binding.renames, hlocal, heq] at hr
      have hkey : s ∈ t.names.keys := Dictionary.mem_keys_iff.2 ⟨_, hname.resolve_left hne⟩
      exact ⟨b, List.mem_filter.2 ⟨List.mem_filterMap.2 ⟨s, hkey, hanswer⟩, hr⟩,
        beq_iff_eq.2 hlocal⟩
  rwa [Option.map_id_fun, id] at hmap

/-- Whatever a table was told, and in whatever order, its answer for a symbol is the last that it
    lists under the symbol, and there is none exactly if it lists nothing under it. -/
theorem resolve?_eq_lastOf?_bindings (t : Table) (hs : s ≠ "") :
    t.resolve? s = lastOf? (·.localName == s) t.bindings ∧
    (t.resolve? s = none ↔ ∀ b ∈ t.bindings, b.localName ≠ s) := by
  have hparts : lastOf? (·.localName == s) t.bindings =
      ((t.resolve? s).filter (·.renames)).or ((t.moduleOf? s).map (.plain · s)) := by
    rw [← lastOf?_renamings, ← lastOf?_ownBindings, lastOf?, bindings_eq, List.filter_append,
      List.getLast?_append]
    rfl
  have hlast : t.resolve? s = lastOf? (·.localName == s) t.bindings := by
    rw [hparts]
    cases hanswer : t.resolve? s with
    | none =>
      rw [moduleOf?_eq_none hanswer]
      rfl
    | some b =>
      rw [Option.filter_some]
      cases hr : b.renames with
      | true => rfl
      | false =>
        -- What is answered is listed as a name, as the symbol is not empty.
        obtain ⟨rfl, hmodule, -⟩ := resolve?_eq_some hanswer
        have hplain := Binding.eq_plain_of_renames_eq_false hr hs
        rw [show b.localName = b.name from congrArg Binding.localName hplain, hmodule]
        exact congrArg some hplain
  refine ⟨hlast, ?_⟩
  rw [hlast, lastOf?, List.getLast?_eq_none_iff, List.filter_eq_nil_iff]
  simp only [beq_iff_eq, ne_eq]

/-- A local name that is told before the name behind it, and is a name too; one that nothing is
    behind, but that is a name; one that stands for itself; and one that stands for nothing. -/
def looseNames : List Registration :=
  [.rename "np" "numpy", .name "numpy" "", .name "np" "labs", .rename "os" "posix", .name "os" "",
    .rename "path" "path", .name "path" "os", .rename "gone" "nothing"]

/-- The first of them is listed twice, and answered as a local name. The next two are listed and
    answered as the names that they are, and the last one is neither listed nor answered. -/
theorem resolve?_eq_lastOf?_bindings_looseNames :
    let t := empty.registerAll looseNames
    t.resolve? "np" = some ⟨"", "numpy", "np"⟩ ∧ t.resolve? "os" = some (.plain "" "os") ∧
      t.resolve? "path" = some (.plain "os" "path") ∧ t.resolve? "gone" = none := by
  intro t
  have hlast (s : String) (hs : s ≠ "") := resolve?_eq_lastOf?_bindings t hs
  refine ⟨(hlast "np" (by decide)).1.trans ?_, (hlast "os" (by decide)).1.trans ?_,
    (hlast "path" (by decide)).1.trans ?_, (hlast "gone" (by decide)).2.2 ?_⟩
  all_goals decide +kernel

end Table

end AutoImport
