import AutoImport.Proofs.Load.Effect
import AutoImport.Proofs.Table.Lookup

/-!
# Tables of loads

Loads, one after the other, tell a keeper of names what the bindings in the lines they get to see
register (`foldl_tell`). So the table that a program has after some loads is that of these bindings
(`Table.ofLoads_eq`). What it answers for a symbol is put together from two of these bindings, and
is none of them if a later one has the name from another module.
-/

namespace AutoImport

/-! ## Declared bindings -/

/-- The bindings in the lines that a load gets to see, in order. -/
def Opened.bindings (opened : Opened) : List Binding :=
  (readable opened.lines).flatMap fun line => (LineMeaning.ofLine line).bindings

theorem Opened.bindings_content (bytes : List UInt8) : (content bytes).bindings =
    (readable (splitLines bytes)).flatMap fun line => (LineMeaning.ofLine line).bindings :=
  rfl

/-- A load registers the bindings in the lines it gets to see. -/
theorem Load.registrations_ofOpened (path : String) (opened : Opened) :
    (Load.ofOpened path opened).registrations = opened.bindings.flatMap (·.registrations) := by
  rw [Opened.bindings, ← Effect.registrations_join_ofLines path 1]
  -- How the load ends does not matter.
  obtain h | ⟨event, cause, -, h⟩ := ofOpened_ends path opened <;> rw [h] <;> rfl

/-- Bindings in lines can be written down in the grammar. -/
theorem LineMeaning.isGrammatical_of_mem_bindings {line : String} {b : Binding}
    (hb : b ∈ (ofLine line).bindings) : b.IsGrammatical := by
  cases h : ofLine line with
  | idle => rw [h] at hb; cases hb
  | unrecognized text => rw [h] at hb; cases hb
  | statement names =>
    rw [h] at hb
    exact isGrammatical_of_readLine? (readLine?_of_statement h) b hb

/-- The bindings in the lines that several loads get to see, in order. A load is what was opened
    under a path. -/
def declared (loads : List (String × Opened)) : List Binding :=
  loads.flatMap (·.2.bindings)

theorem declared_singleton (path : String) (opened : Opened) :
    declared [(path, opened)] = opened.bindings :=
  List.append_nil _

/-- Declared bindings can be written down in the grammar. -/
theorem isGrammatical_of_mem_declared {loads : List (String × Opened)} {b : Binding}
    (hb : b ∈ declared loads) : b.IsGrammatical := by
  obtain ⟨⟨path, opened⟩, -, hb⟩ := List.mem_flatMap.1 hb
  obtain ⟨line, -, hb⟩ := List.mem_flatMap.1 hb
  exact LineMeaning.isGrammatical_of_mem_bindings hb

/-- A keeper of names that is told the same by two lists of registrations as by the two in one is
    told by loads what the declared bindings register. -/
theorem foldl_tell {κ : Type} (tell : κ → List Registration → κ) (hnil : ∀ k, tell k [] = k)
    (happend : ∀ k rs rs', tell k (rs ++ rs') = tell (tell k rs) rs')
    (loads : List (String × Opened)) (k : κ) :
    loads.foldl (fun k load => tell k (Load.ofOpened load.1 load.2).registrations) k =
      tell k ((declared loads).flatMap (·.registrations)) := by
  induction loads generalizing k with
  | nil => exact (hnil k).symm
  | cons load loads ih =>
    obtain ⟨path, opened⟩ := load
    have hdeclared : declared ((path, opened) :: loads) = opened.bindings ++ declared loads := rfl
    rw [List.foldl_cons, ih, hdeclared, List.flatMap_append, happend,
      Load.registrations_ofOpened path opened]

namespace Table

/-- The table after one more load. -/
def load (t : Table) (path : String) (opened : Opened) : Table :=
  t.registerAll (Load.ofOpened path opened).registrations

/-- The table after loads, one after the other, with nothing before. -/
def ofLoads (loads : List (String × Opened)) : Table :=
  loads.foldl (fun t opened => t.load opened.1 opened.2) empty

variable (loads : List (String × Opened)) (s : String)

/-- Loads add to a table what the declared bindings register. -/
theorem foldl_load (t : Table) :
    loads.foldl (fun t opened => t.load opened.1 opened.2) t =
      t.registerAll ((declared loads).flatMap (·.registrations)) :=
  foldl_tell registerAll (fun _ => rfl) registerAll_append loads t

/-- The table of loads is that of the declared bindings. -/
theorem ofLoads_eq : ofLoads loads = ofBindings (declared loads) :=
  foldl_load loads empty

/-- An entry that renames is the answer for its local name. -/
theorem resolve?_of_mem_bindings {t : Table} {b : Binding} (hb : b ∈ t.bindings)
    (hr : b.renames) : ∃ s, t.resolve? s = some b := by
  rcases List.mem_append.1 hb with hb | hb
  · -- The entries for names rename nothing.
    obtain ⟨⟨name, module⟩, -, rfl⟩ := List.mem_map.1 hb
    rw [Binding.renames_plain] at hr
    cases hr
  · obtain ⟨s, -, hs⟩ := List.mem_filterMap.1 (List.mem_filter.1 hb).1
    exact ⟨s, hs⟩

/-- After any loads, a symbol is answered as follows. If a declared binding gives it to another name
    then the answer has the name of the last such binding, from the module of the last binding
    of that name; so it is that binding exactly if the two modules are one. Otherwise the answer is
    the symbol itself, from the module of the last binding of it, if there is any. Every answer and
    every entry that renames has the name and the local name of one declared binding, and the module
    of the last one of that name. -/
theorem resolve?_ofLoads :
    (∀ s r, lastOf? (·.isAliased s) (declared loads) = some r →
      ∃ q, lastOf? (·.isNamed r.name) (declared loads) = some q ∧
        (ofLoads loads).resolve? s = some ⟨q.module, r.name, s⟩ ∧
        ((ofLoads loads).resolve? s = some r ↔ q.module = r.module)) ∧
    (∀ s, lastOf? (·.isAliased s) (declared loads) = none →
      (ofLoads loads).resolve? s =
        (lastOf? (·.isNamed s) (declared loads)).map fun q => .plain q.module s) ∧
    (∀ b : Binding, b.renames →
      (∃ s, (ofLoads loads).resolve? s = some b) ∨ b ∈ (ofLoads loads).bindings →
      ∃ r ∈ declared loads, r.name = b.name ∧ r.localName = b.localName ∧
        ∃ q, lastOf? (·.isNamed b.name) (declared loads) = some q ∧ q.module = b.module) := by
  rw [ofLoads_eq]
  refine ⟨fun s r hr => ?_, fun s => (resolve?_ofBindings _ s).2, fun b hb hanswer => ?_⟩
  · obtain ⟨q, hq, hanswer⟩ := (resolve?_ofBindings _ s).1 r hr
    obtain ⟨-, haliased⟩ := mem_of_lastOf? hr
    refine ⟨q, hq, hanswer, ?_⟩
    -- The answer has the name and the local name of the binding in any case.
    obtain ⟨module, name, localName⟩ := r
    obtain ⟨-, rfl⟩ := Binding.isAliased_iff.1 haliased
    rw [hanswer]
    simp
  · obtain ⟨s, hs⟩ := hanswer.elim id fun hmem => resolve?_of_mem_bindings hmem hb
    cases hlast : lastOf? (·.isAliased s) (declared loads) with
    | none =>
      rw [(resolve?_ofBindings _ s).2 hlast] at hs
      obtain ⟨q, -, rfl⟩ := Option.map_eq_some_iff.1 hs
      rw [Binding.renames_plain] at hb
      cases hb
    | some r =>
      obtain ⟨q, hq, hanswer⟩ := (resolve?_ofBindings _ s).1 r hlast
      obtain rfl := Option.some.inj (hanswer.symm.trans hs)
      obtain ⟨hmem, haliased⟩ := mem_of_lastOf? hlast
      exact ⟨r, hmem, rfl, (Binding.isAliased_iff.1 haliased).2, q, hq, rfl⟩

/-- A load of two lines, of which the second uses the name of the first again, from another
    module. -/
def reusedName : List (String × Opened) :=
  [("imports", .content "from m1 import a as x\nfrom m2 import a\n".toUTF8.data.toList)]

/-- Of the two lines, `x` is answered with the name of the first and the module of the second, and
    `a` as the second says. -/
theorem resolve?_ofLoads_reusedName :
    (∃ q, lastOf? (·.isNamed "a") (declared reusedName) = some q ∧
      (ofLoads reusedName).resolve? "x" = some ⟨q.module, "a", "x"⟩ ∧
      ((ofLoads reusedName).resolve? "x" = some ⟨"m1", "a", "x"⟩ ↔ q.module = "m1")) ∧
    (ofLoads reusedName).resolve? "a" =
      (lastOf? (·.isNamed "a") (declared reusedName)).map (fun q => .plain q.module "a") ∧
    (∃ r ∈ declared reusedName, r.name = "a" ∧ r.localName = "x" ∧
      ∃ q, lastOf? (·.isNamed "a") (declared reusedName) = some q ∧ q.module = "m2") := by
  obtain ⟨haliased, hplain, hrenames⟩ := resolve?_ofLoads reusedName
  refine ⟨haliased "x" ⟨"m1", "a", "x"⟩ ?_, hplain "a" ?_,
    hrenames ⟨"m2", "a", "x"⟩ ?_ (.inl ⟨"x", ?_⟩)⟩
  all_goals decide +kernel

/-- The answer need not be the last binding of the local name, nor a declared binding at all. -/
theorem resolve?_not_declared :
    lastOf? (·.isAliased "x") (declared reusedName) = some ⟨"m1", "a", "x"⟩ ∧
    (ofLoads reusedName).resolve? "x" ≠ some ⟨"m1", "a", "x"⟩ ∧
    ∃ b, (ofLoads reusedName).resolve? "x" = some b ∧ b.renames ∧ b ∉ declared reusedName :=
  ⟨by decide +kernel, by decide +kernel, ⟨"m2", "a", "x"⟩, by decide +kernel⟩

end Table

end AutoImport
