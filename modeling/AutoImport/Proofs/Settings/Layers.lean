import AutoImport.Settings.Load

/-!
# Layers of settings

A setting is found at the end of a path of keys (`Tree.at?`). When one layer is laid over another,
what is there is decided by what the two have there (`Tree.at?_overlayEntries`), if in neither of
them something else stands in the way: a value without keys where the path goes on
(`Tree.IsOpen`).

* Each variable of an environment is a layer with one path. So what an environment has at the end of
  a path is the value of the variable with this path (`Environment.at?_settingsEntries`), if there
  is no more than one, and if no variable ends on the way, or goes on behind it.
* A settings file is one layer, which has what the TOML document has
  (`Tree.at?_ofTomlEntries`).
-/

namespace AutoImport

namespace Tree

/-! ## Paths -/

/-- The entries of a table, and none where there is no table. -/
def entriesOf : Option Tree → List (String × Tree)
  | some (.table entries _) => entries
  | _ => []

/-- What is at the end of a path, in the entries of a table. -/
def at? : List (String × Tree) → List String → Option Tree
  | _, [] => none
  | entries, [key] => entries.lookup key
  | entries, key :: key' :: keys => at? (entriesOf (entries.lookup key)) (key' :: keys)

/-- A table, or nothing. -/
inductive LeadsOn : Option Tree → Prop
  | nothing : LeadsOn none
  | table (entries : List (String × Tree)) (source : SettingsSource) :
    LeadsOn (some (.table entries source))

/-- Wherever a path goes on there is a table, or nothing. -/
def IsOpen : List (String × Tree) → List String → Prop
  | _, [] => True
  | _, [_] => True
  | entries, key :: key' :: keys =>
    LeadsOn (entries.lookup key) ∧ IsOpen (entriesOf (entries.lookup key)) (key' :: keys)

/-- What is seen if one value is laid over another, and either may be missing. -/
def overlay? : (later? value? : Option Tree) → Option Tree
  | some later, some value => some (overlay later value)
  | later?, value? => later?.or value?

theorem overlay?_none_left (value? : Option Tree) : overlay? none value? = value? := by
  cases value? <;> rfl

theorem overlay?_none_right (later? : Option Tree) : overlay? later? none = later? := by
  cases later? <;> rfl

theorem overlayEntries_nil (entries : List (String × Tree)) :
    overlayEntries [] entries = entries := by
  induction entries with
  | nil => rw [overlayEntries]
  | cons e entries ih => rw [overlayEntries, List.lookup_nil, ih]

theorem lookup_overlayEntries_eq_overlay? (later entries : List (String × Tree)) (key : String) :
    (overlayEntries later entries).lookup key =
      overlay? (later.lookup key) (entries.lookup key) := by
  rw [lookup_overlayEntries]
  cases entries.lookup key <;> cases later.lookup key <;> rfl

/-- Tables are joined, and where one of them is missing the other one is seen. -/
theorem entriesOf_overlay? {later? value? : Option Tree} (hlater : LeadsOn later?)
    (hvalue : LeadsOn value?) :
    entriesOf (overlay? later? value?) = overlayEntries (entriesOf later?) (entriesOf value?) ∧
      LeadsOn (overlay? later? value?) := by
  cases hlater with
  | nothing => exact ⟨(overlayEntries_nil _).symm, hvalue⟩
  | table laterEntries source =>
    cases hvalue with
    | nothing =>
      have hnil : overlayEntries laterEntries [] = laterEntries := by rw [overlayEntries]
      exact ⟨hnil.symm, .table laterEntries source⟩
    | table entries =>
      rw [overlay?, overlay]
      exact ⟨rfl, .table _ _⟩

variable {later entries : List (String × Tree)} {path : List String}

/-- What is at the end of a path after an overlay is decided by what the two tables have there. -/
theorem at?_overlayEntries (hlater : IsOpen later path) (hentries : IsOpen entries path) :
    at? (overlayEntries later entries) path = overlay? (at? later path) (at? entries path) ∧
      IsOpen (overlayEntries later entries) path := by
  fun_induction at? later path generalizing entries with
  | case1 => exact ⟨rfl, trivial⟩
  | case2 later key => exact ⟨lookup_overlayEntries_eq_overlay? later entries key, trivial⟩
  | case3 later key key' keys ih =>
    obtain ⟨hbelow, hleads⟩ := entriesOf_overlay? hlater.1 hentries.1
    rw [at?, IsOpen, lookup_overlayEntries_eq_overlay?, hbelow]
    obtain ⟨hat, hopen⟩ := ih hlater.2 hentries.2
    exact ⟨hat, hleads, hopen⟩

/-- Without entries there is nothing at the end of any path, and nothing in its way. -/
theorem at?_nil (path : List String) : at? [] path = none ∧ IsOpen [] path := by
  induction path with
  | nil => exact ⟨rfl, trivial⟩
  | cons key keys ih =>
    cases keys with
    | nil => exact ⟨rfl, trivial⟩
    | cons key' keys => exact ⟨ih.1, .nothing, ih.2⟩

/-- A value at the end of a path is at the end of no other path, and nothing stands in the way of
    another path, if neither of the two goes on behind the other. -/
theorem at?_nest (value : Tree) {key : String} {keys : List String}
    (hpath : path <+: key :: keys → path = key :: keys)
    (hkeys : key :: keys <+: path → path = key :: keys) :
    at? [(key, Variable.nest value keys)] path =
        (if path = key :: keys then some value else none) ∧
      IsOpen [(key, Variable.nest value keys)] path := by
  induction path generalizing key keys with
  | nil => cases hpath List.nil_prefix
  | cons k path ih =>
    by_cases hk : k = key
    · subst hk
      simp only [List.cons_prefix_cons, true_and, List.cons.injEq] at hpath hkeys ⊢
      cases path with
      | nil =>
        -- What goes on behind the other path is nothing.
        obtain rfl := hpath List.nil_prefix
        simp [at?, IsOpen, Variable.nest]
      | cons k' path =>
        cases keys with
        | nil => cases hkeys List.nil_prefix
        | cons key' keys =>
          obtain ⟨hat, hopen⟩ := ih hpath hkeys
          have hlookup : [(k, Variable.nest value (key' :: keys))].lookup k =
              some (.table [(key', Variable.nest value keys)] .environment) := by
            rw [lookup_cons_entry, if_pos rfl, Variable.nest]
          rw [at?, IsOpen, hlookup]
          exact ⟨hat, .table _ _, hopen⟩
    · have hlookup : [(key, Variable.nest value keys)].lookup k = none := by
        rw [lookup_cons_entry, if_neg hk, List.lookup_nil]
      rw [if_neg fun heq => hk (List.cons.inj heq).1]
      cases path with
      | nil => exact ⟨hlookup, trivial⟩
      | cons k' path =>
        rw [at?, IsOpen, hlookup]
        exact ⟨(at?_nil _).1, .nothing, (at?_nil _).2⟩

end Tree

/-! ## Variables -/

namespace Variable

/-- Whether a variable is one for a path. -/
def isFor (path : List String) (v : String × String) : Bool :=
  path? v.1 == some path

/-- A variable neither ends on the way to the end of a path nor goes on behind it. -/
def Spares (path : List String) (v : String × String) : Prop :=
  ∀ key keys, path? v.1 = some (key :: keys) →
    (path <+: key :: keys → path = key :: keys) ∧ (key :: keys <+: path → path = key :: keys)

/-- A variable has its value at the end of its own path alone. -/
theorem at?_entries {path : List String} {v : String × String} (hpath : path ≠ [])
    (h : Spares path v) :
    Tree.at? (entries v) path = (if isFor path v then some (value v.2) else none) ∧
      Tree.IsOpen (entries v) path := by
  obtain ⟨name, text⟩ := v
  rw [entries]
  split
  · rename_i key keys hname
    obtain ⟨hbehind, hbefore⟩ := h key keys hname
    have hfor : isFor path (name, text) ↔ path = key :: keys := by
      rw [isFor, beq_iff_eq, hname, Option.some.injEq, eq_comm]
    simp only [hfor]
    exact Tree.at?_nest (value text) hbehind hbefore
  · rename_i hname
    have hfor : isFor path (name, text) = false := by
      obtain ⟨key, keys, rfl⟩ := List.exists_cons_of_ne_nil hpath
      exact beq_eq_false_iff_ne.2 (hname key keys)
    rw [hfor]
    exact Tree.at?_nil path

/-- The value of the variable for a path, among some variables. -/
def valueAt? (vars : List (String × String)) (path : List String) : Option Tree :=
  (vars.find? (isFor path)).map fun v => value v.2

theorem valueAt?_cons (v : String × String) (vars : List (String × String)) (path : List String) :
    valueAt? (v :: vars) path =
      if isFor path v then some (value v.2) else valueAt? vars path := by
  rw [valueAt?, List.find?_cons]
  cases isFor path v <;> rfl

/-- Variables that are laid over each other and over some entries have at the end of a path the
    value of the variable for it, if there is one at most, and what the entries have there. -/
theorem at?_foldl {vars : List (String × String)} {path : List String} (hpath : path ≠ [])
    (hspares : ∀ v ∈ vars, Spares path v) (honce : vars.countP (isFor path) ≤ 1)
    {below : List (String × Tree)} (hopen : Tree.IsOpen below path) :
    let all := vars.foldl (fun below v => Tree.overlayEntries (entries v) below) below
    Tree.at? all path = Tree.overlay? (valueAt? vars path) (Tree.at? below path) ∧
      Tree.IsOpen all path := by
  induction vars generalizing below with
  | nil => exact ⟨(Tree.overlay?_none_left _).symm, hopen⟩
  | cons v vars ih =>
    obtain ⟨hv, hvars⟩ := List.forall_mem_cons.1 hspares
    obtain ⟨hat, hopenV⟩ := at?_entries hpath hv
    obtain ⟨hover, hopenAll⟩ := Tree.at?_overlayEntries hopenV hopen
    rw [List.countP_cons] at honce
    obtain ⟨hrest, hopenRest⟩ := ih hvars (by omega) hopenAll
    refine ⟨hrest.trans ?_, hopenRest⟩
    rw [hover, hat, valueAt?_cons]
    cases hfor : isFor path v with
    | false => rw [if_neg Bool.false_ne_true, if_neg Bool.false_ne_true, Tree.overlay?_none_left]
    | true =>
      -- No other variable is one for the path.
      have hnone : valueAt? vars path = none := by
        rw [hfor, if_pos rfl] at honce
        rw [valueAt?, Option.map_eq_none_iff, List.find?_eq_none]
        exact List.countP_eq_zero.1 (by omega)
      rw [hnone, Tree.overlay?_none_left, if_pos rfl]

end Variable

namespace Environment

/-- The value of the variable for a path. -/
def valueAt? (env : Environment) (path : List String) : Option Tree :=
  Variable.valueAt? env.vars path

/-- The variables of an environment have at the end of a path the value of the variable for it, if
    there is one at most. -/
theorem at?_settingsEntries {env : Environment} {path : List String} (hpath : path ≠ [])
    (hspares : ∀ v ∈ env.vars, Variable.Spares path v)
    (honce : env.vars.countP (Variable.isFor path) ≤ 1) :
    Tree.at? env.settingsEntries path = env.valueAt? path ∧
      Tree.IsOpen env.settingsEntries path := by
  obtain ⟨hnone, hnil⟩ := Tree.at?_nil path
  obtain ⟨hat, hopen⟩ := Variable.at?_foldl hpath hspares honce hnil
  rw [hnone, Tree.overlay?_none_right] at hat
  exact ⟨hat, hopen⟩

end Environment

/-! ## Files -/

namespace Toml

/-- The entries of a table, and none where there is no table. -/
def entriesOf : Option Value → Table
  | some (.table entries) => entries
  | _ => []

/-- What is at the end of a path, in a table. -/
def at? : Table → List String → Option Value
  | _, [] => none
  | table, [key] => table.lookup key
  | table, key :: key' :: keys => at? (entriesOf (table.lookup key)) (key' :: keys)

end Toml

namespace Tree

theorem lookup_ofTomlEntries (source : SettingsSource) (table : Toml.Table) (key : String) :
    (ofTomlEntries source table).lookup key = (table.lookup key).map (ofToml source) := by
  induction table with
  | nil => rw [ofTomlEntries]; rfl
  | cons e table ih =>
    obtain ⟨k, value⟩ := e
    rw [ofTomlEntries, lookup_cons_entry, lookup_cons_entry, ih]
    split <;> rfl

theorem entriesOf_map_ofToml (source : SettingsSource) (value? : Option Toml.Value) :
    entriesOf (value?.map (ofToml source)) = ofTomlEntries source (Toml.entriesOf value?) := by
  cases value? with
  | none => simp [entriesOf, Toml.entriesOf, ofTomlEntries]
  | some value => cases value <;> simp [entriesOf, Toml.entriesOf, ofToml, ofTomlEntries]

/-- A settings file has at the end of a path what its document has there. -/
theorem at?_ofTomlEntries (source : SettingsSource) (table : Toml.Table) (path : List String) :
    at? (ofTomlEntries source table) path = (Toml.at? table path).map (ofToml source) := by
  fun_induction Toml.at? table path with
  | case1 => rfl
  | case2 table key => exact lookup_ofTomlEntries source table key
  | case3 table key key' keys ih =>
    rw [at?, lookup_ofTomlEntries, entriesOf_map_ofToml, ih]

end Tree

end AutoImport
