import AutoImport.Proofs.Table.Invariant
import Mathlib.Data.List.Dedup
import Mathlib.Data.List.Perm.Basic

/-!
# Histories of tables

A table can be told anything, in any order: names under any module, and local names for names that
have no module yet, or never get one. What it answers is decided by the last registration of each
name and of each local name in its history (`IsLast`).

* `Table.value?_registerAll_of_isLast`, `Table.value?_registerAll_of_forall_ne`: the last
  registration about something counts, and without one a table keeps what it had;
* `Table.moduleOf?_eq_some_iff`, `Table.nameOf?_eq_some_iff`, `Table.size_registerAll`,
  `Table.resolve?_eq_iff`: so this is all that is seen of a new table (`Answers`);
* `Table.registerAll_eq_iff`: and it is all there is of it.
-/

namespace AutoImport

namespace Registration

/-- What a registration is about. -/
inductive Key where
  /-- The module of a name. -/
  | module (name : String)
  /-- The name behind a local name. -/
  | target (localName : String)
  deriving DecidableEq, Repr

/-- What a registration is about. -/
def key : Registration → Key
  | name n _ => .module n
  | rename a _ => .target a

/-- What a registration says about it. -/
def value : Registration → String
  | name _ m => m
  | rename _ n => n

/-- What a registration says about something, if it is about that. -/
def value? : Key → Registration → Option String
  | .module s, r => r.module? s
  | .target s, r => r.target? s

/-- The name that is imported, if a registration is one of a name. -/
def imported? : Registration → Option String
  | name n _ => some n
  | rename _ _ => none

variable {r r' : Registration} {key : Key}

theorem value?_key (r : Registration) : r.value? r.key = some r.value := by
  cases r with
  | name n m => exact if_pos rfl
  | rename a n => exact if_pos rfl

theorem value?_of_ne (h : r.key ≠ key) : r.value? key = none := by
  cases key with
  | module s =>
    cases r with
    | name n m => exact if_neg fun hs => h (congrArg Key.module hs.symm)
    | rename a n => rfl
  | target s =>
    cases r with
    | name n m => rfl
    | rename a n => exact if_neg fun hs => h (congrArg Key.target hs.symm)

/-- There is one registration that says something about something. -/
theorem ext_key (hkey : r.key = r'.key) (hvalue : r.value = r'.value) : r = r' := by
  cases r <;> cases r' <;> cases hkey <;> cases hvalue <;> rfl

end Registration

open Registration (Key)

/-- A registration is in a history, and none behind it is about the same. -/
def IsLast (rs : List Registration) (r : Registration) : Prop :=
  ∃ before after, rs = before ++ r :: after ∧ ∀ r' ∈ after, r'.key ≠ r.key

variable {rs rs' : List Registration} {r : Registration} {key : Key} {s : String}

theorem IsLast.mem (h : IsLast rs r) : r ∈ rs := by
  obtain ⟨before, after, rfl, -⟩ := h
  exact List.mem_append_right before List.mem_cons_self

/-- If a history has registrations about something, one of them is the last. -/
theorem exists_isLast_or_forall_ne (rs : List Registration) (key : Key) :
    (∃ r, IsLast rs r ∧ r.key = key) ∨ ∀ r ∈ rs, r.key ≠ key := by
  induction rs with
  | nil => exact .inr fun _ h => absurd h List.not_mem_nil
  | cons r rs ih =>
    rcases ih with ⟨r', ⟨before, after, rfl, hafter⟩, hkey⟩ | hrs
    · exact .inl ⟨r', ⟨r :: before, after, rfl, hafter⟩, hkey⟩
    · by_cases hr : r.key = key
      · exact .inl ⟨r, ⟨[], rs, rfl, fun r' h => hr ▸ hrs r' h⟩, hr⟩
      · exact .inr (List.forall_mem_cons.2 ⟨hr, hrs⟩)

/-- Registrations about something else say nothing about it. -/
theorem filterMap_value?_eq_nil (h : ∀ r ∈ rs, r.key ≠ key) : rs.filterMap (·.value? key) = [] :=
  List.filterMap_eq_nil_iff.2 fun r hr => Registration.value?_of_ne (h r hr)

namespace Table

/-- What a table has about something. -/
def value? (t : Table) : Key → Option String
  | .module name => t.moduleOf? name
  | .target localName => t.nameOf? localName

/-- Tables that have the same about everything are the same. -/
theorem ext_value? {t t' : Table} (h : ∀ key, t.value? key = t'.value? key) : t = t' :=
  ext_lookup (fun s => h (.module s)) fun s => h (.target s)

theorem value?_registerAll (t : Table) (rs : List Registration) (key : Key) :
    (t.registerAll rs).value? key =
      (rs.filterMap (·.value? key)).getLast?.or (t.value? key) := by
  cases key with
  | module s => exact moduleOf?_registerAll t s rs
  | target s => exact nameOf?_registerAll t s rs

/-- A table keeps what no registration is about. -/
theorem value?_registerAll_of_forall_ne (t : Table) (h : ∀ r ∈ rs, r.key ≠ key) :
    (t.registerAll rs).value? key = t.value? key := by
  rw [value?_registerAll, filterMap_value?_eq_nil h]
  rfl

/-- A table has what the last registration about something says, whatever it had before. -/
theorem value?_registerAll_of_isLast (t : Table) (h : IsLast rs r) :
    (t.registerAll rs).value? r.key = some r.value := by
  obtain ⟨before, after, rfl, hafter⟩ := h
  rw [value?_registerAll, List.filterMap_append, List.filterMap_cons_some r.value?_key,
    filterMap_value?_eq_nil hafter, List.getLast?_concat]
  rfl

/-- A new table has what the last registration about something says, and nothing else. -/
theorem value?_registerAll_empty_iff :
    (empty.registerAll rs).value? r.key = some r.value ↔ IsLast rs r := by
  refine ⟨fun h => ?_, value?_registerAll_of_isLast empty⟩
  rcases exists_isLast_or_forall_ne rs r.key with ⟨r', hlast, hkey⟩ | hrs
  · have hvalue := value?_registerAll_of_isLast empty hlast
    rw [hkey, h, Option.some.injEq] at hvalue
    rwa [Registration.ext_key hkey.symm hvalue]
  · rw [value?_registerAll_of_forall_ne empty hrs] at h
    rcases hkey : r.key with name | localName <;> rw [hkey] at h <;> cases h

/-! ## Lookups -/

/-- The module of a name is the one it was given last. -/
theorem moduleOf?_eq_some_iff {module : String} :
    (empty.registerAll rs).moduleOf? s = some module ↔ IsLast rs (.name s module) :=
  value?_registerAll_empty_iff (r := .name s module)

/-- The name behind a local name is the one that was put there last. -/
theorem nameOf?_eq_some_iff {name : String} :
    (empty.registerAll rs).nameOf? s = some name ↔ IsLast rs (.rename s name) :=
  value?_registerAll_empty_iff (r := .rename s name)

/-- A name has a module if it was imported at any time. -/
theorem exists_moduleOf?_iff :
    (∃ module, (empty.registerAll rs).moduleOf? s = some module) ↔
      ∃ module, .name s module ∈ rs := by
  simp only [moduleOf?_eq_some_iff]
  constructor
  · rintro ⟨module, hlast⟩
    exact ⟨module, hlast.mem⟩
  · rintro ⟨module, hmem⟩
    rcases exists_isLast_or_forall_ne rs (.module s) with ⟨r, hlast, hkey⟩ | hrs
    · cases r with
      | name n m => cases hkey; exact ⟨m, hlast⟩
      | rename a n => cases hkey
    · exact absurd rfl (hrs _ hmem)

/-- The names of a history are those that were imported at any time. -/
theorem mem_imported_iff :
    s ∈ rs.filterMap Registration.imported? ↔ ∃ module, .name s module ∈ rs := by
  rw [List.mem_filterMap]
  constructor
  · rintro ⟨r, h, hr⟩
    cases r with
    | name n m => cases hr; exact ⟨m, h⟩
    | rename a n => cases hr
  · rintro ⟨module, h⟩
    exact ⟨_, h, rfl⟩

/-- There are as many names as were imported, each counted once. -/
theorem size_registerAll (rs : List Registration) :
    (empty.registerAll rs).size = (rs.filterMap Registration.imported?).dedup.length := by
  have hmem (s : String) : s ∈ (empty.registerAll rs).modules.keys ↔
      s ∈ (rs.filterMap Registration.imported?).dedup := by
    rw [Dictionary.mem_keys_iff, List.mem_dedup, mem_imported_iff]
    exact exists_moduleOf?_iff
  have hperm := (List.perm_ext_iff_of_nodup (Dictionary.nodup_keys _) (List.nodup_dedup _)).2 hmem
  rw [← hperm.length_eq, Dictionary.keys, List.length_map]
  rfl

/-! ## Answers -/

/-- The name that was last put behind a symbol was imported at some time, before or after that. -/
def RenamesImported (rs : List Registration) (s : String) : Prop :=
  ∃ name module, IsLast rs (.rename s name) ∧ .name name module ∈ rs

/-- What is to be answered for a symbol after a history of registrations. -/
inductive Answers (rs : List Registration) (s : String) : Option Binding → Prop
  /-- The name that was last put behind the symbol, from its last module. -/
  | renamed {name module} : IsLast rs (.rename s name) → IsLast rs (.name name module) →
    Answers rs s (some ⟨module, name, s⟩)
  /-- If there is none, or it was never imported, the symbol itself, from its last module. -/
  | plain {module} : ¬RenamesImported rs s → IsLast rs (.name s module) →
    Answers rs s (some (.plain module s))
  /-- If the symbol was never imported either, nothing. -/
  | nothing : ¬RenamesImported rs s → (∀ module, .name s module ∉ rs) → Answers rs s none

/-- There is something to be answered for every symbol. -/
theorem exists_answers (rs : List Registration) (s : String) : ∃ answer?, Answers rs s answer? := by
  by_cases hrenames : RenamesImported rs s
  · obtain ⟨name, module, hname, hmem⟩ := hrenames
    obtain ⟨last, hlast⟩ := exists_moduleOf?_iff.2 ⟨module, hmem⟩
    exact ⟨_, .renamed hname (moduleOf?_eq_some_iff.1 hlast)⟩
  · by_cases himported : ∃ module, .name s module ∈ rs
    · obtain ⟨last, hlast⟩ := exists_moduleOf?_iff.2 himported
      exact ⟨_, .plain hrenames (moduleOf?_eq_some_iff.1 hlast)⟩
    · exact ⟨_, .nothing hrenames (not_exists.1 himported)⟩

/-- A name that was never imported does not stand behind a symbol, even if it was put there. -/
theorem resolveAlias?_eq_none (h : ¬RenamesImported rs s) :
    (empty.registerAll rs).resolveAlias? s = none := by
  refine Option.eq_none_iff_forall_ne_some.2 fun b hb => h ?_
  obtain ⟨name, hname, hb⟩ := Option.bind_eq_some_iff.1 hb
  obtain ⟨module, hmodule, -⟩ := Option.bind_eq_some_iff.1 hb
  exact ⟨name, module, nameOf?_eq_some_iff.1 hname, (moduleOf?_eq_some_iff.1 hmodule).mem⟩

theorem Answers.resolve?_eq {answer? : Option Binding} (h : Answers rs s answer?) :
    (empty.registerAll rs).resolve? s = answer? := by
  cases h with
  | renamed hname hmodule =>
    exact resolve?_of_nameOf? (nameOf?_eq_some_iff.2 hname) (moduleOf?_eq_some_iff.2 hmodule)
  | plain hrenames hmodule =>
    rw [resolve?, resolveAlias?_eq_none hrenames, moduleOf?_eq_some_iff.2 hmodule]
    rfl
  | nothing hrenames himported =>
    have hmodule : (empty.registerAll rs).moduleOf? s = none :=
      Option.eq_none_iff_forall_ne_some.2 fun module h =>
        himported module (moduleOf?_eq_some_iff.1 h).mem
    rw [resolve?, resolveAlias?_eq_none hrenames, hmodule]
    rfl

/-- A new table answers what is to be answered after its history. -/
theorem resolve?_eq_iff {answer? : Option Binding} :
    (empty.registerAll rs).resolve? s = answer? ↔ Answers rs s answer? := by
  refine ⟨?_, Answers.resolve?_eq⟩
  rintro rfl
  obtain ⟨answer?, h⟩ := exists_answers rs s
  rwa [h.resolve?_eq]

/-! ## Equal tables -/

/-- Two histories make the same table exactly if their last registrations are the same. -/
theorem registerAll_eq_iff :
    empty.registerAll rs = empty.registerAll rs' ↔ ∀ r, IsLast rs r ↔ IsLast rs' r := by
  constructor
  · intro h r
    rw [← value?_registerAll_empty_iff, h, value?_registerAll_empty_iff]
  · intro h
    refine ext_value? fun key => ?_
    rcases exists_isLast_or_forall_ne rs key with ⟨r, hlast, rfl⟩ | hrs
    · rw [value?_registerAll_of_isLast empty hlast,
        value?_registerAll_of_isLast empty ((h r).1 hlast)]
    · rcases exists_isLast_or_forall_ne rs' key with ⟨r, hlast, hkey⟩ | hrs'
      · exact absurd hkey (hrs r ((h r).2 hlast).mem)
      · rw [value?_registerAll_of_forall_ne empty hrs, value?_registerAll_of_forall_ne empty hrs']

/-- Everything that is seen of a table is decided by the last registration of each name and of each
    local name in its history: the module of a name, the name behind a local name, how many names
    there are, and what is answered for a symbol. Histories with the same last registrations make
    the same table, in whatever order they are. -/
theorem registerAll_decided_by_last (rs : List Registration) :
    (∀ s module, (empty.registerAll rs).moduleOf? s = some module ↔ IsLast rs (.name s module)) ∧
    (∀ s name, (empty.registerAll rs).nameOf? s = some name ↔ IsLast rs (.rename s name)) ∧
    (empty.registerAll rs).size = (rs.filterMap Registration.imported?).dedup.length ∧
    (∀ s answer?, (empty.registerAll rs).resolve? s = answer? ↔ Answers rs s answer?) ∧
    ∀ rs', empty.registerAll rs = empty.registerAll rs' ↔ ∀ r, IsLast rs r ↔ IsLast rs' r :=
  ⟨fun _ _ => moduleOf?_eq_some_iff, fun _ _ => nameOf?_eq_some_iff, size_registerAll rs,
    fun _ _ => resolve?_eq_iff, fun _ => registerAll_eq_iff⟩

/-- A local name can come before its name, and both can be said again. -/
example :
    empty.registerAll [.rename "sql" "sqlite3", .name "sqlite3" "db", .name "sqlite3" ""] =
      empty.registerAll [.name "sqlite3" "", .rename "sql" "db", .rename "sql" "sqlite3"] := by
  decide +kernel

end Table

end AutoImport
