import AutoImport.Proofs.Table.History

/-!
# Loading again

A load tells a table what it read before it ended, however it ended. Since the last registration
about something counts whatever the table had before, all that an earlier load of the same contents
has left behind is replaced by a later one, and what has been loaded between the two stays only
where the contents say nothing (`Table.load_absorbs`).

So a file that has changed, or one of which only a part could be read, can be loaded again at any
time, and loading twice in a row is loading once.
-/

namespace AutoImport

open Registration (Key)

/-- Whether a binding says something about a name, or about a local name that is not its name. -/
def Binding.mentions (b : Binding) : Key → Bool
  | .module name => b.isNamed name
  | .target localName => b.isAliased localName

variable {rs : List Registration} {key : Key}

/-- What a binding mentions is what it registers something about. -/
theorem Binding.mentions_iff {b : Binding} :
    b.mentions key ↔ ∃ r ∈ b.registrations, r.key = key := by
  cases key <;> cases hr : b.renames <;>
    simp [registrations, mentions, isNamed, isAliased, hr, Registration.key]

/-- Bindings register nothing about what none of them mentions. -/
theorem key_ne_of_not_mentions {bs : List Binding} (h : ∀ b ∈ bs, ¬b.mentions key) :
    ∀ r ∈ bs.flatMap (·.registrations), r.key ≠ key := by
  intro r hr hkey
  obtain ⟨b, hb, hr⟩ := List.mem_flatMap.1 hr
  exact h b hb (Binding.mentions_iff.2 ⟨r, hr, hkey⟩)

namespace Table

/-- After the same registrations two tables have the same about something, if one of these is about
    it or they had the same before. -/
theorem value?_registerAll_congr {t t' : Table}
    (h : (∃ r, IsLast rs r ∧ r.key = key) ∨ t.value? key = t'.value? key) :
    (t.registerAll rs).value? key = (t'.registerAll rs).value? key := by
  rcases exists_isLast_or_forall_ne rs key with ⟨r, hlast, rfl⟩ | hrs
  · rw [value?_registerAll_of_isLast t hlast, value?_registerAll_of_isLast t' hlast]
  · rcases h with ⟨r, hlast, hkey⟩ | h
    · exact absurd hkey (hrs r hlast.mem)
    · rw [value?_registerAll_of_forall_ne t hrs, value?_registerAll_of_forall_ne t' hrs, h]

/-- Registrations that are made twice count where they are made the second time. -/
theorem registerAll_absorbs (t : Table) (rs rs' : List Registration) :
    ((t.registerAll rs).registerAll rs').registerAll rs = (t.registerAll rs').registerAll rs := by
  refine ext_value? fun key => value?_registerAll_congr ?_
  refine (exists_isLast_or_forall_ne rs key).imp_right fun hrs => ?_
  -- Nothing about it is made twice, so it was not touched the first time.
  exact value?_registerAll_congr (.inr (value?_registerAll_of_forall_ne t hrs))

/-- A table does not forget a name or a local name. -/
theorem isSome_value?_registerAll {t : Table} (h : (t.value? key).isSome)
    (rs : List Registration) : ((t.registerAll rs).value? key).isSome := by
  rcases exists_isLast_or_forall_ne rs key with ⟨r, hlast, rfl⟩ | hrs
  · rw [value?_registerAll_of_isLast t hlast]
    rfl
  · rwa [value?_registerAll_of_forall_ne t hrs]

/-- A load absorbs any earlier one of the same contents, with another one between them or without.
    Whatever a table is filled with, it has the names and the local names it had before, and what no
    binding of the load mentions is as it was. -/
theorem load_absorbs (t : Table) (path path' path'' : String) (opened other : Opened) :
    ((t.load path opened).load path' other).load path'' opened =
      (t.load path' other).load path'' opened ∧
    (t.load path opened).load path'' opened = t.load path'' opened ∧
    ∀ key, ((t.value? key).isSome → ((t.load path opened).value? key).isSome) ∧
      ((∀ b ∈ opened.bindings, ¬b.mentions key) →
        (t.load path opened).value? key = t.value? key) := by
  simp only [load, Load.registrations_ofOpened]
  refine ⟨registerAll_absorbs _ _ _, registerAll_absorbs _ _ [], fun key => ⟨fun h => ?_, ?_⟩⟩
  · exact isSome_value?_registerAll h _
  · intro h
    exact value?_registerAll_of_forall_ne t (key_ne_of_not_mentions h)

/-- A table from earlier on. -/
def older : Table :=
  empty.registerAll [.name "sep" "ntpath", .name "re" "", .rename "rx" "re"]

/-- Two lines that are read, each using the names of the other, and one that stops the load. -/
def cutShort : Opened :=
  .content ("from os import path as p, sep\nfrom posix import sep as p\n".toUTF8.data.toList ++
    [0xff] ++ "\nimport re\n".toUTF8.data.toList)

/-- A line that gives the names and the local name of the other file away. -/
def rival : Opened :=
  .content "from ntpath import sep, splitext as p, path\n".toUTF8.data.toList

/-- The load that stops halfway replaces what the other file says when it is repeated, keeps a name
    of both in the table, and says nothing about the local name `rx`. -/
theorem load_absorbs_cutShort :
    ((older.load "cut" cutShort).load "rival" rival).load "again" cutShort =
      (older.load "rival" rival).load "again" cutShort ∧
    (older.value? (.module "sep")).isSome ∧
    ((older.load "cut" cutShort).value? (.module "sep")).isSome ∧
    (∀ b ∈ cutShort.bindings, ¬b.mentions (.target "rx")) ∧
    (older.load "cut" cutShort).value? (.target "rx") = some "re" := by
  have hsep : (older.value? (.module "sep")).isSome := by decide +kernel
  have hrx : ∀ b ∈ cutShort.bindings, ¬b.mentions (.target "rx") := by decide +kernel
  obtain ⟨habsorbs, -, hkey⟩ := load_absorbs older "cut" "rival" "again" cutShort rival
  exact ⟨habsorbs, hsep, (hkey _).1 hsep, hrx, ((hkey _).2 hrx).trans (by decide +kernel)⟩

end Table

end AutoImport
