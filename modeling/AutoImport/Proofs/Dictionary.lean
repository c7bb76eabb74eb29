import AutoImport.Dictionary
import Mathlib.Data.List.Sort

/-!
# Entries of dictionaries

The entries of a dictionary are in order, so that there is one for each key. So an entry is there if
it is what is looked up (`Dictionary.mem_entries_iff`), and dictionaries in which the same is looked
up are the same (`Dictionary.ext_get?`).
-/

namespace AutoImport

variable {α : Type}

/-- In entries that are in order, what is looked up are the entries. -/
theorem lookup_eq_some_iff {entries : List (String × α)} (h : entries.Pairwise (·.1 < ·.1))
    {key : String} {value : α} : entries.lookup key = some value ↔ (key, value) ∈ entries := by
  induction entries with
  | nil => simp
  | cons e entries ih =>
    obtain ⟨k, v⟩ := e
    obtain ⟨hk, hentries⟩ := List.pairwise_cons.1 h
    rw [lookup_cons_entry, List.mem_cons, Prod.mk.injEq]
    by_cases heq : key = k
    · -- No entry behind the first has the key of the first.
      have hnot : (key, value) ∉ entries := fun hmem => String.lt_irrefl k (heq ▸ hk _ hmem)
      rw [if_pos heq, Option.some.injEq, or_iff_left hnot, and_iff_right heq, eq_comm]
    · simp [heq, ih hentries]

namespace Dictionary

variable {d d' : Dictionary α} {key : String} {value : α}

/-- An entry is a key with its value. -/
theorem mem_entries_iff : (key, value) ∈ d.entries ↔ d.get? key = some value :=
  (lookup_eq_some_iff d.sorted).symm

/-- A key is what has a value. -/
theorem mem_keys_iff : key ∈ d.keys ↔ ∃ value, d.get? key = some value := by
  rw [keys, List.mem_map]
  constructor
  · rintro ⟨⟨k, v⟩, hmem, rfl⟩
    exact ⟨v, mem_entries_iff.1 hmem⟩
  · rintro ⟨value, h⟩
    exact ⟨(key, value), mem_entries_iff.2 h, rfl⟩

theorem pairwise_keys (d : Dictionary α) : d.keys.Pairwise (· < ·) :=
  List.pairwise_map.2 d.sorted

/-- There is one entry for each key. -/
theorem nodup_keys (d : Dictionary α) : d.keys.Nodup :=
  d.pairwise_keys.imp String.ne_of_lt

/-- Dictionaries with the same values are equal. -/
theorem ext_get? (h : ∀ key, d.get? key = d'.get? key) : d = d' := by
  have hentries : d.entries = d'.entries := by
    refine d.sorted.eq_of_mem_iff d'.sorted fun e => ?_
    rw [mem_entries_iff, mem_entries_iff, h]
  cases d
  cases d'
  cases hentries
  rfl

end Dictionary

end AutoImport
