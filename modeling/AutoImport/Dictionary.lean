/-!
# Dictionaries

Finite maps from texts, kept as the list of their entries in the order of the keys. Each map has one
such list, so that dictionaries with the same entries are equal, and listing one needs no sorting.
The order of texts is that of their code points, which is also that of their UTF-8 bytes.
-/

namespace AutoImport

/-- The entries of a dictionary with `key` set to `value`. -/
def insertEntry {α : Type} (key : String) (value : α) :
    List (String × α) → List (String × α)
  | [] => [(key, value)]
  | (k, v) :: entries =>
    if key < k then (key, value) :: (k, v) :: entries
    else if k < key then (k, v) :: insertEntry key value entries
    else (key, value) :: entries

/-- Setting a key adds no other key. -/
theorem fst_mem_insertEntry {α : Type} {key : String} {value : α} {entries : List (String × α)}
    {e : String × α} (h : e ∈ insertEntry key value entries) : e.1 = key ∨ e ∈ entries := by
  induction entries with
  | nil => simp [insertEntry] at h; simp [h]
  | cons kv entries ih =>
    obtain ⟨k, v⟩ := kv
    simp only [insertEntry] at h
    split at h
    · rcases List.mem_cons.1 h with rfl | h
      · simp
      · exact .inr h
    · split at h
      · rcases List.mem_cons.1 h with rfl | h
        · exact .inr (List.mem_cons_self ..)
        · exact (ih h).imp_right (List.mem_cons_of_mem _)
      · rcases List.mem_cons.1 h with rfl | h
        · simp
        · exact .inr (List.mem_cons_of_mem _ h)

/-- Setting a key keeps the entries in order. -/
theorem sorted_insertEntry {α : Type} {key : String} {value : α} {entries : List (String × α)}
    (h : entries.Pairwise (·.1 < ·.1)) : (insertEntry key value entries).Pairwise (·.1 < ·.1) := by
  induction entries with
  | nil => simp [insertEntry]
  | cons kv entries ih =>
    obtain ⟨k, v⟩ := kv
    obtain ⟨hk, hs⟩ := List.pairwise_cons.1 h
    simp only [insertEntry]
    split
    · rename_i hlt
      refine List.pairwise_cons.2 ⟨fun e he => ?_, h⟩
      rcases List.mem_cons.1 he with rfl | he
      · exact hlt
      · exact String.lt_trans hlt (hk e he)
    · split
      · rename_i hlt
        refine List.pairwise_cons.2 ⟨fun e he => ?_, ih hs⟩
        rcases fst_mem_insertEntry he with he | he
        · exact he ▸ hlt
        · exact hk e he
      · rename_i hnlt hnlt'
        have : key = k := String.le_antisymm (String.not_lt.1 hnlt') (String.not_lt.1 hnlt)
        exact List.pairwise_cons.2 ⟨fun e he => this ▸ hk e he, hs⟩

/-- The value of a key is that of the first entry with the key. -/
theorem lookup_cons_entry {α : Type} (k key : String) (value : α) (entries : List (String × α)) :
    ((key, value) :: entries).lookup k = if k = key then some value else entries.lookup k := by
  by_cases h : k = key
  · simp [h]
  · simp [List.lookup_cons, h, beq_false_of_ne h]

/-- Setting a key changes the value of that key alone. -/
theorem lookup_insertEntry {α : Type} (key : String) (value : α) (entries : List (String × α))
    (k : String) :
    (insertEntry key value entries).lookup k =
      if k = key then some value else entries.lookup k := by
  induction entries with
  | nil => rw [insertEntry, lookup_cons_entry]
  | cons kv entries ih =>
    obtain ⟨k', v⟩ := kv
    simp only [insertEntry]
    split
    · rw [lookup_cons_entry]
    · split
      · -- the entry in front is that of another key
        rename_i hlt
        rw [lookup_cons_entry, lookup_cons_entry, ih]
        by_cases h : k = k'
        · have hne : k ≠ key := h ▸ String.ne_of_lt hlt
          simp [h, h ▸ hne]
        · simp [h]
      · rename_i hnlt hnlt'
        have heq : key = k' := String.le_antisymm (String.not_lt.1 hnlt') (String.not_lt.1 hnlt)
        rw [lookup_cons_entry, lookup_cons_entry, heq]
        by_cases h : k = k' <;> simp [h]

/-- A finite map from texts. -/
structure Dictionary (α : Type) where
  /-- The entries, in the order of their keys. -/
  entries : List (String × α)
  sorted : entries.Pairwise (·.1 < ·.1)

namespace Dictionary

variable {α : Type}

instance [DecidableEq α] : DecidableEq (Dictionary α) := fun a b =>
  decidable_of_iff (a.entries = b.entries)
    ⟨fun h => by cases a; cases b; cases h; rfl, fun h => h ▸ rfl⟩

/-- No entries. -/
def empty : Dictionary α :=
  ⟨[], .nil⟩

/-- The value of a key. -/
def get? (d : Dictionary α) (key : String) : Option α :=
  d.entries.lookup key

/-- The dictionary with `key` set to `value`. -/
def insert (d : Dictionary α) (key : String) (value : α) : Dictionary α :=
  ⟨insertEntry key value d.entries, sorted_insertEntry d.sorted⟩

/-- Setting a key changes the value of that key alone. -/
@[simp] theorem get?_insert (d : Dictionary α) (key : String) (value : α) (k : String) :
    (d.insert key value).get? k = if k = key then some value else d.get? k :=
  lookup_insertEntry key value d.entries k

/-- The keys, in order. -/
def keys (d : Dictionary α) : List String :=
  d.entries.map (·.1)

/-- The number of keys. -/
def size (d : Dictionary α) : Nat :=
  d.entries.length

end Dictionary

end AutoImport
