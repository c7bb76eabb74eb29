import Mathlib.Data.List.Basic

/-!
# Pieces between separators

A text is divided at a separator, as names are at commas, paths at slashes and lines at line feeds.
No piece has the separator in it, and there is one piece more than there are separators.

Pieces are put together again with the separator between any two of them. What is then in the whole
is a separator or in one of the pieces (`mem_intercalate`, `filter_intercalate`), and how long it is
follows from how long the pieces are (`length_intercalate`). Lines are put together in another way,
each ended by a line feed, and then there is nothing behind the last one (`splitOn_join_lines`).
-/

namespace AutoImport

section Dividing

variable {α : Type} [DecidableEq α]

/-- No piece of a list between separators has a separator in it. -/
theorem not_mem_of_mem_splitOn {a : α} {xs piece : List α} (h : piece ∈ xs.splitOn a) :
    a ∉ piece := by
  induction xs generalizing piece with
  | nil =>
    rw [List.splitOn_nil, List.mem_singleton] at h
    simp [h]
  | cons x xs ih =>
    rw [List.splitOn_cons_eq_if_modifyHead] at h
    split at h
    · rcases List.mem_cons.1 h with rfl | h
      · exact List.not_mem_nil
      · exact ih h
    · rename_i hne
      obtain ⟨first, rest, hpieces⟩ := List.exists_cons_of_ne_nil (List.splitOn_ne_nil a xs)
      rw [hpieces] at h ih
      rw [List.modifyHead_cons] at h
      rcases List.mem_cons.1 h with rfl | h
      · rw [List.mem_cons, not_or]
        exact ⟨fun heq => hne (beq_iff_eq.2 heq.symm), ih List.mem_cons_self⟩
      · exact ih (List.mem_cons_of_mem first h)

/-- There is one piece more than there are separators. -/
theorem length_splitOn (a : α) (xs : List α) : (xs.splitOn a).length = xs.count a + 1 := by
  induction xs with
  | nil => simp
  | cons x xs ih =>
    rw [List.splitOn_cons_eq_if_modifyHead, List.count_cons]
    split <;> simp [ih]

end Dividing

/-! ## Pieces put together -/

section Joining

variable {α : Type} {a x : α} {pieces : List (List α)}

theorem mem_intercalate (h : x ∈ [a].intercalate pieces) : x = a ∨ ∃ piece ∈ pieces, x ∈ piece := by
  induction pieces with
  | nil => cases h
  | cons piece pieces ih =>
    cases pieces with
    | nil => exact .inr ⟨piece, List.mem_cons_self, by simpa using h⟩
    | cons piece' pieces =>
      rw [List.intercalate_cons_cons, List.append_assoc, List.mem_append, List.mem_append] at h
      rcases h with h | h | h
      · exact .inr ⟨piece, List.mem_cons_self, h⟩
      · exact .inl (List.mem_singleton.1 h)
      · exact (ih h).imp_right fun ⟨p, hp, hx⟩ => ⟨p, List.mem_cons_of_mem _ hp, hx⟩

/-- Without the separators, the pieces are one after the other. -/
theorem filter_intercalate {p : α → Bool} (h : p a = false) (pieces : List (List α)) :
    ([a].intercalate pieces).filter p = pieces.flatten.filter p := by
  induction pieces with
  | nil => rfl
  | cons piece pieces ih =>
    cases pieces with
    | nil => rw [List.intercalate_singleton, List.flatten_singleton]
    | cons piece' pieces =>
      rw [List.intercalate_cons_cons, List.filter_append, List.filter_append, ih,
        List.filter_singleton, h, List.flatten_cons, List.filter_append]
      simp

/-- There is one separator less than there are pieces. -/
theorem length_intercalate (a : α) (pieces : List (List α)) :
    ([a].intercalate pieces).length = pieces.flatten.length + (pieces.length - 1) := by
  induction pieces with
  | nil => rfl
  | cons piece pieces ih =>
    cases pieces with
    | nil => simp
    | cons piece' pieces =>
      rw [List.intercalate_cons_cons, List.length_append, ih]
      simp only [List.length_append, List.flatten_cons, List.length_cons, List.length_nil]
      omega

end Joining

/-- Lines, each of them ended by a line feed, are found again, with nothing behind the last. -/
theorem splitOn_join_lines {lines : List String} (h : ∀ line ∈ lines, '\n' ∉ line.toList) :
    (String.join (lines.map (· ++ "\n"))).toList.splitOn '\n' =
      lines.map String.toList ++ [[]] := by
  induction lines with
  | nil => rfl
  | cons line lines ih =>
    obtain ⟨hline, hlines⟩ := List.forall_mem_cons.1 h
    rw [List.map_cons, String.join_cons, String.append_assoc, String.toList_append,
      String.toList_append]
    exact (List.splitOn_append_cons_self_of_not_mem hline _).trans
      (congrArg (line.toList :: ·) (ih hlines))

end AutoImport
