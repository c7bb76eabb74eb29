import AutoImport.Names
import AutoImport.Proofs.Text.Words

/-!
# Lists of names, step by step

A list of names is read lazily, a step at a time, and every segment is visited by one step. So the
bindings and the skipped texts that the steps bring one after the other are those that the segments
say on their own (`Names.drain_eq`).
-/

namespace AutoImport.Names

section Segments

variable {module : String} {segment : List Char} {segments : List (List Char)}

theorem bindings_cons_of_binds {b : Binding} (h : readSegment module segment = .binds b) :
    bindings ⟨module, segment :: segments⟩ = b :: bindings ⟨module, segments⟩ := by
  simp only [bindings, readings, List.map_cons, h]
  rfl

theorem bindings_cons_of_malformed {text : String}
    (h : readSegment module segment = .malformed text) :
    bindings ⟨module, segment :: segments⟩ = bindings ⟨module, segments⟩ := by
  simp only [bindings, readings, List.map_cons, h]
  rfl

theorem skipped_cons_of_binds {b : Binding} (h : readSegment module segment = .binds b) :
    skipped ⟨module, segment :: segments⟩ = skipped ⟨module, segments⟩ := by
  simp only [skipped, readings, List.map_cons, h]
  rfl

theorem skipped_cons_of_malformed {text : String}
    (h : readSegment module segment = .malformed text) :
    skipped ⟨module, segment :: segments⟩ = text :: skipped ⟨module, segments⟩ := by
  simp only [skipped, readings, List.map_cons, h]
  rfl

end Segments

variable (ns : Names)

/-- Where nothing is skipped, all that a list says is its bindings. -/
theorem readings_of_skipped_eq_nil (h : ns.skipped = []) :
    ns.readings = ns.bindings.map .binds := by
  rw [skipped, List.filterMap_eq_nil_iff] at h
  rw [bindings]
  generalize ns.readings = readings at h
  induction readings with
  | nil => rfl
  | cons reading readings ih =>
    obtain ⟨h, hs⟩ := List.forall_mem_cons.1 h
    cases reading with
    | binds b => exact congrArg (.binds b :: ·) (ih hs)
    | malformed text => cases h

/-- The bindings of a list are the one that the next step stops at, and those after it. -/
theorem bindings_eq_next : ns.bindings = ns.next.binding?.toList ++ ns.next.rest.bindings := by
  fun_induction next ns with
  | case1 => rfl
  | case2 _ _ _ b h => exact bindings_cons_of_binds h
  | case3 _ _ _ _ h _ ih => exact (bindings_cons_of_malformed h).trans ih

/-- The texts that a list skips are those that the next step skips, and those after it. -/
theorem skipped_eq_next : ns.skipped = ns.next.skipped ++ ns.next.rest.skipped := by
  fun_induction next ns with
  | case1 => rfl
  | case2 _ _ _ b h => exact skipped_cons_of_binds h
  | case3 _ _ _ _ h _ ih => exact (skipped_cons_of_malformed h).trans (congrArg _ ih)

/-- A step that stops at no binding has visited everything. -/
theorem segments_of_next_eq_none (h : ns.next.binding? = none) : ns.next.rest.segments = [] := by
  fun_induction next ns with
  | case1 => rfl
  | case2 => cases h
  | case3 _ _ _ _ _ _ ih => exact ih h

/-- Read to the end, a list brings the bindings of its segments and skips the texts of the others,
    all of them once and in order. -/
theorem drain_eq : ns.drain = (ns.bindings, ns.skipped) := by
  fun_induction drain ns with
  | case1 ns h =>
    -- There is nothing behind the last step.
    have hrest := segments_of_next_eq_none ns h
    rw [bindings_eq_next ns, skipped_eq_next ns, h]
    simp [bindings, skipped, readings, hrest]
  | case2 ns b h bs texts hdrain ih =>
    obtain ⟨rfl, rfl⟩ := Prod.mk.inj (hdrain.symm.trans ih)
    rw [bindings_eq_next ns, skipped_eq_next ns, h]
    rfl

end AutoImport.Names
