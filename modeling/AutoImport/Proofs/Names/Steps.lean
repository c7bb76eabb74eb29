import AutoImport.Event
import AutoImport.Proofs.Names
import AutoImport.Proofs.Text.Separated
import Mathlib.Data.List.Forall2

/-!
# What comes out of a list of names

When a list of names is read, bindings are given back and messages are logged. Every segment emits
one of the two, which one is decided by its words (`Emits`), and a step emits it when it passes the
segment (`Names.Passes`). So nothing is left out, nothing comes twice, and everything comes in the
order of the segments (`Names.drain_accounts_for_segments`), however often the reader has stopped
on the way:

* what steps have emitted, and what the rest is going to, is what the segments emit
  (`Names.emissions_eq_steps`);
* each step that stops at a binding takes one off those to come (`Names.bindings_after`);
* where one step has found no binding there is nothing left to pass (`Names.segments_after`).

A list is a value. A clone of it has the same steps to take, and whoever takes them leaves the
others alone (`Names.readInTurns_eq`).
-/

namespace AutoImport

/-- What comes out when a list of names is read. -/
inductive Emission where
  /-- A binding is given back. -/
  | returned (b : Binding)
  /-- A message is logged. -/
  | logged (message : String)
  deriving DecidableEq, Repr

namespace Emission

/-- The binding that is given back, if one is. -/
def binding? : Emission → Option Binding
  | returned b => some b
  | logged _ => none

/-- The message that is logged, if one is. -/
def message? : Emission → Option String
  | returned _ => none
  | logged message => some message

end Emission

/-- What a segment emits, by its words. -/
inductive Emits (module : String) (segment : List Char) : Emission → Prop
  /-- A word alone is bound under itself. -/
  | plain {name} : Text.words segment = [name] →
    Emits module segment (.returned ⟨module, .ofList name, .ofList name⟩)
  /-- A word is bound under the one behind `as`. -/
  | renamed {name localName} : Text.words segment = [name, "as".toList, localName] →
    Emits module segment (.returned ⟨module, .ofList name, .ofList localName⟩)
  /-- Whatever else stands in a segment is logged. -/
  | malformed : (∀ name, Text.words segment ≠ [name]) →
    (∀ name localName, Text.words segment ≠ [name, "as".toList, localName]) →
    Emits module segment
      (.logged ("skipping malformed import name '" ++ .ofList (Text.trim segment) ++ "'"))

/-- What comes out when a segment is read. -/
def SegmentReading.emission : SegmentReading → Emission
  | binds b => .returned b
  | malformed text => .logged (Event.malformedName text).message

/-- A segment emits one thing, which is what comes out when it is read. -/
theorem emits_iff {module : String} {segment : List Char} {e : Emission} :
    Emits module segment e ↔ e = (readSegment module segment).emission := by
  constructor
  · rintro (hwords | hwords | ⟨hplain, hrenamed⟩)
    · rw [readSegment, hwords]
      rfl
    · rw [readSegment, hwords]
      rfl
    · rw [readSegment]
      split
      · rename_i name hwords
        exact absurd hwords (hplain name)
      · rename_i name localName hwords
        exact absurd hwords (hrenamed name localName)
      · rfl
  · rintro rfl
    rw [readSegment]
    split
    · rename_i name hwords
      exact .plain hwords
    · rename_i name localName hwords
      exact .renamed hwords
    · rename_i hplain hrenamed
      exact .malformed hplain hrenamed

/-- Segments emit, one by one, what comes out when they are read. -/
theorem forall₂_emits_iff {module : String} {segments : List (List Char)}
    {emissions : List Emission} : List.Forall₂ (Emits module) segments emissions ↔
      emissions = segments.map fun segment => (readSegment module segment).emission := by
  induction segments generalizing emissions with
  | nil => cases emissions <;> simp
  | cons segment segments ih =>
    cases emissions with
    | nil => simp
    | cons e emissions => simp [emits_iff, ih]

namespace Names

/-! ## Steps -/

/-- What a step emits: a message for each segment that it skips, and the binding that it
    stops at. -/
def Step.emissions (step : Step) : List Emission :=
  step.skipped.map (fun text => .logged (Event.malformedName text).message) ++
    step.binding?.toList.map .returned

/-- So many steps, one after the other. -/
def steps : Nat → Names → List Step
  | 0, _ => []
  | count + 1, ns => ns.next :: steps count ns.next.rest

/-- What is left after so many steps. -/
def after : Nat → Names → Names
  | 0, ns => ns
  | count + 1, ns => after count ns.next.rest

/-- What comes out when a list is read to its end: in a step for each binding, and in the one that
    finds no more. -/
def drained (ns : Names) : List Emission :=
  (ns.steps (ns.drain.1.length + 1)).flatMap Step.emissions

/-- What the segments still to be visited emit. -/
def emissions (ns : Names) : List Emission :=
  ns.readings.map SegmentReading.emission

/-- The next step passes some segments, and emits what each of them does: messages, and in the end
    the binding that it stops at. Without one it passes all that are left. -/
structure Passes (ns : Names) (passed : List (List Char)) : Prop where
  segments : ns.segments = passed ++ ns.next.rest.segments
  module : ns.next.rest.module = ns.module
  emits : List.Forall₂ (Emits ns.module) passed ns.next.emissions
  atEnd : ns.next.binding? = none → ns.next.rest.segments = []

variable {ns : Names}

theorem exists_passes (ns : Names) : ∃ passed, ns.Passes passed := by
  fun_induction next ns with
  | case1 module =>
    have hnext : next ⟨module, []⟩ = ⟨[], none, ⟨module, []⟩⟩ := by rw [next]
    refine ⟨[], ?_, ?_, ?_, ?_⟩ <;> rw [hnext]
    · rfl
    · exact .nil
    · exact fun _ => rfl
  | case2 module segment segments b h =>
    have hnext : next ⟨module, segment :: segments⟩ = ⟨[], some b, ⟨module, segments⟩⟩ := by
      rw [next, h]
    refine ⟨[segment], ?_, ?_, ?_, ?_⟩ <;> rw [hnext]
    · rfl
    · exact .cons (emits_iff.2 (by rw [h]; rfl)) .nil
    · exact fun hnone => by cases hnone
  | case3 module segment segments text h step ih =>
    obtain ⟨passed, hpassed⟩ := ih
    have hnext : next ⟨module, segment :: segments⟩ =
        { step with skipped := text :: step.skipped } := by rw [next, h]
    refine ⟨segment :: passed, ?_, ?_, ?_, ?_⟩ <;> rw [hnext]
    · exact congrArg (segment :: ·) hpassed.segments
    · exact hpassed.module
    · exact .cons (emits_iff.2 (by rw [h]; rfl)) hpassed.emits
    · exact hpassed.atEnd

/-- What a list emits is what the next step does, and what is behind it. -/
theorem emissions_eq_next (ns : Names) :
    ns.emissions = ns.next.emissions ++ ns.next.rest.emissions := by
  obtain ⟨passed, h⟩ := ns.exists_passes
  rw [forall₂_emits_iff.1 h.emits, emissions, readings, emissions, readings, h.segments, h.module]
  simp

/-- What a list emits is what so many steps do, and what is behind them. -/
theorem emissions_eq_steps (count : Nat) (ns : Names) :
    ns.emissions = (ns.steps count).flatMap Step.emissions ++ (ns.after count).emissions := by
  induction count generalizing ns with
  | zero => rfl
  | succ count ih =>
    rw [emissions_eq_next, ih ns.next.rest, steps, after, List.flatMap_cons, List.append_assoc]

/-! ## The end of a list -/

/-- Where no segment is left, a step does nothing. -/
theorem next_of_segments_eq_nil (h : ns.segments = []) : ns.next = ⟨[], none, ns⟩ := by
  obtain ⟨module, segments⟩ := ns
  obtain rfl : segments = [] := h
  rw [next]

theorem after_of_segments_eq_nil (h : ns.segments = []) (count : Nat) : ns.after count = ns := by
  induction count with
  | zero => rfl
  | succ count ih => rw [after, next_of_segments_eq_nil h, ih]

/-- Where a step has found no binding, no later one finds any. -/
theorem binding?_next_after (h : ns.next.binding? = none) (count : Nat) :
    (ns.after count).next.binding? = none := by
  cases count with
  | zero => exact h
  | succ count =>
    have hnil := segments_of_next_eq_none ns h
    rw [after, after_of_segments_eq_nil hnil, next_of_segments_eq_nil hnil]

/-- The bindings that are still to come are those that have not been given back. -/
theorem bindings_after (count : Nat) (ns : Names) :
    (ns.after count).bindings = ns.bindings.drop count := by
  induction count generalizing ns with
  | zero => rfl
  | succ count ih =>
    rw [after, ih, bindings_eq_next ns]
    cases h : ns.next.binding? with
    | none =>
      -- Nothing is left after such a step.
      have hnil := segments_of_next_eq_none ns h
      simp [bindings, readings, hnil]
    | some b => rfl

/-- More steps than there are bindings have passed everything. -/
theorem segments_after {count : Nat} (h : ns.bindings.length < count) :
    (ns.after count).segments = [] := by
  induction count generalizing ns with
  | zero => exact absurd h (Nat.not_lt_zero _)
  | succ count ih =>
    rw [after]
    rw [bindings_eq_next] at h
    cases hnext : ns.next.binding? with
    | none =>
      have hnil := segments_of_next_eq_none ns hnext
      rw [after_of_segments_eq_nil hnil, hnil]
    | some b =>
      rw [hnext, Option.toList_some, List.length_append, List.length_singleton] at h
      exact ih (by omega)

/-- Each step of reading to the end stops at a binding, but for the last. -/
theorem binding?_steps (ns : Names) :
    (ns.steps (ns.bindings.length + 1)).map (·.binding?) = ns.bindings.map some ++ [none] := by
  generalize hcount : ns.bindings.length = count
  induction count generalizing ns with
  | zero =>
    have hnil := List.length_eq_zero_iff.1 hcount
    have hnext := List.append_eq_nil_iff.1 ((bindings_eq_next ns).symm.trans hnil)
    simpa [hnil, steps] using hnext.1
  | succ count ih =>
    rw [bindings_eq_next] at hcount ⊢
    rw [steps, List.map_cons]
    cases hnext : ns.next.binding? with
    | none =>
      -- Without a binding here there would be none at all.
      have hnil := segments_of_next_eq_none ns hnext
      simp [hnext, bindings, readings, hnil] at hcount
    | some b =>
      rw [hnext, Option.toList_some, List.length_append, List.length_singleton] at hcount
      rw [ih ns.next.rest (by omega)]
      rfl

/-- What comes out of a list is what its segments emit. -/
theorem drained_eq (ns : Names) : ns.drained = ns.emissions := by
  rw [drained, drain_eq, emissions_eq_steps (ns.bindings.length + 1)]
  simp [emissions, readings, segments_after (Nat.lt_succ_self _)]

theorem filterMap_binding?_emissions (ns : Names) :
    ns.emissions.filterMap Emission.binding? = ns.bindings := by
  rw [emissions, bindings, List.filterMap_map]
  congr 1
  funext reading
  cases reading <;> rfl

theorem filterMap_message?_emissions (ns : Names) :
    ns.emissions.filterMap Emission.message? =
      ns.skipped.map fun text => (Event.malformedName text).message := by
  rw [emissions, skipped, List.filterMap_map, List.map_filterMap]
  congr 1
  funext reading
  cases reading <;> rfl

/-! ## Clones -/

/-- Who takes a step: the owner of a list, or the owner of a clone of it. -/
inductive Turn where
  | list
  | clone
  deriving DecidableEq

/-- The steps of a list and those of a clone, taken in turns. -/
def readInTurns : List Turn → Names → Names → List Step × List Step
  | [], _, _ => ([], [])
  | .list :: turns, ns, clone =>
    let (steps, cloneSteps) := readInTurns turns ns.next.rest clone
    (ns.next :: steps, cloneSteps)
  | .clone :: turns, ns, clone =>
    let (steps, cloneSteps) := readInTurns turns ns clone.next.rest
    (steps, clone.next :: cloneSteps)

/-- Whatever the turns are, each of the two takes its own steps. -/
theorem readInTurns_eq (turns : List Turn) (ns clone : Names) :
    readInTurns turns ns clone =
      (ns.steps (turns.count .list), clone.steps (turns.count .clone)) := by
  fun_induction readInTurns turns ns clone with
  | case1 => rfl
  | case2 turns ns clone steps cloneSteps hsteps ih =>
    obtain ⟨rfl, rfl⟩ := Prod.mk.inj (hsteps.symm.trans ih)
    simp [Names.steps]
  | case3 turns ns clone steps cloneSteps hsteps ih =>
    obtain ⟨rfl, rfl⟩ := Prod.mk.inj (hsteps.symm.trans ih)
    simp [Names.steps]

/-! ## Texts -/

theorem emissions_ofText (module names : String) : (ofText module names).emissions =
    (names.toList.splitOn ',').map fun segment => (readSegment module segment).emission := by
  rw [emissions, readings, List.map_map]
  rfl

/-- Two texts with a comma between them emit what the first does, and then what the second does. -/
theorem emissions_ofText_append (module names more : String) :
    (ofText module (names ++ "," ++ more)).emissions =
      (ofText module names).emissions ++ (ofText module more).emissions := by
  have htext : (names ++ "," ++ more).toList = names.toList ++ ',' :: more.toList := by simp
  rw [emissions_ofText, emissions_ofText, emissions_ofText, htext, List.splitOn_append_cons_self,
    List.map_append]

/-- A list of names read to its end emits for each segment, in order, what the words of the segment
    say, one thing for each comma and one more; and what comes out of two texts with a comma between
    them is what comes out of the one and then of the other. At any time the next step passes some
    segments and emits what they do, nothing that came out before comes again, the bindings still to
    come are those not given back, a clone is read independently of the list, and where no binding
    has come none comes any more. -/
theorem drain_accounts_for_segments (module names : String) :
    let ns : Names := ofText module names
    List.Forall₂ (Emits module) (names.toList.splitOn ',') ns.drained ∧
    ns.drained.length = names.toList.count ',' + 1 ∧
    (ns.steps (ns.drain.1.length + 1)).map (·.binding?) = ns.drain.1.map some ++ [none] ∧
    ns.drained.filterMap Emission.binding? = ns.drain.1 ∧
    ns.drained.filterMap Emission.message? =
      ns.drain.2.map (fun text => (Event.malformedName text).message) ∧
    (∀ more : String, (ofText module (names ++ "," ++ more)).drained =
      ns.drained ++ (ofText module more).drained) ∧
    ∀ count,
      let left := ns.after count
      (∃ passed, left.Passes passed) ∧
      (ns.steps count).flatMap Step.emissions ++ left.drained = ns.drained ∧
      left.drain.1 = ns.drain.1.drop count ∧
      (∀ turns, readInTurns turns left left =
        (left.steps (turns.count .list), left.steps (turns.count .clone))) ∧
      (left.next.binding? = none → ∀ more, (left.after more).next.binding? = none) := by
  intro ns
  simp only [drained_eq, drain_eq]
  have hemissions : ns.emissions = _ := emissions_ofText module names
  refine ⟨forall₂_emits_iff.2 hemissions, ?_, ns.binding?_steps, ns.filterMap_binding?_emissions,
    ns.filterMap_message?_emissions, emissions_ofText_append module names, fun count =>
    ⟨exists_passes _, (emissions_eq_steps count ns).symm, bindings_after count ns,
      fun turns => readInTurns_eq turns _ _, binding?_next_after⟩⟩
  rw [hemissions, List.length_map, length_splitOn]

/-- Nothing before the first comma, a name that is called `as`, and something malformed behind the
    last comma, which the step that finds no more bindings passes. -/
theorem drain_accounts_for_segments_untidy :
    let ns := ofText "m" ",as, b as c ,x  y "
    ns.drained = [.logged "skipping malformed import name ''", .returned ⟨"m", "as", "as"⟩,
      .returned ⟨"m", "b", "c"⟩, .logged "skipping malformed import name 'x  y'"] ∧
    (ns.after 2).next.binding? = none ∧
    ∀ more, ((ns.after 2).after more).next.binding? = none := by
  intro ns
  have hnone : (ns.after 2).next.binding? = none := by decide +kernel
  have hcount := drain_accounts_for_segments "m" ",as, b as c ,x  y "
  exact ⟨by decide +kernel, hnone, (hcount.2.2.2.2.2.2 2).2.2.2.2 hnone⟩

end Names

end AutoImport
