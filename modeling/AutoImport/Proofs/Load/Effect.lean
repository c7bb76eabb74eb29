import AutoImport.Proofs.Line.Grammar
import AutoImport.Proofs.Load.Lines

/-!
# What lines do to a load

A load is a loop that changes five things at once: what the keeper of names has been told, what was
said and noted down, two counts, and the lines outside the grammar. A turn of it only ever adds to
them, and what it adds does not depend on what is there (`Effect`, `Load.add`). The counts are those
of what the keeper was told.

* `Load.takeBinding_eq`, `Load.takeLine_eq`: what one binding and one line add;
* `Load.takeLines_eq`: a load adds what its readable lines add, in order, and then ends.

So everything about the load of a file follows from what its lines add, and from how it ends; and it
can end in two ways only, whatever was opened (`Load.ofOpened_ends`).
-/

namespace AutoImport

/-- Whether a registration is that of another local name. -/
def Registration.isRename : Registration → Bool
  | name _ _ => false
  | rename _ _ => true

/-- The bindings of a line, if it is a statement. -/
def LineMeaning.bindings : LineMeaning → List Binding
  | statement names => names.bindings
  | _ => []

/-- A line that means a statement is one, without the blanks around it. -/
theorem LineMeaning.readLine?_of_statement {line : String} {names : Names}
    (h : ofLine line = .statement names) :
    readLine? (.ofList (Text.trim line.toList)) = some names := by
  rw [ofLine] at h
  split at h
  · cases h
  · split at h <;> cases h
    assumption

/-- A line outside the grammar, numbered with a number of further lines before it. -/
def UnrecognizedLine.behind (lines : Nat) (line : UnrecognizedLine) : UnrecognizedLine :=
  { line with number := lines + line.number }

/-! ## Effects -/

/-- What is added to a load, the counts being those of the registrations. -/
structure Effect where
  registrations : List Registration := []
  notices : List Notice := []
  unrecognized : List UnrecognizedLine := []

namespace Effect

/-- Several effects, one after the other. -/
def join (es : List Effect) : Effect :=
  ⟨es.flatMap (·.registrations), es.flatMap (·.notices), es.flatMap (·.unrecognized)⟩

/-- What a binding adds. -/
def ofBinding (b : Binding) : Effect :=
  { registrations := b.registrations, notices := [.shown b.label] }

/-- What the line with a number adds. -/
def ofLine (path : String) (number : Nat) (line : String) : Effect :=
  match LineMeaning.ofLine line with
  | .idle => {}
  | .unrecognized text =>
    { notices := [.logged (.unrecognized path number)], unrecognized := [⟨number, text⟩] }
  | .statement names => join (names.bindings.map ofBinding)

/-- What the lines from a number on add, each on its own. -/
def ofLines (path : String) (number : Nat) (lines : List String) : List Effect :=
  (lines.zipIdx number).map fun line => ofLine path line.2 line.1

theorem join_append (es es' : List Effect) :
    join (es ++ es') = ⟨(join es).registrations ++ (join es').registrations,
      (join es).notices ++ (join es').notices,
      (join es).unrecognized ++ (join es').unrecognized⟩ := by
  simp only [join, List.flatMap_append]

theorem ofLines_append (path : String) (number : Nat) (lines lines' : List String) :
    ofLines path number (lines ++ lines') =
      ofLines path number lines ++ ofLines path (lines.length + number) lines' := by
  rw [ofLines, List.zipIdx_append, List.map_append, Nat.add_comm]
  rfl

theorem ofLines_cons (path : String) (number : Nat) (line : String) (lines : List String) :
    ofLines path number (line :: lines) =
      ofLine path number line :: ofLines path (number + 1) lines :=
  rfl

/-- Joined effects of bindings register what the bindings register, show their labels, and list no
    line. -/
theorem join_map_ofBinding (bs : List Binding) :
    join (bs.map ofBinding) = ⟨bs.flatMap (·.registrations), bs.map (.shown ·.label), []⟩ := by
  simp [join, ofBinding, List.flatMap_map, ← List.map_eq_flatMap]

/-- A statement registers what its bindings register, and shows their labels. -/
theorem ofLine_of_statement {path line : String} {number : Nat} {names : Names}
    (h : LineMeaning.ofLine line = .statement names) :
    ofLine path number line =
      ⟨names.bindings.flatMap (·.registrations), names.bindings.map (.shown ·.label), []⟩ := by
  rw [ofLine, h]
  exact join_map_ofBinding names.bindings

/-- A line registers what its bindings register. -/
theorem registrations_ofLine (path : String) (number : Nat) (line : String) :
    (ofLine path number line).registrations =
      (LineMeaning.ofLine line).bindings.flatMap (·.registrations) := by
  cases h : LineMeaning.ofLine line with
  | idle => rw [ofLine, h]; rfl
  | unrecognized text => rw [ofLine, h]; rfl
  | statement names => rw [ofLine_of_statement h]; rfl

/-- What the effects of lines have of a kind, if it does not depend on the number of a line, is what
    each of the lines has of it. -/
theorem flatMap_ofLines {α : Type} {path : String} {part : Effect → List α}
    {partOf : String → List α} (h : ∀ number line, part (ofLine path number line) = partOf line)
    (number : Nat) (lines : List String) :
    (ofLines path number lines).flatMap part = lines.flatMap partOf := by
  induction lines generalizing number with
  | nil => rfl
  | cons line lines ih =>
    rw [ofLines_cons, List.flatMap_cons, List.flatMap_cons, h, ih]

/-- Lines register what their bindings register. -/
theorem registrations_join_ofLines (path : String) (number : Nat) (lines : List String) :
    (join (ofLines path number lines)).registrations =
      (lines.flatMap fun line => (LineMeaning.ofLine line).bindings).flatMap (·.registrations) := by
  rw [List.flatMap_assoc]
  exact flatMap_ofLines (registrations_ofLine path) number lines

/-- A line shows the labels of its bindings. -/
theorem shown_ofLine (path : String) (number : Nat) (line : String) :
    (ofLine path number line).notices.filterMap Notice.shown? =
      (LineMeaning.ofLine line).bindings.map (·.label) := by
  cases h : LineMeaning.ofLine line with
  | idle => rw [ofLine, h]; rfl
  | unrecognized text => rw [ofLine, h]; rfl
  | statement names =>
    rw [ofLine_of_statement h, List.filterMap_map]
    exact congrFun List.filterMap_eq_map _

/-- Lines show the labels of their bindings. -/
theorem shown_join_ofLines (path : String) (number : Nat) (lines : List String) :
    (join (ofLines path number lines)).notices.filterMap Notice.shown? =
      (lines.flatMap fun line => (LineMeaning.ofLine line).bindings).map (·.label) := by
  rw [List.map_flatMap, join, List.filterMap_flatMap]
  exact flatMap_ofLines (shown_ofLine path) number lines

/-- A line is noted down in the log if it is outside the grammar. -/
theorem logged_ofLine (path : String) (number : Nat) (line : String) :
    (ofLine path number line).notices.filterMap Notice.logged? =
      (ofLine path number line).unrecognized.map fun l => .unrecognized path l.number := by
  cases h : LineMeaning.ofLine line with
  | idle => rw [ofLine, h]; rfl
  | unrecognized text => rw [ofLine, h]; rfl
  | statement names =>
    rw [ofLine_of_statement h, List.filterMap_map, List.map_nil, List.filterMap_eq_nil_iff]
    exact fun _ _ => rfl

/-- Of lines, those outside the grammar are noted down in the log. -/
theorem logged_join_ofLines (path : String) (number : Nat) (lines : List String) :
    (join (ofLines path number lines)).notices.filterMap Notice.logged? =
      (join (ofLines path number lines)).unrecognized.map fun l => .unrecognized path l.number := by
  simp only [join, List.filterMap_flatMap, List.map_flatMap, ofLines, List.flatMap_map,
    logged_ofLine]

/-- No line is listed unless one is outside the grammar. -/
theorem unrecognized_join_ofLines_eq_nil {lines : List String}
    (h : ∀ line ∈ lines, ∀ text, LineMeaning.ofLine line ≠ .unrecognized text) (path : String)
    (number : Nat) : (join (ofLines path number lines)).unrecognized = [] := by
  induction lines generalizing number with
  | nil => rfl
  | cons line lines ih =>
    obtain ⟨hline, hlines⟩ := List.forall_mem_cons.1 h
    have hnil : (ofLine path number line).unrecognized = [] := by
      cases hmeaning : LineMeaning.ofLine line with
      | idle => rw [ofLine, hmeaning]
      | unrecognized text => exact absurd hmeaning (hline text)
      | statement names => rw [ofLine_of_statement hmeaning]
    exact (congrArg (· ++ _) hnil).trans (ih hlines (number + 1))

/-- With more lines before it, a line is listed with a higher number. -/
theorem unrecognized_ofLine_add (path path' : String) (before number : Nat) (line : String) :
    (ofLine path (before + number) line).unrecognized =
      (ofLine path' number line).unrecognized.map (·.behind before) := by
  cases h : LineMeaning.ofLine line with
  | idle => rw [ofLine, ofLine, h]; rfl
  | unrecognized text => rw [ofLine, ofLine, h]; rfl
  | statement names => rw [ofLine_of_statement h, ofLine_of_statement h]; rfl

/-- With more lines before them, lines are listed with higher numbers. -/
theorem unrecognized_join_ofLines_add (path path' : String) (before number : Nat)
    (lines : List String) :
    (join (ofLines path (before + number) lines)).unrecognized =
      (join (ofLines path' number lines)).unrecognized.map (·.behind before) := by
  simp only [join]
  induction lines generalizing number with
  | nil => rfl
  | cons line lines ih =>
    rw [ofLines_cons, ofLines_cons, List.flatMap_cons, List.flatMap_cons, List.map_append,
      unrecognized_ofLine_add path path', Nat.add_assoc, ih]

end Effect

/-! ## Loads that grow -/

namespace Load

/-- The load with an effect added. -/
def add (load : Load) (e : Effect) : Load :=
  { load with
    registrations := load.registrations ++ e.registrations
    notices := load.notices ++ e.notices
    imports := load.imports + e.registrations.countP (!·.isRename)
    aliases := load.aliases + e.registrations.countP (·.isRename)
    unrecognized := load.unrecognized ++ e.unrecognized }

variable (load : Load)

@[simp] theorem add_empty : load.add {} = load := by
  simp [add]

@[simp] theorem add_join_nil : load.add (.join []) = load :=
  add_empty load

/-- The first of several effects is added first. -/
theorem add_join_cons (e : Effect) (es : List Effect) :
    load.add (.join (e :: es)) = (load.add e).add (.join es) := by
  simp [add, Effect.join, Nat.add_assoc]

/-- What a binding adds. -/
theorem takeBinding_eq (b : Binding) : load.takeBinding b = load.add (.ofBinding b) := by
  by_cases h : b.renames <;>
    simp [takeBinding, add, note, register, Effect.ofBinding, Binding.registrations, h,
      Registration.isRename]

/-- What bindings add, taken one after the other. -/
theorem foldl_takeReading (bs : List Binding) :
    (bs.map .binds).foldl takeReading load = load.add (.join (bs.map .ofBinding)) := by
  induction bs generalizing load with
  | nil => exact (add_join_nil load).symm
  | cons b bs ih =>
    have hb : load.takeReading (.binds b) = load.add (.ofBinding b) := takeBinding_eq load b
    rw [List.map_cons, List.foldl_cons, hb, ih, List.map_cons, add_join_cons]

/-- What a line adds. -/
theorem takeLine_eq (number : Nat) (line : String) :
    load.takeLine number line = load.add (.ofLine load.path number line) := by
  rw [takeLine, Effect.ofLine]
  cases h : LineMeaning.ofLine line with
  | idle => exact (add_empty load).symm
  | unrecognized text => simp [add, note]
  | statement names =>
    -- Nothing is skipped, so that all that the names say is bindings.
    have hread := LineMeaning.readLine?_of_statement h
    have hreadings := names.readings_of_skipped_eq_nil (skipped_of_readLine? hread)
    exact (congrArg (List.foldl takeReading load) hreadings).trans (foldl_takeReading load _)

/-- Lines are taken up to the first that is not UTF-8, and the load ends there, or behind them. -/
theorem takeLines_eq (fault? : Option OsError) (number : Nat) (lines : List (List UInt8)) :
    takeLines fault? number lines load =
      let taken := load.add (.join (Effect.ofLines load.path number (readable lines)))
      if ∀ line ∈ lines, isReadable line then
        fault?.elim taken.finish (taken.stop (number + lines.length))
      else taken.stop (number + (readable lines).length) .invalidUtf8 := by
  induction lines generalizing number load with
  | nil => simp [takeLines, readable, Effect.ofLines]
  | cons line lines ih =>
    rw [takeLines]
    cases h : decodeLine line with
    | none =>
      have hr : ¬isReadable line := by simp [isReadable, h]
      simp [readable_cons_of_eq_none h, Effect.ofLines, hr]
    | some text =>
      have hr : isReadable line := by simp [isReadable, h]
      have hpath : (load.takeLine number text).path = load.path := by rw [takeLine_eq]; rfl
      -- The line is taken first, and the others are taken from the next number on.
      rw [readable_cons_of_eq_some h, Effect.ofLines_cons, add_join_cons, ← takeLine_eq]
      simp only [ih, hpath, List.forall_mem_cons, hr, true_and, List.length_cons, Nat.add_assoc,
        Nat.add_comm 1]

/-- Whatever was opened, its load takes in the lines that it gets to see, and then it comes to the
    end of the file, or it fails, which is no more than a detail for the log. -/
theorem ofOpened_ends (path : String) (opened : Opened) :
    let taken := (start path).add (.join (Effect.ofLines path 1 (readable opened.lines)))
    ofOpened path opened = taken.finish ∨
      ∃ event cause, event.level = .debug ∧ ofOpened path opened = taken.fail event cause := by
  intro taken
  have hlines (fault? : Option OsError) (lines : List (List UInt8)) :
      let taken := (start path).add (.join (Effect.ofLines path 1 (readable lines)))
      takeLines fault? 1 lines (start path) = taken.finish ∨ ∃ event cause,
        event.level = .debug ∧ takeLines fault? 1 lines (start path) = taken.fail event cause := by
    intro taken
    rw [takeLines_eq]
    split
    · cases fault? with
      | none => exact .inl rfl
      | some cause => exact .inr ⟨.stopped path _ cause, cause, rfl, rfl⟩
    · exact .inr ⟨.stopped path _ .invalidUtf8, .invalidUtf8, rfl, rfl⟩
  cases opened with
  | refused cause => exact .inr ⟨.notLoaded path cause, cause, rfl, rfl⟩
  | broken bytes cause => exact hlines (some cause) (completeLines bytes)
  | content bytes => exact hlines none (splitLines bytes)

end Load

end AutoImport
