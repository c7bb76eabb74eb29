import AutoImport.Proofs.Load.Stop
import AutoImport.Proofs.Table.Loads

/-!
# Loads that are followed

A load says what it does while it goes. Whoever wants to follow it has the label of each binding
written as a line to a stream of diagnostics, before the keeper of names is told of the binding, and
a failure too. A `Loader` has all of this in one loop, with any keeper of names and any stream. The
stream may refuse a line at any time, all of it or what is left of it, and the loop goes on.

Still the loop is the load that just writes down what is told and what is shown:

* `Loader.takeLine_follow`: taking in a line commutes with telling and showing all that was written
  down (`Loader.follow`);
* `Loader.run_eq_follow`: so a whole load has told and shown what is written down;
* `Loader.run_congr`: nothing but the stream depends on whether the load is followed, and on what
  the stream makes of a line;
* `Load.shown_ofOpened`: the lines that are shown.
-/

namespace AutoImport

/-- The lines that a load shows of what was opened under a path: the labels of the bindings in it,
    and then the cause, if the load fails. -/
def Opened.shownLines (opened : Opened) (path : String) (fault? : Option OsError) : List String :=
  opened.bindings.map (·.label) ++
    (fault?.map fun cause => "Failed to load " ++ path ++ ": " ++ cause.message).toList

theorem Load.shown_ofOpened (path : String) (opened : Opened) :
    (ofOpened path opened).notices.filterMap Notice.shown? =
      opened.shownLines path (ofOpened path opened).fault? := by
  rw [Opened.shownLines, Opened.bindings, ← Effect.shown_join_ofLines path 1]
  obtain h | ⟨event, cause, -, h⟩ := ofOpened_ends path opened
  · rw [h, notices_finish, List.filterMap_append]
    rfl
  · rw [h, notices_fail, List.filterMap_append]
    rfl

/-- How a file is loaded: for which keeper of names, and for which stream of diagnostics. -/
structure Loader (κ ω : Type) where
  /-- Whether somebody wants to follow the load. -/
  verbose : Bool
  /-- Tells the keeper of names something. -/
  tell : κ → Registration → κ
  /-- Writes a line to the stream of diagnostics, if that takes it. -/
  writeLine : String → EStateM OsError ω Unit

/-- A load that is followed, as far as it has come. -/
structure Progress (κ ω : Type) where
  keeper : κ
  diagnostics : ω
  log : List Event
  report : Report
  fault? : Option OsError

namespace Loader

variable {κ ω : Type} (l : Loader κ ω)

/-! ## The loop -/

/-- The stream after a line, whether it has taken the line or not. -/
def offer (stream : ω) (text : String) : ω :=
  match (l.writeLine text).run stream with
  | .ok _ stream => stream
  | .error _ stream => stream

/-- Shows a line, if somebody wants to see it. -/
def diagnose (p : Progress κ ω) (text : String) : Progress κ ω :=
  if l.verbose then { p with diagnostics := l.offer p.diagnostics text } else p

/-- Passes a binding on. -/
def takeBinding (p : Progress κ ω) (b : Binding) : Progress κ ω :=
  let p := l.diagnose p b.label
  let p := { p with
    keeper := l.tell p.keeper (.name b.name b.module)
    report := { p.report with imports := p.report.imports + 1 } }
  if b.renames then
    { p with
      keeper := l.tell p.keeper (.rename b.localName b.name)
      report := { p.report with aliases := p.report.aliases + 1 } }
  else p

/-- Passes on what a segment of a list of names binds. -/
def takeReading (p : Progress κ ω) : SegmentReading → Progress κ ω
  | .binds b => l.takeBinding p b
  | .malformed text => { p with log := p.log ++ [.malformedName text] }

/-- Takes in the line with a number. -/
def takeLine (p : Progress κ ω) (number : Nat) (line : String) : Progress κ ω :=
  match LineMeaning.ofLine line with
  | .idle => p
  | .unrecognized text =>
    { p with
      log := p.log ++ [.unrecognized p.report.path number]
      report := { p.report with unrecognized := p.report.unrecognized ++ [⟨number, text⟩] } }
  | .statement names => names.readings.foldl l.takeReading p

/-- Ends early. -/
def fail (p : Progress κ ω) (event : Event) (cause : OsError) : Progress κ ω :=
  let p := l.diagnose { p with log := p.log ++ [event] }
    ("Failed to load " ++ p.report.path ++ ": " ++ cause.message)
  { p with fault? := some cause }

/-- Ends at the end of the file. -/
def finish (p : Progress κ ω) : Progress κ ω :=
  { p with
    log := p.log ++ [.loaded p.report.path p.report.imports p.report.aliases]
    report := { p.report with fileRead := true } }

/-- Ends early at the line with a number. -/
def stop (p : Progress κ ω) (number : Nat) (cause : OsError) : Progress κ ω :=
  l.fail p (.stopped p.report.path number cause) cause

/-- Takes in the lines from a number on, up to the first that is not UTF-8. Behind the last line is
    the end of the file, or a line that cannot be read for some cause. -/
def takeLines (fault? : Option OsError) (number : Nat) :
    List (List UInt8) → Progress κ ω → Progress κ ω
  | [], p => fault?.elim (finish p) (l.stop p number)
  | line :: lines, p =>
    match decodeLine line with
    | none => l.stop p number .invalidUtf8
    | some text => takeLines fault? (number + 1) lines (l.takeLine p number text)

/-- Loads what was opened under a path, with what the keeper of names has kept before and what is on
    the stream. -/
def run (path : String) (opened : Opened) (keeper : κ) (stream : ω) : Progress κ ω :=
  let p : Progress κ ω := ⟨keeper, stream, [], ⟨path, false, 0, 0, []⟩, none⟩
  match opened with
  | .refused cause => l.fail p (.notLoaded path cause) cause
  | .broken bytes cause => l.takeLines (some cause) 1 (completeLines bytes) p
  | .content bytes => l.takeLines none 1 (splitLines bytes) p

/-! ## What is written down -/

/-- Lines are shown one after the other, if somebody wants to see them. -/
def offerAll (stream : ω) (texts : List String) : ω :=
  if l.verbose then texts.foldl l.offer stream else stream

/-- The load that has told a keeper of names and shown on a stream all that is written down. -/
def follow (keeper : κ) (stream : ω) (load : Load) : Progress κ ω where
  keeper := load.registrations.foldl l.tell keeper
  diagnostics := l.offerAll stream (load.notices.filterMap Notice.shown?)
  log := load.events
  report := load.report
  fault? := load.fault?

variable (keeper : κ) (stream : ω) (load : Load)

/-- What is shown last is shown after the rest. -/
theorem follow_note_shown (text : String) :
    l.follow keeper stream (load.note (.shown text)) =
      l.diagnose (l.follow keeper stream load) text := by
  have hshown : (load.note (.shown text)).notices.filterMap Notice.shown? =
      load.notices.filterMap Notice.shown? ++ [text] := List.filterMap_append
  have hevents : (load.note (.shown text)).events = load.events :=
    List.filterMap_append.trans (List.append_nil _)
  rw [follow, hshown, hevents, diagnose, offerAll, List.foldl_append]
  cases h : l.verbose <;> simp only [follow, offerAll, h] <;> rfl

/-- What is logged last is logged after the rest, and nobody sees it. -/
theorem follow_note_logged (event : Event) :
    l.follow keeper stream (load.note (.logged event)) =
      { l.follow keeper stream load with log := load.events ++ [event] } := by
  have hshown : (load.note (.logged event)).notices.filterMap Notice.shown? =
      load.notices.filterMap Notice.shown? := List.filterMap_append.trans (List.append_nil _)
  have hevents : (load.note (.logged event)).events = load.events ++ [event] :=
    List.filterMap_append
  rw [follow, hshown, hevents]
  rfl

/-- Taking in a binding commutes with following the load. -/
theorem takeBinding_follow (b : Binding) :
    l.takeBinding (l.follow keeper stream load) b =
      l.follow keeper stream (load.takeBinding b) := by
  rw [takeBinding, ← follow_note_shown, Load.takeBinding]
  cases b.renames with
  | false => simp [follow, Load.register, Load.events, Load.report]
  | true => simp [follow, Load.register, Load.events, Load.report]

/-- Taking in what a segment binds commutes with following the load. -/
theorem takeReading_follow (reading : SegmentReading) :
    l.takeReading (l.follow keeper stream load) reading =
      l.follow keeper stream (load.takeReading reading) := by
  cases reading with
  | binds b => exact l.takeBinding_follow keeper stream load b
  | malformed text => exact (l.follow_note_logged keeper stream load (.malformedName text)).symm

theorem foldl_takeReading_follow (readings : List SegmentReading) :
    readings.foldl l.takeReading (l.follow keeper stream load) =
      l.follow keeper stream (readings.foldl Load.takeReading load) := by
  induction readings generalizing load with
  | nil => rfl
  | cons reading readings ih =>
    rw [List.foldl_cons, List.foldl_cons, takeReading_follow, ih]

/-- Taking in a line commutes with following the load. -/
theorem takeLine_follow (number : Nat) (line : String) :
    l.takeLine (l.follow keeper stream load) number line =
      l.follow keeper stream (load.takeLine number line) := by
  rw [takeLine, Load.takeLine]
  cases LineMeaning.ofLine line with
  | idle => rfl
  | unrecognized text =>
    have hlog := l.follow_note_logged keeper stream load (.unrecognized load.path number)
    exact congrArg (fun p : Progress κ ω => { p with report := { p.report with
      unrecognized := p.report.unrecognized ++ [(⟨number, text⟩ : UnrecognizedLine)] } }) hlog.symm
  | statement names => exact l.foldl_takeReading_follow keeper stream load names.readings

theorem fail_follow (event : Event) (cause : OsError) :
    l.fail (l.follow keeper stream load) event cause =
      l.follow keeper stream (load.fail event cause) := by
  have hlog := l.follow_note_logged keeper stream load event
  have hshow := l.follow_note_shown keeper stream (load.note (.logged event))
    ("Failed to load " ++ load.path ++ ": " ++ cause.message)
  rw [hlog] at hshow
  exact congrArg (fun p => { p with fault? := some cause }) hshow.symm

theorem finish_follow :
    finish (l.follow keeper stream load) = l.follow keeper stream load.finish := by
  have hlog := l.follow_note_logged keeper stream load
    (.loaded load.path load.imports load.aliases)
  exact congrArg (fun p => { p with report := { p.report with fileRead := true } }) hlog.symm

/-- Taking in lines commutes with following the load. -/
theorem takeLines_follow (fault? : Option OsError) (number : Nat) (lines : List (List UInt8)) :
    l.takeLines fault? number lines (l.follow keeper stream load) =
      l.follow keeper stream (load.takeLines fault? number lines) := by
  induction lines generalizing number load with
  | nil =>
    cases fault? with
    | none => exact l.finish_follow keeper stream load
    | some cause => exact l.fail_follow keeper stream load _ cause
  | cons line lines ih =>
    rw [takeLines, Load.takeLines]
    cases decodeLine line with
    | none => exact l.fail_follow keeper stream load _ .invalidUtf8
    | some text =>
      dsimp only
      rw [takeLine_follow, ih]

/-- A load that is followed tells, shows, logs and reports what is written down. -/
theorem run_eq_follow (path : String) (opened : Opened) :
    l.run path opened keeper stream = l.follow keeper stream (.ofOpened path opened) := by
  -- Where nothing is done yet, nothing is told and shown.
  have hstart : (⟨keeper, stream, [], ⟨path, false, 0, 0, []⟩, none⟩ : Progress κ ω) =
      l.follow keeper stream (.start path) := by
    simp [follow, offerAll, Load.start, Load.events, Load.report]
  rw [run.eq_def]
  dsimp only
  rw [hstart]
  cases opened with
  | refused cause => exact l.fail_follow keeper stream _ _ cause
  | broken bytes cause =>
    exact l.takeLines_follow keeper stream _ (some cause) 1 (completeLines bytes)
  | content bytes => exact l.takeLines_follow keeper stream _ none 1 (splitLines bytes)

/-- Loaders that tell a keeper of names in the same way load alike, whatever they show and wherever
    that is written. -/
theorem run_congr {ω' : Type} {l : Loader κ ω} {l' : Loader κ ω'} (h : l.tell = l'.tell)
    (path : String) (opened : Opened) (keeper : κ) (stream : ω) (stream' : ω') :
    let p := l.run path opened keeper stream
    let p' := l'.run path opened keeper stream'
    p.keeper = p'.keeper ∧ p.log = p'.log ∧ p.report = p'.report ∧ p.fault? = p'.fault? := by
  rw [run_eq_follow, run_eq_follow, follow, follow, h]
  exact ⟨rfl, rfl, rfl, rfl⟩

/-- A stream that takes every line has the lines after what was on it before. -/
theorem foldl_offer {l : Loader κ String}
    (h : ∀ text stream, (l.writeLine text).run stream = .ok () (stream ++ (text ++ "\n")))
    (stream : String) (texts : List String) :
    texts.foldl l.offer stream = stream ++ .join (texts.map (· ++ "\n")) := by
  induction texts generalizing stream with
  | nil => exact String.append_empty.symm
  | cons text texts ih =>
    have hoffer : l.offer stream text = stream ++ (text ++ "\n") := by rw [offer, h]
    rw [List.foldl_cons, hoffer, ih, List.map_cons, String.join_cons, String.append_assoc]

end Loader

end AutoImport
