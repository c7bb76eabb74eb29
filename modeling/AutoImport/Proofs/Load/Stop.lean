import AutoImport.Proofs.Load.Account

/-!
# Loads that stop

A load stops at the first line that it cannot read. What it has done until then is what the load of
the content before this line does (`Load.StopsAt`): the keeper of names has been told the same, the
same lines are reported and the same is said and noted down; only the end is another one. So nothing
of the line it stops at, and of those behind it, is left anywhere.

* `Load.stopsAt_of_cut`: that is so wherever the content is cut, and whatever the line is;
* `Load.ofOpened_stopsAt`: a content with a line that cannot be read can be cut before the first
  such line. Where reading breaks off, the content is cut behind its last complete line, and what
  cannot be opened leaves nothing but its failure.
-/

namespace AutoImport

/-- The first line of a content that is not UTF-8 has a number. -/
def IsFirstUnreadable (bytes : List UInt8) (number : Nat) : Prop :=
  ∃ before line after, IsLines bytes (before ++ line :: after) ∧ number = before.length + 1 ∧
    (∀ line ∈ before, isReadable line) ∧ ¬isReadable line

namespace Load

/-! ## Notices at the end -/

/-- Notices after others are shown after them. -/
theorem diagnostics_of_notices {load load' : Load} {notices : List Notice}
    (h : load.notices = load'.notices ++ notices) :
    load.diagnostics true = load'.diagnostics true ++
      .join ((notices.filterMap Notice.shown?).map (· ++ "\n")) := by
  simp only [diagnostics, h, List.filterMap_append, List.map_append, String.join_append, if_true]

/-- Notices after others are logged after them. -/
theorem events_of_notices {load load' : Load} {notices : List Notice}
    (h : load.notices = load'.notices ++ notices) :
    load.events = load'.events ++ notices.filterMap Notice.logged? := by
  rw [events, events, h, List.filterMap_append]

theorem notices_finish (load : Load) : load.finish.notices =
    load.notices ++ [.logged (.loaded load.path load.imports load.aliases)] :=
  rfl

theorem notices_fail (load : Load) (event : Event) (cause : OsError) :
    (load.fail event cause).notices = load.notices ++ [.logged event,
      .shown ("Failed to load " ++ load.path ++ ": " ++ cause.message)] :=
  List.append_assoc load.notices [.logged event] _

/-- The end of a file is not shown. -/
theorem diagnostics_finish (load : Load) :
    load.finish.diagnostics true = load.diagnostics true := by
  rw [diagnostics_of_notices load.notices_finish]
  exact String.append_empty

/-- A failure is shown in one line. -/
theorem diagnostics_fail (load : Load) (event : Event) (cause : OsError) :
    (load.fail event cause).diagnostics true = load.diagnostics true ++
      ("Failed to load " ++ load.path ++ ": " ++ cause.message ++ "\n") := by
  rw [diagnostics_of_notices (load.notices_fail event cause)]
  exact congrArg (load.diagnostics true ++ ·) (String.join_cons.trans String.append_empty)

/-- What is logged of lines are those outside the grammar. -/
theorem mem_events_add_ofLines {path : String} {lines : List String} {event : Event}
    (h : event ∈ ((start path).add (.join (Effect.ofLines path 1 lines))).events) :
    ∃ number, event = .unrecognized path number := by
  have hevents : ((start path).add (.join (Effect.ofLines path 1 lines))).events =
      (Effect.join (Effect.ofLines path 1 lines)).notices.filterMap Notice.logged? := rfl
  rw [hevents, Effect.logged_join_ofLines] at h
  obtain ⟨line, -, rfl⟩ := List.mem_map.1 h
  exact ⟨line.number, rfl⟩

/-! ## Where a load stops -/

/-- A load of a path that stops at the line with a number, for a cause, beside the load of what is
    before that line. -/
structure StopsAt (load part : Load) (path : String) (number : Nat) (cause : OsError) : Prop where
  /-- What is before the line is read to its end. -/
  part_fileRead : part.report.fileRead = true
  /-- The keeper of names is told the same, in the same order. -/
  registrations : load.registrations = part.registrations
  imports : load.report.imports = part.report.imports
  aliases : load.report.aliases = part.report.aliases
  unrecognized : load.report.unrecognized = part.report.unrecognized
  fileRead : load.report.fileRead = false
  failure? : load.failure? = some (.fileRead path cause)
  /-- One line more is shown, which tells of the failure. -/
  diagnostics : load.diagnostics true =
    part.diagnostics true ++ ("Failed to load " ++ path ++ ": " ++ cause.message ++ "\n")
  /-- The same is logged, all of it about lines outside the grammar, up to the last event: that says
      where the load stopped, instead of what it has loaded. -/
  events : ∃ events, (∀ event ∈ events, ∃ line, event = .unrecognized path line) ∧
    part.events = events ++ [.loaded path part.imports part.aliases] ∧
    load.events = events ++ [.stopped path number cause]
  message : (Event.stopped path number cause).message =
    "stopped reading " ++ path ++ " at line " ++ number.repr ++ ": " ++ cause.message

/-- A load that has taken in some lines and then fails stops behind them, beside the load that has
    taken in the same lines and ends there. -/
theorem stopsAt_stop (path : String) (lines : List String) (number : Nat) (cause : OsError) :
    let taken := (start path).add (.join (Effect.ofLines path 1 lines))
    (taken.stop number cause).StopsAt taken.finish path number cause := by
  intro taken
  refine {
    part_fileRead := rfl
    registrations := rfl
    imports := rfl
    aliases := rfl
    unrecognized := rfl
    fileRead := rfl
    failure? := rfl
    diagnostics := (taken.diagnostics_fail _ cause).trans
      (congrArg (· ++ _) taken.diagnostics_finish.symm)
    events := ⟨taken.events, fun _ => mem_events_add_ofLines,
      events_of_notices taken.notices_finish, events_of_notices (taken.notices_fail _ cause)⟩
    message := rfl }

/-- A content that is cut before a line that cannot be read is loaded, up to this line, like what is
    before it. -/
theorem stopsAt_of_cut (path : String) {cut rest line : List UInt8}
    {before after : List (List UInt8)} (hend : EndsLine cut) (hcut : IsLines cut before)
    (hrest : IsLines rest (line :: after)) (hbefore : ∀ line ∈ before, isReadable line)
    (hline : ¬isReadable line) :
    (ofOpened path (.content (cut ++ rest))).StopsAt (ofOpened path (.content cut)) path
      (before.length + 1) .invalidUtf8 := by
  -- What is read of the lines are those before the one that cannot be read.
  have hnone : decodeLine line = none := Option.not_isSome_iff_eq_none.1 hline
  have hread : readable (before ++ line :: after) = readable before := by
    rw [readable_append hbefore, readable_cons_of_eq_none hnone, List.append_nil]
  have hnot : ¬∀ l ∈ before ++ line :: after, isReadable l :=
    fun h => hline (h line (by simp))
  rw [ofOpened, ofOpened, (hcut.append hend hrest).splitLines_eq, hcut.splitLines_eq, takeLines_eq,
    takeLines_eq, if_neg hnot, if_pos hbefore, hread, length_readable hbefore, Nat.add_comm 1]
  exact stopsAt_stop path (readable before) (before.length + 1) .invalidUtf8

/-- Where reading breaks off behind some complete lines, which are those of a cut content, the load
    stops at the next line, beside the load of the cut content. But if one of the complete lines is
    not UTF-8, then the load is that of the cut content. -/
theorem ofOpened_broken (path : String) {bytes cut : List UInt8} (cause : OsError)
    (h : splitLines cut = completeLines bytes) :
    ((∀ line ∈ splitLines cut, isReadable line) →
      (ofOpened path (.broken bytes cause)).StopsAt (ofOpened path (.content cut)) path
        ((splitLines cut).length + 1) cause) ∧
    ((∃ line ∈ splitLines cut, ¬isReadable line) →
      ofOpened path (.broken bytes cause) = ofOpened path (.content cut)) := by
  rw [ofOpened, ofOpened, ← h, takeLines_eq, takeLines_eq]
  constructor
  · intro hread
    rw [if_pos hread, if_pos hread, Nat.add_comm]
    exact stopsAt_stop path (readable (splitLines cut)) _ cause
  · rintro ⟨line, hmem, hline⟩
    have hnot : ¬∀ line ∈ splitLines cut, isReadable line := fun hread => hline (hread line hmem)
    rw [if_neg hnot, if_neg hnot]

/-- A content that has a line that is not UTF-8 can be cut before the first such line, and then its
    load stops at this line, beside the load of what is before. Where reading breaks off, what was
    read, which is nothing for a directory, can be cut behind its last line feed. If what is before
    is UTF-8 line by line, then the load stops at the line that could not be read to its end, beside
    the load of what is before; and else it is that load, which stops earlier. What cannot be opened
    registers nothing and counts nothing, and just its failure is shown and logged. -/
theorem ofOpened_stopsAt (path : String) :
    (∀ bytes number, IsFirstUnreadable bytes number →
      ∃ cut rest, bytes = cut ++ rest ∧ EndsLine cut ∧ (splitLines cut).length + 1 = number ∧
        (ofOpened path (.content bytes)).StopsAt (ofOpened path (.content cut)) path number
          .invalidUtf8) ∧
    (∀ bytes cause, ∃ cut rest, bytes = cut ++ rest ∧ EndsLine cut ∧ 10 ∉ rest ∧
      ((∀ line ∈ splitLines cut, isReadable line) →
        (ofOpened path (.broken bytes cause)).StopsAt (ofOpened path (.content cut)) path
          ((splitLines cut).length + 1) cause) ∧
      ((∃ line ∈ splitLines cut, ¬isReadable line) →
        ofOpened path (.broken bytes cause) = ofOpened path (.content cut))) ∧
    (∀ cause, let load := ofOpened path (.refused cause)
      load.registrations = [] ∧ load.report = ⟨path, false, 0, 0, []⟩ ∧
        load.failure? = some (.fileRead path cause) ∧
        load.diagnostics true = "Failed to load " ++ path ++ ": " ++ cause.message ++ "\n" ∧
        load.events = [.notLoaded path cause]) := by
  refine ⟨?_, fun bytes cause => ?_, fun cause => ⟨rfl, rfl, rfl, ?_, rfl⟩⟩
  · rintro bytes _ ⟨before, line, after, hlines, rfl, hbefore, hline⟩
    obtain ⟨cut, rest, rfl, hend, hcut, hrest⟩ := hlines.exists_cut
    refine ⟨cut, rest, rfl, hend, by rw [hcut.splitLines_eq], ?_⟩
    exact stopsAt_of_cut path hend hcut hrest hbefore hline
  · obtain ⟨cut, rest, hbytes, hend, hrest, hlines⟩ := exists_completeLines bytes
    exact ⟨cut, rest, hbytes, hend, hrest, ofOpened_broken path cause hlines⟩
  · exact (diagnostics_fail (start path) _ cause).trans String.empty_append

/-- A statement, and a comment that is not UTF-8 in a last line that is not ended. -/
def brokenComment : List UInt8 :=
  "import os\n# ".toUTF8.data.toList ++ [255]

/-- The load of the two lines stops at the second. -/
theorem ofOpened_stopsAt_brokenComment :
    IsFirstUnreadable brokenComment 2 ∧
    ∃ cut rest, brokenComment = cut ++ rest ∧ EndsLine cut ∧ (splitLines cut).length + 1 = 2 ∧
      (ofOpened "imports" (.content brokenComment)).StopsAt (ofOpened "imports" (.content cut))
        "imports" 2 .invalidUtf8 := by
  have hfirst : IsFirstUnreadable brokenComment 2 :=
    ⟨["import os".toUTF8.data.toList], [35, 32, 255], [], isLines_iff.2 (by decide +kernel), rfl,
      by decide +kernel, by decide +kernel⟩
  exact ⟨hfirst, (ofOpened_stopsAt "imports").1 brokenComment 2 hfirst⟩

end Load

end AutoImport
