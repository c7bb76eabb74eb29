import AutoImport.Proofs.Cli.Lookup
import AutoImport.Proofs.Cli.Run
import AutoImport.Proofs.Load.Account
import AutoImport.Proofs.Load.Stop

/-!
# Runs whose output is refused

A result that cannot be written is not lost in silence: the run then ends as a general error,
whichever stream refuses it and whatever was to be written (`lost_result_is_failure`). That a
diagnostic cannot be written makes no difference to standard output and to the exit status. Both
hold where nothing is logged, as a line of the log that is refused aborts a run. Nothing is if the
settings load and nobody has asked for more than warnings (`World.StartsQuietly`), since what loads
have to log is no more than detail (`Load.level_of_mem_events`).
-/

namespace AutoImport

/-! ## What is not logged -/

/-- What a load has to log is detail. -/
theorem Load.level_of_mem_events {path : String} {opened : Opened} {event : Event}
    (h : event ∈ (ofOpened path opened).events) : event.level = .debug := by
  let taken := (start path).add (.join (Effect.ofLines path 1 (readable opened.lines)))
  -- There are events for lines, and then one for how the load ends.
  obtain ⟨ending, hlevel, hevents⟩ : ∃ ending : Event, ending.level = .debug ∧
      (ofOpened path opened).events = taken.events ++ [ending] := by
    obtain hends | ⟨ending, cause, hlevel, hends⟩ := ofOpened_ends path opened
    · exact ⟨_, rfl, hends ▸ events_of_notices taken.notices_finish⟩
    · exact ⟨ending, hlevel, hends ▸ events_of_notices (taken.notices_fail ending cause)⟩
  rw [hevents, List.mem_append, List.mem_singleton] at h
  obtain h | rfl := h
  · obtain ⟨number, rfl⟩ := mem_events_add_ofLines h
    rfl
  · exact hlevel

/-- The filter for a level lets events pass that matter at least as much. -/
theorem Log.Filter.passes_atLevel (level : Level) (event : Event) :
    (atLevel level).passes event = decide (event.level.rank ≤ level.rank) := by
  simp [passes, deciding?, atLevel, Directive.concerns]

/-- Every command but that for the settings loads the imports file. -/
theorem Command.loads_iff {c : Command} : c.loads = true ↔ c ≠ .config := by
  cases c <;> simp [loads]

/-- Where no event of some notices is logged, the others are for the user if they are asked for. -/
theorem Session.filter_notes {session : Session} {notices : List Notice}
    (h : ∀ event ∈ notices.filterMap Notice.logged?, session.filter.passes event = false) :
    notices.filter session.notes =
      if session.settings.verbose then (notices.filterMap Notice.shown?).map .shown else [] := by
  induction notices with
  | nil => simp
  | cons n notices ih =>
    cases n with
    | shown text =>
      rw [List.filter_cons, ih h]
      cases hverbose : session.settings.verbose <;> simp [notes, hverbose, Notice.shown?]
    | logged event =>
      obtain ⟨hevent, hrest⟩ := List.forall_mem_cons.1 h
      have hnotes : ¬session.notes (.logged event) = true := by simp [notes, hevent]
      rw [List.filter_cons_of_neg hnotes, ih hrest]
      rfl

/-- The command line can be read and the settings can be loaded, and they come to a session. Neither
    the settings nor the environment ask for details in the log. -/
def World.StartsQuietly (world : World) (args : List String) (session : Session) : Prop :=
  ∃ inv settings, Invocation.read args = .ok inv ∧
    Settings.load world.env (world.settingsFile? inv) = .ok settings ∧
    settings.debug = false ∧ world.env.get? "RUST_LOG" = none ∧
    session = ⟨inv.command, inv.override world.env settings, world.env.logFilter settings.debug, []⟩

namespace World.StartsQuietly

variable {world : World} {args : List String} {session : Session}

theorem starts (h : world.StartsQuietly args session) : world.Starts args session := by
  obtain ⟨inv, settings, hread, hsettings, -, -, rfl⟩ := h
  exact ⟨inv, hread, by rw [Session.start, hsettings]⟩

/-- The notices of a load are shown if that is asked for, and none is logged. -/
theorem notices_eq (h : world.StartsQuietly args session) (hcommand : session.command ≠ .config)
    (path : String) (opened : Opened) :
    let load := Load.ofOpened path opened
    session.notices load = if session.settings.verbose then
      (load.notices.filterMap Notice.shown?).map .shown else [] := by
  intro load
  obtain ⟨inv, settings, -, -, hdebug, hfilter, rfl⟩ := h
  rw [Session.notices, List.map_nil, List.nil_append, if_pos (Command.loads_iff.2 hcommand)]
  refine Session.filter_notes fun event hevent => ?_
  -- The filter lets no detail pass.
  simp [Environment.logFilter, hdebug, hfilter, Log.Filter.passes_atLevel,
    Load.level_of_mem_events hevent, Level.rank]

theorem any_logged_notices (h : world.StartsQuietly args session)
    (hcommand : session.command ≠ .config) (path : String) (opened : Opened) :
    (session.notices (.ofOpened path opened)).any (·.logged?.isSome) = false := by
  rw [h.notices_eq hcommand, List.any_eq_false]
  intro n hn
  split at hn
  · obtain ⟨text, -, rfl⟩ := List.mem_map.1 hn
    exact Bool.false_ne_true
  · cases hn

end World.StartsQuietly

/-! ## What is refused -/

namespace Session

variable {session : Session} {terminal : Terminal} {load : Load} {outs errs : List String}

/-- What the command of a session has to say on standard error. -/
def complaint (session : Session) (terminal : Terminal) (load : Load) : String :=
  ((session.command.run terminal session.settings load).after (.fresh fun _ => false)).err

theorem complaint_eq (h : session.command.Writes terminal session.settings load outs errs) :
    session.complaint terminal load = .join errs := by
  have hrun := h.pieces.run_eq (.fresh fun _ => false)
  rw [Piece.any_isRefused_eq_false (by simp [Console.fresh]), if_neg Bool.false_ne_true] at hrun
  rw [complaint, Writing.after, hrun]
  change (Console.appendAll _ _).err = _
  rw [Console.err_appendAll, Piece.textOn_err_ofTexts]
  exact String.empty_append

/-- Where nothing is refused, the notices of a session are on standard error, and then what its
    command has to say there. -/
theorem err_run {opened : Opened} {console : Console}
    (h : session.command.Writes terminal session.settings
      (.ofOpened session.settings.importsFile opened) outs errs) (hconsole : console.Accepts)
    (time : String) :
    (session.run terminal time opened console).2.err = console.err ++
      Piece.textOn .err ((session.notices (.ofOpened session.settings.importsFile opened)).map
        (·.piece time)) ++ .join errs := by
  rw [run, run_forM_notices, hconsole, if_neg Bool.false_ne_true]
  dsimp only
  rw [carryOut, h.pieces.run_eq, Console.refuses_appendAll,
    Piece.any_isRefused_eq_false fun stream hrefuses => by simp [hconsole stream] at hrefuses,
    if_neg Bool.false_ne_true]
  dsimp only
  rw [Console.err_appendAll, Console.err_appendAll, Piece.textOn_err_ofTexts]

end Session

/-- Lines that are shown are those of the diagnostics. -/
theorem textOn_err_shown (load : Load) (verbose : Bool) (time : String) :
    Piece.textOn .err ((if verbose then (load.notices.filterMap Notice.shown?).map .shown
      else []).map (Notice.piece time)) = load.diagnostics verbose := by
  cases verbose with
  | false => rfl
  | true =>
    have hlines (texts : List String) : (texts.map Notice.shown).map (Notice.piece time) =
        (texts.map (· ++ "\n")).map (Piece.mk .err) := by
      rw [List.map_map, List.map_map]
      rfl
    rw [if_pos rfl, hlines, Piece.textOn_map_mk, Load.diagnostics, if_pos rfl]

namespace World.StartsQuietly

variable {world : World} {args : List String} {session : Session} {outs errs : List String}
  {refuses : Stream → Bool}

/-- No notice is logged, so of a run is seen what is seen of its command. -/
theorem seen_runProgram (h : world.StartsQuietly args session)
    (hcommand : session.command ≠ .config) (refuses : Stream → Bool) :
    seen (runProgram world args (.fresh refuses)) =
      seen (session.carryOut world.terminal (.ofOpened session.settings.importsFile
        (world.openPath session.settings.importsFile)) (.fresh refuses)) := by
  rw [runProgram_eq_run h.starts, Session.seen_run hcommand, h.any_logged_notices hcommand,
    Bool.and_false, if_neg Bool.false_ne_true]

section Texts

variable (h : world.StartsQuietly args session) (hcommand : session.command ≠ .config)
  (hwrites : session.command.Writes world.terminal session.settings (.ofOpened
    session.settings.importsFile (world.openPath session.settings.importsFile)) outs errs)
include h hcommand hwrites

/-- What is seen of a run follows from the texts of its command and from what is refused. -/
theorem seen_runProgram_eq (refuses : Stream → Bool) :
    seen (runProgram world args (.fresh refuses)) =
      (.exited (if (Piece.ofTexts outs errs).any (·.isRefused refuses) then .generalError
        else session.command.status (.ofOpened session.settings.importsFile
          (world.openPath session.settings.importsFile))),
        Piece.textOn .out (Piece.beforeRefused refuses (Piece.ofTexts outs errs))) := by
  rw [h.seen_runProgram hcommand, Session.seen_carryOut hwrites hcommand]
  exact congrArg _ String.empty_append

theorem code_of_refused (hrefused : (Piece.ofTexts outs errs).any (·.isRefused refuses) = true) :
    (runProgram world args (.fresh refuses)).1.code = 1 := by
  have hending := congrArg Prod.fst (h.seen_runProgram_eq hcommand hwrites refuses)
  rw [hrefused] at hending
  exact congrArg Ending.code hending

/-- Where none of the texts is refused, the run ends as if nothing were. -/
theorem ending_of_kept
    (hkept : ∀ stream, refuses stream = true → Piece.textOn stream (Piece.ofTexts outs errs) = "") :
    (runProgram world args (.fresh refuses)).1 =
      (runProgram world args (.fresh fun _ => false)).1 := by
  have hending (refuses : Stream → Bool) :=
    congrArg Prod.fst (h.seen_runProgram_eq hcommand hwrites refuses)
  have hwritten := hending fun _ => false
  have hrefuses := hending refuses
  rw [Piece.any_isRefused_eq_false (by simp)] at hwritten
  rw [Piece.any_isRefused_eq_false hkept] at hrefuses
  exact hrefuses.trans hwritten.symm

theorem out_runProgram (hrefuses : refuses .out = false) :
    (runProgram world args (.fresh refuses)).2.out = .join outs :=
  (congrArg Prod.snd (h.seen_runProgram_eq hcommand hwrites refuses)).trans
    (Piece.textOn_out_beforeRefused_ofTexts hrefuses outs errs)

/-- Where nothing is refused, the diagnostics are on standard error, and then what the command has
    to say there. -/
theorem err_runProgram :
    (runProgram world args (.fresh fun _ => false)).2.err =
      (Load.ofOpened session.settings.importsFile
        (world.openPath session.settings.importsFile)).diagnostics session.settings.verbose ++
        .join errs := by
  have herr := Session.err_run hwrites Console.accepts_fresh world.time
  rw [h.notices_eq hcommand, textOn_err_shown] at herr
  exact (congrArg (·.2.err) (runProgram_eq_run h.starts _)).trans
    (herr.trans (congrArg (· ++ _) String.empty_append))

end Texts

end World.StartsQuietly

/-- Where nothing is logged, a run that has something to put on standard output ends with 1 if
    standard output refuses, and one that has nothing to put there ends as if it did not. A run
    whose command has something to say on standard error, a failure or, to people, that there is
    nothing, ends with 1 if standard error refuses. The diagnostics of the load are there too, but
    they have no part in how the run ends and in what is on standard output: these are as if the
    command were carried out without them. -/
theorem lost_result_is_failure {world : World} {args : List String} {session : Session}
    (hstarts : world.StartsQuietly args session) (hcommand : session.command ≠ .config) :
    let load := Load.ofOpened session.settings.importsFile
      (world.openPath session.settings.importsFile)
    let complaint := session.complaint world.terminal load
    let run (refuses : Stream → Bool) := runProgram world args (.fresh refuses)
    let written := run fun _ => false
    (written.2.err = load.diagnostics session.settings.verbose ++ complaint ∧
      (complaint ≠ "" ↔ session.command.Complains load)) ∧
    (∀ refuses, refuses .out = true → written.2.out ≠ "" → (run refuses).1.code = 1) ∧
    (∀ refuses, refuses .err = false → written.2.out = "" → (run refuses).1 = written.1) ∧
    (∀ refuses, refuses .err = true → complaint ≠ "" → (run refuses).1.code = 1) ∧
    (∀ refuses, refuses .out = false → (run refuses).2.out = written.2.out ∧
      (complaint = "" → (run refuses).1 = written.1)) ∧
    ∀ refuses,
      seen (run refuses) = seen (session.carryOut world.terminal load (.fresh refuses)) := by
  intro load complaint run written
  obtain ⟨outs, errs, hwrites⟩ := session.exists_writes world.terminal
    (world.openPath session.settings.importsFile) hcommand
  have hcomplaint : complaint = .join errs := Session.complaint_eq hwrites
  have hout (refuses : Stream → Bool) (h : refuses .out = false) :
      (run refuses).2.out = .join outs :=
    hstarts.out_runProgram hcommand hwrites h
  have hwritten : written.2.out = .join outs := hout _ rfl
  refine ⟨⟨?_, hcomplaint ▸ hwrites.complains_iff⟩, fun refuses h hne => ?_,
    fun refuses h hempty => ?_, fun refuses h hne => ?_,
    fun refuses h => ⟨(hout refuses h).trans hwritten.symm, fun hempty => ?_⟩,
    hstarts.seen_runProgram hcommand⟩
  · rw [hcomplaint]
    exact hstarts.err_runProgram hcommand hwrites
  · rw [hwritten, ← Piece.textOn_out_ofTexts outs errs] at hne
    exact hstarts.code_of_refused hcommand hwrites (Piece.any_isRefused_of_textOn_ne h hne)
  · refine hstarts.ending_of_kept hcommand hwrites fun stream hrefuses => ?_
    cases stream with
    | out => rw [Piece.textOn_out_ofTexts, ← hwritten, hempty]
    | err => exact absurd (h.symm.trans hrefuses) Bool.false_ne_true
  · rw [hcomplaint, ← Piece.textOn_err_ofTexts outs errs] at hne
    exact hstarts.code_of_refused hcommand hwrites (Piece.any_isRefused_of_textOn_ne h hne)
  · refine hstarts.ending_of_kept hcommand hwrites fun stream hrefuses => ?_
    cases stream with
    | out => exact absurd (h.symm.trans hrefuses) Bool.false_ne_true
    | err => rw [Piece.textOn_err_ofTexts, ← hcomplaint, hempty]

/-- A session without settings, in which the load is shown. -/
def verboseSession (c : Command) : Session :=
  ⟨c, { (Settings.default Environment.bare.home?).expandHome .bare with verbose := true },
    .atLevel .warn, []⟩

/-- Such a session starts where there are no settings. -/
theorem startsQuietly_verboseSession {args : List String} {c : Command} (opened : Opened)
    (h : Invocation.read args = .ok ⟨none, none, true, c⟩) :
    (World.holding opened).StartsQuietly args (verboseSession c) :=
  ⟨_, _, h, rfl, rfl, rfl, rfl⟩

/-- A lookup ends with 1 if its answer is refused, and well if only diagnostics are. A check that
    fails ends with 1 if that is refused. -/
theorem lost_result_is_failure_brokenFile :
    let run (args : List String) (refuses : Stream → Bool) :=
      runProgram (.holding brokenFile) args (.fresh refuses)
    (run ["-v", "lookup", "np"] (· = .out)).1.code = 1 ∧
      (run ["-v", "lookup", "np"] (· = .err)).1 = (run ["-v", "lookup", "np"] fun _ => false).1 ∧
      (run ["-v", "check"] (· = .err)).1.code = 1 := by
  intro run
  obtain ⟨⟨-, hnothing⟩, hlost, -, -, hdiagnostics, -⟩ := lost_result_is_failure
    (startsQuietly_verboseSession brokenFile
      (show Invocation.read ["-v", "lookup", "np"] = _ from rfl)) (by decide)
  obtain ⟨⟨-, hsomething⟩, -, -, hunsaid, -⟩ := lost_result_is_failure
    (startsQuietly_verboseSession brokenFile (show Invocation.read ["-v", "check"] = _ from rfl))
    (by decide)
  refine ⟨hlost (· = .out) rfl ?_, (hdiagnostics (· = .err) rfl).2 ?_,
    hunsaid (· = .err) rfl (hsomething.2 ?_)⟩
  · decide +kernel
  · refine not_ne_iff.1 (hnothing.not.2 fun h => h.1 ?_)
    decide +kernel
  · exact ⟨by decide +kernel, by decide⟩

end AutoImport
