import AutoImport.Proofs.Cli.Lookup
import AutoImport.Proofs.Cli.Run
import AutoImport.Proofs.Except
import AutoImport.Proofs.Load.Loader

/-!
# Verbose runs

To ask for everything to be shown is to ask for more on standard error, and for nothing else. It
changes neither what a load does (`Loader.run_congr`) nor what is on standard output and the exit
status, even where standard error refuses what is shown (`verbosity_only_observes`).

A command line asks for it by one option more, which can be put before all others; the rest is read
as it is without it (`Invocation.read_cons_verbose`). So the two command lines come to sessions that
differ in one setting (`Session.start_verbose`), and no command but that for the settings looks at
it.
-/

namespace AutoImport

/-! ## Command lines -/

namespace Invocation

/-- The same options, and that everything is shown. -/
def Options.verbosely (options : Options) : Options :=
  { options with verbose := true }

/-- The same options, and that everything is shown. -/
def Pending.verbosely (p : Pending) : Pending :=
  { p with options := p.options.verbosely }

/-- The same options, and that everything is shown. -/
def Reading.verbosely (r : Reading) : Reading :=
  { r with options := r.options.verbosely }

variable {options options' : Options} {part : Part} {p : Pending}

theorem setValue_verbosely {switch : Switch} {value : List Char}
    (h : options.setValue switch value = .ok options') (hfalse : options'.verbose = false) :
    options.verbose = false ∧
      options.verbosely.setValue switch value = .ok options'.verbosely := by
  unfold Options.setValue at h ⊢
  split at h
  · cases h
  · rename_i hvalue
    rw [if_neg hvalue]
    obtain ⟨config?, file?, verbose, json⟩ := options
    cases switch <;> cases config? <;> cases file? <;> cases h <;> exact ⟨hfalse, rfl⟩

theorem setFlag_verbosely {switch : Switch} (h : options.setFlag switch = .ok options')
    (hfalse : options'.verbose = false) :
    options.verbose = false ∧ options.verbosely.setFlag switch = .ok options'.verbosely := by
  cases switch with
  | verbose =>
    -- The option would be in the result.
    rw [Options.setFlag] at h
    split at h <;> cases h
    cases hfalse
  | json =>
    rw [Options.setFlag] at h ⊢
    split at h <;> cases h
    rename_i hjson
    exact ⟨hfalse, if_neg hjson⟩
  | config | file | help | version => cases h

/-- Two steps are read alike if each of them is. -/
theorem bind_verbosely {α β : Type} {x x' : Except Refusal α} {f : α → Except Refusal β} {b b' : β}
    {quiet : Prop} {isQuiet : α → Prop} {verbosely : α → α}
    (hx : ∀ {a}, x = .ok a → isQuiet a → quiet ∧ x' = .ok (verbosely a))
    (hf : ∀ {a}, f a = .ok b → isQuiet a ∧ f (verbosely a) = .ok b') (h : x >>= f = .ok b) :
    quiet ∧ x' >>= f = .ok b' := by
  obtain ⟨a, ha, hb⟩ := exists_of_bind_eq_ok h
  obtain ⟨hquiet, hb'⟩ := hf hb
  obtain ⟨hquiet', ha'⟩ := hx ha hquiet
  refine ⟨hquiet', ?_⟩
  rw [ha']
  exact hb'

/-- After an option with its value nothing waits for one. -/
theorem ok_verbosely (hfalse : p.options.verbose = false)
    (h : (.ok ⟨options, none⟩ : Except Refusal Pending) = .ok p) :
    options.verbose = false ∧
      (.ok ⟨options.verbosely, none⟩ : Except Refusal Pending) = .ok p.verbosely := by
  cases h
  exact ⟨hfalse, rfl⟩

theorem readLetters_verbosely {letters : List Char}
    (h : readLetters part options letters = .ok p) (hfalse : p.options.verbose = false) :
    options.verbose = false ∧ readLetters part options.verbosely letters = .ok p.verbosely := by
  induction letters generalizing options with
  | nil =>
    cases h
    exact ⟨hfalse, rfl⟩
  | cons letter rest ih =>
    unfold readLetters at h ⊢
    cases hletter : part.ofLetter? letter with
    | none =>
      rw [hletter] at h
      cases h
    | some switch =>
      rw [hletter] at h
      dsimp only at h ⊢
      cases hvalue : switch.hasValue with
      | true =>
        rw [hvalue, if_pos rfl] at h
        rw [if_pos rfl]
        split at h
        · cases h
          exact ⟨hfalse, rfl⟩
        · exact bind_verbosely setValue_verbosely (ok_verbosely hfalse) h
        · exact bind_verbosely setValue_verbosely (ok_verbosely hfalse) h
      | false =>
        rw [hvalue, if_neg Bool.false_ne_true] at h
        rw [if_neg Bool.false_ne_true]
        exact bind_verbosely setFlag_verbosely ih h

theorem readLong_verbosely {cs : List Char} (h : readLong part options cs = .ok p)
    (hfalse : p.options.verbose = false) :
    options.verbose = false ∧ readLong part options.verbosely cs = .ok p.verbosely := by
  unfold readLong at h ⊢
  generalize cs.span (· != '=') = split at h ⊢
  obtain ⟨name, rest⟩ := split
  dsimp only at h ⊢
  cases hname : part.ofLong? name with
  | none =>
    rw [hname] at h
    cases h
  | some switch =>
    rw [hname] at h
    dsimp only at h ⊢
    cases hvalue : switch.hasValue <;> cases rest <;> rw [hvalue] at h
    · exact bind_verbosely setFlag_verbosely (ok_verbosely hfalse) h
    · cases h
    · cases h
      exact ⟨hfalse, rfl⟩
    · exact bind_verbosely setValue_verbosely (ok_verbosely hfalse) h

/-- A part of a command line in which nothing asks to show everything is read in the same way after
    something that asks for it. -/
theorem readPart_verbosely {words args : List String} {r : Reading}
    (h : readPart part p words args = .ok r) (hfalse : r.options.verbose = false) :
    p.options.verbose = false ∧ readPart part p.verbosely words args = .ok r.verbosely := by
  induction args generalizing p words with
  | nil =>
    rw [readPart] at h ⊢
    change (if p.waiting?.isSome then _ else _) = _ at h
    split at h <;> cases h
    rename_i hwaiting
    exact ⟨hfalse, if_neg hwaiting⟩
  | cons arg args ih =>
    obtain ⟨options, waiting?⟩ := p
    unfold readPart at h ⊢
    dsimp only [Pending.verbosely] at h ⊢
    split at h
    · -- A value for the option that waits for it.
      rename_i switch
      split at h
      · cases h
      · rename_i hlooks
        rw [if_neg hlooks]
        exact bind_verbosely setValue_verbosely ih h
    · -- Nothing after this is an option.
      split at h <;> cases h
      rename_i hcount
      exact ⟨hfalse, if_pos hcount⟩
    · exact bind_verbosely readLong_verbosely ih h
    · exact bind_verbosely readLetters_verbosely ih h
    · -- A word.
      split at h
      · rename_i hprogram
        cases h
        exact ⟨hfalse, if_pos hprogram⟩
      · rename_i hprogram
        rw [if_neg hprogram]
        split at h
        · rename_i hcount
          rw [if_pos hcount]
          exact ih h
        · cases h

/-- What follows the name of a command is read in the same way, whatever is asked for before it. -/
theorem readCommand_verbosely {name : CommandName} {args : List String} {inv : Invocation}
    (h : readCommand options name args = .ok inv) :
    readCommand options.verbosely name args = .ok { inv with verbose := true } := by
  obtain ⟨r, hpart, hrest⟩ := exists_of_bind_eq_ok h
  obtain ⟨command, hcommand, hinv⟩ := exists_of_bind_eq_ok hrest
  cases hinv
  rw [readCommand, hpart]
  change (commandOf _ name r.words >>= _) = _
  rw [hcommand]
  rfl

/-- A command line in which nothing asks to show everything can ask for it before everything else,
    and means the same but for this. -/
theorem read_cons_verbose {args : List String} {inv : Invocation} (h : read args = .ok inv)
    (hfalse : inv.verbose = false) :
    read ("-v" :: args) = .ok { inv with verbose := true } := by
  have hverbose : readPart .program ⟨.none, none⟩ [] ("-v" :: args) =
      readPart .program (Pending.verbosely ⟨.none, none⟩) [] args := rfl
  obtain ⟨⟨options, words, rest⟩, hprogram, hwords⟩ := exists_of_bind_eq_ok h
  rw [read, hverbose]
  dsimp only at hwords
  split at hwords
  · rename_i word
    split at hwords
    · rename_i name hname
      have hoptions : options.verbose = false := by
        obtain ⟨r, -, hrest⟩ := exists_of_bind_eq_ok hwords
        obtain ⟨command, -, hinv⟩ := exists_of_bind_eq_ok hrest
        cases hinv
        exact (Bool.or_eq_false_iff.1 hfalse).1
      rw [(readPart_verbosely hprogram hoptions).2]
      dsimp only [bind, Except.bind, Reading.verbosely]
      rw [hname]
      exact readCommand_verbosely hwords
    · cases hwords
  · cases hwords

end Invocation

/-! ## Sessions -/

namespace Session

/-- The same session, in which everything is shown. -/
def verbosely (session : Session) : Session :=
  { session with settings := { session.settings with verbose := true } }

/-- A command line that asks to show everything comes to the same session but for this. -/
theorem start_verbose (inv : Invocation) (env : Environment) (file? : Option FoundFile) :
    start { inv with verbose := true } env file? = (start inv env file?).map verbosely := by
  have hoverride (settings : Settings) :
      Invocation.override { inv with verbose := true } env settings =
        { inv.override env settings with verbose := true } := by
    simp [Invocation.override]
  rw [start, start]
  cases Settings.load env file? with
  | ok settings => simp only [hoverride]; rfl
  | error fault => cases inv.config? <;> rfl

/-- The same is logged if everything is shown. -/
theorem any_logged_verbosely (session : Session) (load : Load) :
    (session.verbosely.notices load).any (·.logged?.isSome) =
      (session.notices load).any (·.logged?.isSome) := by
  rw [notices, notices, List.any_filter, List.any_filter]
  congr 1
  funext n
  cases n with
  | shown text => rw [Notice.logged?, Option.isSome_none, Bool.and_false, Bool.and_false]
  | logged event => rfl

/-- A command other than that for the settings does the same if everything is shown. -/
theorem carryOut_verbosely {session : Session} (hcommand : session.command ≠ .config)
    (terminal : Terminal) (load : Load) (console : Console) :
    session.verbosely.carryOut terminal load console = session.carryOut terminal load console := by
  have hrun : session.verbosely.command.run terminal session.verbosely.settings load =
      session.command.run terminal session.settings load := by
    rw [show session.verbosely.command = session.command from rfl]
    cases h : session.command with
    | config => exact absurd h hcommand
    | list | lookup | vim | check => rfl
  rw [carryOut, carryOut, hrun]
  rfl

/-- Of a session is seen the same if everything is shown. -/
theorem seen_run_verbosely {session : Session} (hcommand : session.command ≠ .config)
    (terminal : Terminal) (time : String) (opened : Opened) (console : Console) :
    seen (session.verbosely.run terminal time opened console) =
      seen (session.run terminal time opened console) := by
  have hverbosely : session.verbosely.command ≠ .config := hcommand
  rw [seen_run hcommand, seen_run hverbosely, any_logged_verbosely, carryOut_verbosely hcommand]
  rfl

end Session

/-- Of a run is seen the same if the command line also asks to show everything. -/
theorem seen_runProgram_verbose {args args' : List String} {inv : Invocation}
    (hread : Invocation.read args = .ok inv)
    (hread' : Invocation.read args' = .ok { inv with verbose := true })
    (hcommand : inv.command ≠ .config) (world : World) (console : Console) :
    seen (runProgram world args' console) = seen (runProgram world args console) := by
  have hfile : world.settingsFile? { inv with verbose := true } = world.settingsFile? inv := rfl
  rw [runProgram, runProgram, hread, hread']
  dsimp only
  rw [Session.start_verbose, hfile]
  cases hstart : Session.start inv world.env (world.settingsFile? inv) with
  | error f => rfl
  | ok session =>
    have hsession : session.command ≠ .config := by rwa [Session.command_of_start hstart]
    exact Session.seen_run_verbosely hsession world.terminal world.time _ console

/-- That somebody follows a load makes no difference to it. Whatever is shown, and wherever that is
    written, the keeper of names is told the same, and the report and the log are the same. The
    stream of diagnostics is left alone unless somebody follows the load, and else it is offered the
    lines of the load, each once and in order, whichever of them it takes; one that takes them all
    has them all. A command other than that for the settings has the same on standard output and
    ends with the same exit status whether or not everything is to be shown, and whether or not that
    can be written. -/
theorem verbosity_only_observes :
    (∀ (path : String) (opened : Opened) (κ ω ω' : Type) (l : Loader κ ω) (l' : Loader κ ω')
      (keeper : κ) (stream : ω) (stream' : ω'), l.tell = l'.tell →
      let p := l.run path opened keeper stream
      let p' := l'.run path opened keeper stream'
      p.keeper = p'.keeper ∧ p.log = p'.log ∧ p.report = p'.report ∧ p.fault? = p'.fault?) ∧
    (∀ (path : String) (opened : Opened) (κ ω : Type) (l : Loader κ ω) (keeper : κ) (stream : ω),
      let p := l.run path opened keeper stream
      p.keeper = (opened.bindings.flatMap (·.registrations)).foldl l.tell keeper ∧
      p.diagnostics =
        if l.verbose then (opened.shownLines path p.fault?).foldl l.offer stream else stream) ∧
    (∀ (path : String) (opened : Opened) (κ : Type) (l : Loader κ String) (keeper : κ),
      l.verbose = true →
      (∀ text stream, (l.writeLine text).run stream = .ok () (stream ++ (text ++ "\n"))) →
      let p := l.run path opened keeper ""
      p.diagnostics = .join ((opened.shownLines path p.fault?).map (· ++ "\n"))) ∧
    (∀ (world : World) (args args' : List String) (inv : Invocation) (console : Console),
      Invocation.read args = .ok inv → Invocation.read args' = .ok { inv with verbose := true } →
      inv.command ≠ .config →
      seen (runProgram world args' console) = seen (runProgram world args console)) ∧
    ∀ (world : World) (args : List String) (inv : Invocation) (console : Console),
      Invocation.read args = .ok inv → inv.verbose = false → inv.command ≠ .config →
      seen (runProgram world ("-v" :: args) console) = seen (runProgram world args console) := by
  have hdiagnostics {path : String} {opened : Opened} {κ ω : Type} (l : Loader κ ω) (keeper : κ)
      (stream : ω) : (l.run path opened keeper stream).diagnostics =
        l.offerAll stream
          (opened.shownLines path (l.run path opened keeper stream).fault?) := by
    rw [Loader.run_eq_follow, Loader.follow, Load.shown_ofOpened]
  refine ⟨fun path opened κ ω ω' l l' keeper stream stream' htell =>
      Loader.run_congr htell path opened keeper stream stream',
    fun path opened κ ω l keeper stream => ⟨?_, hdiagnostics l keeper stream⟩,
    fun path opened κ l keeper hverbose htakes => ?_,
    fun world args args' inv console hread hread' hcommand =>
      seen_runProgram_verbose hread hread' hcommand world console,
    fun world args inv console hread hfalse hcommand =>
      seen_runProgram_verbose hread (Invocation.read_cons_verbose hread hfalse) hcommand world
        console⟩
  · rw [Loader.run_eq_follow, ← Load.registrations_ofOpened path]
    rfl
  · exact (hdiagnostics l keeper "").trans ((if_pos hverbose).trans
      ((Loader.foldl_offer htakes "" _).trans String.empty_append))

/-- A loader that writes down what it registers, and what it shows. -/
def textLoader : Loader (List Registration) String where
  verbose := true
  tell registrations r := registrations ++ [r]
  writeLine text := modify (· ++ (text ++ "\n"))

/-- A loader that writes down what it registers, and has nowhere to show something. -/
def mutedLoader : Loader (List Registration) Unit where
  verbose := true
  tell registrations r := registrations ++ [r]
  writeLine _ := throw .noSpaceLeft

/-- A file that cannot be read to its end, followed and not followed. -/
theorem verbosity_only_observes_brokenFile :
    (mutedLoader.run "imports" brokenFile [] ()).keeper =
      (textLoader.run "imports" brokenFile [] "").keeper ∧
    (textLoader.run "imports" brokenFile [] "").diagnostics =
      "numpy as np\nFailed to load imports: stream did not contain valid UTF-8\n" ∧
    seen (runProgram (.holding brokenFile) ["-v", "lookup", "np"] (.fresh (· = .err))) =
      seen (runProgram (.holding brokenFile) ["lookup", "np"] (.fresh (· = .err))) := by
  obtain ⟨hsame, -, hshown, -, hverbose⟩ := verbosity_only_observes
  refine ⟨(hsame "imports" brokenFile _ _ _ mutedLoader textLoader [] () "" rfl).1,
    (hshown "imports" brokenFile _ textLoader [] rfl fun _ _ => rfl).trans ?_,
    hverbose _ ["lookup", "np"] _ _ rfl rfl (by decide)⟩
  decide +kernel

end AutoImport
