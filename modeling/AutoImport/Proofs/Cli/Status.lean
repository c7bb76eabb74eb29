import AutoImport.Proofs.Cli.Lookup
import AutoImport.Proofs.Cli.Run

/-!
# Exit statuses

Where nothing is refused, the exit status of a run is decided by the imports file, and the format of
the answer has no part in it (`exit_status_of_file`): people and programs are told of the same
outcome.
-/

namespace AutoImport

/-! ## Formats -/

/-- The same command, with its answer in a format. The Vim commands and the settings have only
    one. -/
def Command.inFormat (format : Format) : Command → Command
  | list _ => list format
  | lookup name _ => lookup name format
  | vim => vim
  | check _ => check format
  | config => config

/-- The same command line, with the answer in a format. -/
def Invocation.inFormat (format : Format) (inv : Invocation) : Invocation :=
  { inv with command := inv.command.inFormat format }

/-- The same session, with the answer in a format. -/
def Session.inFormat (format : Format) (session : Session) : Session :=
  { session with command := session.command.inFormat format }

/-- The format of the answer has no part in the exit status. -/
theorem Command.status_inFormat (format : Format) (load : Load) (c : Command) :
    (c.inFormat format).status load = c.status load := by
  cases c <;> rfl

theorem Command.inFormat_eq_config_iff {format : Format} {c : Command} :
    c.inFormat format = .config ↔ c = .config := by
  cases c <;> simp [inFormat]

/-- There is one format only for the settings. -/
theorem Invocation.inFormat_of_config {format : Format} {inv : Invocation}
    (h : inv.command = .config) : inv.inFormat format = inv := by
  cases inv
  cases h
  rfl

/-- A command line comes to the same session but for the format. -/
theorem Session.start_inFormat {format : Format} {inv : Invocation} {env : Environment}
    {file? : Option FoundFile} {session : Session} (h : start inv env file? = .ok session) :
    start (inv.inFormat format) env file? = .ok (session.inFormat format) := by
  rw [start] at h ⊢
  have hconfig : (inv.inFormat format).config? = inv.config? := rfl
  rw [hconfig]
  split at h <;> cases h <;> rfl

/-- Two command lines that differ in the format of the answer come to sessions that differ in it. -/
theorem World.Starts.inFormat {world : World} {args args' : List String} {session : Session}
    {inv : Invocation} {format : Format} (h : world.Starts args session)
    (hread : Invocation.read args = .ok inv)
    (hread' : Invocation.read args' = .ok (inv.inFormat format)) :
    world.Starts args' (session.inFormat format) := by
  obtain ⟨inv₁, hread₁, hstart⟩ := h
  obtain rfl := Except.ok.inj (hread₁.symm.trans hread)
  exact ⟨_, hread', Session.start_inFormat hstart⟩

/-! ## Runs -/

/-- Command lines that are read alike run alike. -/
theorem runProgram_congr {args args' : List String}
    (h : Invocation.read args = Invocation.read args') (world : World) (console : Console) :
    runProgram world args console = runProgram world args' console := by
  rw [runProgram, runProgram, h]

/-- Where nothing is refused, a run exits with the status that the imports file comes to. -/
theorem runProgram_status {world : World} {args : List String} {session : Session}
    {console : Console} (hstarts : world.Starts args session) (hcommand : session.command ≠ .config)
    (hconsole : console.Accepts) :
    (runProgram world args console).1 = .exited (session.command.status
      (.ofOpened session.settings.importsFile (world.openPath session.settings.importsFile))) := by
  obtain ⟨outs, errs, hwrites⟩ := session.exists_writes world.terminal
    (world.openPath session.settings.importsFile) hcommand
  rw [runProgram_eq_run hstarts]
  exact congrArg Prod.fst (Session.seen_run_of_accepts hwrites hcommand hconsole)

/-- Where nothing is refused, the Vim commands are all that their run puts on standard output. -/
theorem out_runProgram_vim {world : World} {args : List String} {session : Session}
    {console : Console} (hstarts : world.Starts args session) (hvim : session.command = .vim)
    (hconsole : console.Accepts) :
    (runProgram world args console).2.out = console.out ++ Vim.script
      (session.settings.vim.commands (Load.ofOpened session.settings.importsFile
        (world.openPath session.settings.importsFile)).registrations) := by
  have hwrites : session.command.Writes world.terminal session.settings (.ofOpened
      session.settings.importsFile (world.openPath session.settings.importsFile)) [_] [] :=
    hvim ▸ Command.writes_vim
  have hout : (runProgram world args console).2.out = console.out ++ .join [_] :=
    (congrArg (·.2.out) (runProgram_eq_run hstarts console)).trans
      (congrArg Prod.snd (Session.seen_run_of_accepts hwrites (by simp [hvim]) hconsole))
  rw [hout, String.join_cons]
  exact congrArg _ String.append_empty

/-- Where nothing is refused, runs whose command lines differ in the format end alike. -/
theorem ending_inFormat {world : World} {args args' : List String} {session : Session}
    {inv : Invocation} {format : Format} {console : Console} (hstarts : world.Starts args session)
    (hconsole : console.Accepts) (hread : Invocation.read args = .ok inv)
    (hread' : Invocation.read args' = .ok (inv.inFormat format)) :
    (runProgram world args' console).1 = (runProgram world args console).1 := by
  by_cases hcommand : session.command = .config
  · -- The settings have one format only.
    obtain ⟨inv₁, hread₁, hstart⟩ := hstarts
    obtain rfl := Except.ok.inj (hread₁.symm.trans hread)
    have hinv : inv₁.command = .config := (Session.command_of_start hstart).symm.trans hcommand
    have hargs : Invocation.read args' = Invocation.read args := by
      rw [hread', hread, Invocation.inFormat_of_config hinv]
    exact congrArg Prod.fst (runProgram_congr hargs world console)
  · have hstarts' := hstarts.inFormat hread hread'
    rw [runProgram_status hstarts hcommand hconsole, runProgram_status hstarts'
      (Command.inFormat_eq_config_iff.not.2 hcommand) hconsole]
    exact congrArg Ending.exited (Command.status_inFormat format _ session.command)

/-- Where the settings load and nothing is refused, what is at the path of the imports file decides
    the exit status, whether it can be opened or not and whatever is in it. A listing ends with 0 if
    the load has registered a name, and else with 3; a lookup with 0 if there is an answer, and else
    with 3; a check with 5 if the file could not be read to its end, else with 4 if there are lines
    outside the grammar, and else with 0. The Vim commands end with 0, and they are all that is on
    standard output. A command line that differs in the format of the answer ends with the same. -/
theorem exit_status_of_file {world : World} {args : List String} {session : Session}
    {console : Console} (hstarts : world.Starts args session) (hconsole : console.Accepts) :
    let file := session.settings.importsFile
    let load := Load.ofOpened file (world.openPath file)
    let run := runProgram world args console
    (∀ format, session.command = .list format →
      run.1.code = if 0 < load.report.imports then 0 else 3) ∧
    (∀ name format, session.command = .lookup name format →
      run.1.code =
        if ((Table.ofLoads [(file, world.openPath file)]).resolve? name).isSome then 0 else 3) ∧
    (∀ format, session.command = .check format →
      run.1.code =
        if load.failure?.isSome then 5 else if load.report.unrecognized ≠ [] then 4 else 0) ∧
    (session.command = .vim →
      run.1.code = 0 ∧
        run.2.out = console.out ++ Vim.script (session.settings.vim.commands load.registrations)) ∧
    ∀ args' inv format, Invocation.read args = .ok inv →
      Invocation.read args' = .ok (inv.inFormat format) →
      (runProgram world args' console).1 = run.1 := by
  intro file load run
  have hstatus (hcommand : session.command ≠ .config) :
      run.1 = .exited (session.command.status load) :=
    runProgram_status hstarts hcommand hconsole
  refine ⟨fun format hlist => ?_, fun name format hlookup => ?_, fun format hcheck => ?_,
    fun hvim => ⟨?_, out_runProgram_vim hstarts hvim hconsole⟩,
    fun args' inv format hread hread' => ending_inFormat hstarts hconsole hread hread'⟩
  · rw [hstatus (by simp [hlist]), hlist, Command.status]
    split <;> rfl
  · rw [hstatus (by simp [hlookup]), hlookup, Command.status]
    change (Ending.exited (if (load.table.resolve? name).isSome then _ else _)).code =
      if (load.table.resolve? name).isSome then 0 else 3
    split <;> rfl
  · rw [hstatus (by simp [hcheck]), hcheck, Command.status]
    split
    · rfl
    · split <;> rfl
  · rw [hstatus (by simp [hvim]), hvim]
    rfl

/-- A check of a file that cannot be read to its end, in both formats, and a lookup of a name that
    is before the line that cannot be read. -/
theorem exit_status_of_file_brokenFile :
    let run (args : List String) := runProgram (.holding brokenFile) args (.fresh fun _ => false)
    (run ["check"]).1.code = 5 ∧ (run ["check", "--json"]).1 = (run ["check"]).1 ∧
      (run ["lookup", "np"]).1.code = 0 := by
  intro run
  obtain ⟨check, hcheck, hcheckCommand⟩ :=
    World.exists_starts_holding brokenFile (show Invocation.read ["check"] = _ from rfl)
  obtain ⟨lookup, hlookup, hlookupCommand⟩ :=
    World.exists_starts_holding brokenFile (show Invocation.read ["lookup", "np"] = _ from rfl)
  obtain ⟨-, -, hunread, -, hformat⟩ := exit_status_of_file hcheck Console.accepts_fresh
  obtain ⟨-, hfound, -⟩ := exit_status_of_file hlookup Console.accepts_fresh
  refine ⟨(hunread .text hcheckCommand).trans ?_,
    hformat ["check", "--json"] _ .json rfl rfl, (hfound "np" .text hlookupCommand).trans ?_⟩
  · rfl
  · -- The path of the imports file does not matter.
    have hnp : ((Table.ofBindings (declared [("", brokenFile)])).resolve? "np").isSome := by
      decide +kernel
    rw [Table.ofLoads_eq]
    exact if_pos hnp

end AutoImport
