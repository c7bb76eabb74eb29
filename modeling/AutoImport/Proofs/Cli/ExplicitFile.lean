import AutoImport.Proofs.Cli.Lookup
import AutoImport.Proofs.Cli.Run

/-!
# Runs on a file of the command line

A command line can name the imports file. What is left for the settings then is to say more or less
on standard error, and to name the variables of the Vim commands. So the commands that answer
questions about the file put the same on standard output and exit with the same status whatever the
user's own settings are, and the variables of the environment that are laid over them
(`explicit_file_decides`).

* Settings that cannot be loaded are replaced by the defaults, so that there always is a session,
  and its imports file is the one of the command line (`Session.exists_start_of_file`).
* No command but those for Vim and for the settings looks at the settings (`Command.run_congr`), and
  so what the other commands write is the same with any (`Command.Writes.congr`).
-/

namespace AutoImport

/-- Whether a variable is one for settings, if only by its name. -/
def Variable.isSetting (name : String) : Bool :=
  ((Text.trim name.toList).take namePrefix.length).map Char.toUpper == namePrefix.toList

/-- Two worlds that are the same but for the time, the settings files, and the variables for
    settings. -/
structure World.SameButSettings (world world' : World) : Prop where
  env : ∀ name, Variable.isSetting name = false → world.env.get? name = world'.env.get? name
  userHome? : world.env.userHome? = world'.env.userHome?
  terminal : world.terminal = world'.terminal
  openPath : ∀ path, world.openPath path = world'.openPath path

/-- In such worlds a path is expanded to the same. -/
theorem World.SameButSettings.expandHome_eq {world world' : World}
    (h : world.SameButSettings world') (path : String) :
    world.env.expandHome path = world'.env.expandHome path := by
  have hhome : world.env.home? = world'.env.home? := by
    rw [Environment.home?, Environment.home?, h.env "HOME" (by decide), h.userHome?]
  rw [Environment.expandHome, Environment.expandHome, hhome]

/-! ## Sessions -/

/-- A command line that names the imports file and leaves the settings file to the user comes to a
    session, whatever the settings are. -/
theorem Session.exists_start_of_file {inv : Invocation} {path : String}
    (hconfig : inv.config? = none) (hfile : inv.file? = some path) (env : Environment)
    (file? : Option FoundFile) :
    ∃ session, start inv env file? = .ok session ∧ session.command = inv.command ∧
      session.settings.importsFile = env.expandHome path := by
  have himports (s : Settings) :
      (inv.override env s).importsFile = env.expandHome path := by
    rw [Invocation.override, hfile]
    rfl
  rw [start, hconfig]
  cases Settings.load env file? with
  | ok settings => exact ⟨_, rfl, rfl, himports settings⟩
  | error fault => exact ⟨_, rfl, rfl, himports _⟩

/-! ## Commands -/

namespace Command

variable {c : Command} {terminal : Terminal} {load : Load} {outs errs : List String}

/-- A command that answers a question about the imports file does not look at the settings. -/
theorem run_congr (hvim : c ≠ .vim) (hconfig : c ≠ .config) (settings settings' : Settings) :
    c.run terminal settings load = c.run terminal settings' load := by
  cases c with
  | vim => exact absurd rfl hvim
  | config => exact absurd rfl hconfig
  | list | lookup | check => rfl

theorem Writes.congr {settings : Settings} (h : c.Writes terminal settings load outs errs)
    (hvim : c ≠ .vim) (hconfig : c ≠ .config) (settings' : Settings) :
    c.Writes terminal settings' load outs errs where
  pieces := run_congr hvim hconfig settings settings' ▸ h.pieces
  complains_iff := h.complains_iff

end Command

/-! ## Runs -/

section

variable {world world' : World} {args : List String} {inv : Invocation} {path : String}
  {console : Console}

/-- Where nothing is refused, what is seen of a run on a file of the command line is what the
    command writes of this file, with any settings. -/
theorem seen_runProgram_of_file {settings : Settings} {outs errs : List String}
    (hread : Invocation.read args = .ok inv) (hsettings : inv.config? = none)
    (hfile : inv.file? = some path) (hvim : inv.command ≠ .vim) (hconfig : inv.command ≠ .config)
    (hconsole : console.Accepts) :
    let file := world.env.expandHome path
    let load := Load.ofOpened file (world.openPath file)
    inv.command.Writes world.terminal settings load outs errs →
      seen (runProgram world args console) =
        (.exited (inv.command.status load), console.out ++ .join outs) := by
  intro file load h
  obtain ⟨session, hstart, hcommand, himports⟩ := Session.exists_start_of_file hsettings hfile
    world.env (world.settingsFile? inv)
  have hwrites := h.congr hvim hconfig session.settings
  rw [runProgram_eq_run ⟨inv, hread, hstart⟩, himports]
  rw [← hcommand] at hwrites ⊢
  have hload : load = .ofOpened session.settings.importsFile (world.openPath file) := by
    rw [himports]
  rw [hload] at hwrites ⊢
  exact Session.seen_run_of_accepts hwrites (hcommand ▸ hconfig) hconsole

/-- Where nothing is refused, a listing, a lookup or a check of a file of the command line exits
    with the status that the file comes to, and with the same on standard output in any two worlds
    that are the same but for the settings. -/
theorem explicit_file_decides (h : world.SameButSettings world')
    (hread : Invocation.read args = .ok inv) (hsettings : inv.config? = none)
    (hfile : inv.file? = some path) (hvim : inv.command ≠ .vim) (hconfig : inv.command ≠ .config)
    (hconsole : console.Accepts) :
    let file := world.env.expandHome path
    (runProgram world args console).1 =
      .exited (inv.command.status (.ofOpened file (world.openPath file))) ∧
    seen (runProgram world' args console) = seen (runProgram world args console) := by
  intro file
  have hfile' : file = world'.env.expandHome path := h.expandHome_eq path
  obtain ⟨outs, errs, hwrites⟩ : ∃ outs errs, inv.command.Writes world.terminal (.default none)
      (.ofOpened file (world.openPath file)) outs errs := Command.exists_writes rfl hconfig
  have hseen := seen_runProgram_of_file hread hsettings hfile hvim hconfig hconsole hwrites
  refine ⟨congrArg Prod.fst hseen, ?_⟩
  have hwrites' := hwrites
  rw [h.openPath, h.terminal, hfile'] at hwrites'
  rw [seen_runProgram_of_file hread hsettings hfile hvim hconfig hconsole hwrites', hseen, ← hfile',
    ← h.openPath]

end

/-- The world of a file whose user has a settings file that cannot be read, and a variable with a
    value of a wrong type. -/
def World.badlySet (opened : Opened) : World :=
  { World.holding opened with
    env := { Environment.bare with vars := [("pyimports_verbose", "perhaps")] }
    search? := fun path => some ⟨path, .ok [255]⟩ }

/-- Such settings cannot be loaded. A lookup in a file of the command line does not mind. -/
theorem explicit_file_decides_badlySet :
    let world := World.badlySet brokenFile
    let inv : Invocation := ⟨none, some "imports", false, .lookup "np" .text⟩
    let run (world : World) :=
      runProgram world ["-f", "imports", "lookup", "np"] (.fresh fun _ => false)
    (Settings.load world.env (world.settingsFile? inv)).toOption = none ∧
    (run (.holding brokenFile)).1 = .exited .success ∧
      seen (run world) = seen (run (.holding brokenFile)) := by
  intro world inv run
  have hfault : (Settings.load world.env (world.settingsFile? inv)).toOption = none := by
    decide +kernel
  have hread : Invocation.read ["-f", "imports", "lookup", "np"] = .ok inv := rfl
  have hsame : (World.holding brokenFile).SameButSettings (.badlySet brokenFile) := by
    refine ⟨fun name hname => ?_, rfl, rfl, fun _ => rfl⟩
    have hne : name ≠ "pyimports_verbose" := by
      rintro rfl
      revert hname
      decide
    simp [World.badlySet, World.holding, Environment.bare, Environment.get?, hne]
  have hstatus :
      (Command.lookup "np" .text).status (.ofOpened "imports" brokenFile) = .success := by
    decide +kernel
  obtain ⟨hexit, hseen⟩ := explicit_file_decides hsame hread rfl rfl (by decide) (by decide)
    Console.accepts_fresh
  exact ⟨hfault, hexit.trans (congrArg Ending.exited hstatus), hseen⟩

end AutoImport
