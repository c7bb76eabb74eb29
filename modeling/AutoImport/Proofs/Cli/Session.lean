import AutoImport.Cli.Run
import AutoImport.Proofs.Pieces

/-!
# Sessions whose output is taken

Before a command has its say, the notices of a session are written: to standard error, and each as
one line. Where nothing is refused they are all written, and then the command is carried out with
nothing on standard output (`Session.exists_run_eq_carryOut`). A command that completes ends with
the exit status that it gives (`Session.carryOut_of_completes`), and one whose pieces are known
before puts those for standard output there (`World.exists_runProgram_of_writes`).

A run of the program is a session if the command line can be read and the settings can be loaded
(`World.Starts`, `runProgram_eq_run`).
-/

namespace AutoImport

/-! ## Notices -/

/-- Notices are not written to standard output. -/
theorem Notice.keeps_out_write (time : String) (n : Notice) :
    Writing.Keeps Console.out (n.write time) := by
  cases n with
  | shown text => exact (Writing.keeps_out_writeLine_err text).offerLine
  | logged event => exact Writing.keeps_out_writeLine_err (Log.line time event)

theorem Notice.completes_write (time : String) (n : Notice) :
    Writing.Completes (n.write time) := by
  cases n with
  | shown text => exact (Writing.completes_writeLine .err text).offerLine
  | logged event => exact Writing.completes_writeLine .err (Log.line time event)

/-! ## Sessions -/

namespace Session

variable {session : Session} {console : Console}

/-- Where nothing is refused, a session carries out its command with what standard output had
    before. -/
theorem exists_run_eq_carryOut (h : console.Accepts) (terminal : Terminal) (time : String)
    (opened : Opened) : ∃ console₁ : Console, console₁.Accepts ∧ console₁.out = console.out ∧
      session.run terminal time opened console =
        session.carryOut terminal (.ofOpened session.settings.importsFile opened) console₁ := by
  let notices := session.notices (.ofOpened session.settings.importsFile opened)
  have hcompletes : Writing.Completes (notices.forM (Notice.write time)) :=
    .forM fun n _ => n.completes_write time
  have hkeeps : Writing.Keeps Console.out (notices.forM (Notice.write time)) :=
    .forM fun n _ => n.keeps_out_write time
  obtain ⟨u, console₁, hrun, h₁⟩ := hcompletes console h
  have hout := hkeeps console
  rw [Writing.after, hrun] at hout
  refine ⟨console₁, h₁, hout, ?_⟩
  rw [run, hrun]

/-- Where nothing is refused, a session whose command completes exits with the status of the
    command. -/
theorem carryOut_of_completes (h : console.Accepts) {terminal : Terminal} {load : Load}
    {status : ExitStatus}
    (hcompletes : Writing.Completes (session.command.run terminal session.settings load))
    (hreturns : Writing.Returns status (session.command.run terminal session.settings load)) :
    (session.carryOut terminal load console).1 = .exited status := by
  obtain ⟨status', console', hrun, -⟩ := hcompletes console h
  obtain rfl := hreturns console status' console' hrun
  rw [carryOut, hrun]

end Session

/-! ## The program -/

/-- The command line can be read and the settings can be loaded, and they come to a session. -/
def World.Starts (world : World) (args : List String) (session : Session) : Prop :=
  ∃ inv, Invocation.read args = .ok inv ∧
    Session.start inv world.env (world.settingsFile? inv) = .ok session

/-- A run of the program is the session that it comes to. -/
theorem runProgram_eq_run {world : World} {args : List String} {session : Session}
    (h : world.Starts args session) (console : Console) :
    runProgram world args console = session.run world.terminal world.time
      (world.openPath session.settings.importsFile) console := by
  obtain ⟨inv, hread, hstart⟩ := h
  rw [runProgram, hread]
  dsimp only
  rw [hstart]

/-- Where nothing is refused, a run whose command writes some pieces exits with the status of the
    command, and puts the pieces for standard output there. -/
theorem World.exists_runProgram_of_writes {world : World} {args : List String} {session : Session}
    {console : Console} {pieces : List Piece} {status : ExitStatus}
    (hstarts : world.Starts args session) (hconsole : console.Accepts)
    (hwrites : Writing.Writes pieces status (session.command.run world.terminal session.settings
      (.ofOpened session.settings.importsFile (world.openPath session.settings.importsFile)))) :
    ∃ console', runProgram world args console = (.exited status, console') ∧
      console'.out = console.out ++ Piece.textOn .out pieces := by
  obtain ⟨console₁, hconsole₁, hout, hrun⟩ := session.exists_run_eq_carryOut hconsole
    world.terminal world.time (world.openPath session.settings.importsFile)
  have hrefused : pieces.any (·.isRefused console₁.refuses) = false :=
    Piece.any_isRefused_eq_false fun stream hrefuses => by simp [hconsole₁ stream] at hrefuses
  refine ⟨console₁.appendAll pieces, ?_, by rw [Console.out_appendAll, hout]⟩
  rw [runProgram_eq_run hstarts, hrun, Session.carryOut, hwrites.run_eq, hrefused]
  rfl

/-- An environment without variables, of a user with a home directory. -/
def Environment.bare : Environment :=
  ⟨[], some "/home/me"⟩

/-- A world without settings, in which every path is that of one file. -/
def World.holding (opened : Opened) : World where
  env := .bare
  terminal := ⟨false, false⟩
  time := ""
  search? _ := none
  openPath _ := opened

/-- In such a world a command line without options comes to a session. -/
theorem World.exists_starts_holding (opened : Opened) {args : List String} {c : Command}
    (h : Invocation.read args = .ok ⟨none, none, false, c⟩) :
    ∃ session, (World.holding opened).Starts args session ∧ session.command = c :=
  ⟨_, ⟨_, h, rfl⟩, rfl⟩

theorem Console.accepts_fresh : (Console.fresh fun _ => false).Accepts :=
  fun _ => rfl

end AutoImport
