import AutoImport.Proofs.Cli.Session
import AutoImport.Proofs.Load.Delete

/-!
# What a check reports

A check reports the lines of a file that are listed by its load. Of the lines that are neither blank
nor comments, these are exactly the ones that do nothing: without all of them a load tells the same
and a check ends well, and without any other line something is missing
(`check_reports_what_binds_nothing`).
-/

namespace AutoImport

/-! ## Checks that end well -/

namespace Command

variable (terminal : Terminal) (format : Format)

theorem completes_reportLoad (report : Report) :
    Writing.Completes (reportLoad terminal format report) := by
  cases format with
  | json => exact Output.completes_success .json _
  | text =>
    exact (Output.completes_info .text _).bind fun _ =>
      (Output.completes_info .text _).bind fun _ => .pure _

theorem returns_reportLoad (report : Report) :
    Writing.Returns .success (reportLoad terminal format report) := by
  cases format with
  | json => exact Output.returns_success .json _
  | text => exact .bind fun _ => .bind fun _ => .pure _

/-- A load that has neither failed nor left out a line is reported as a whole. -/
theorem runCheck_eq_reportLoad {load : Load} (hfailure : load.failure? = none)
    (hlisted : load.report.unrecognized = []) :
    runCheck terminal format load = reportLoad terminal format load.report := by
  rw [runCheck, hfailure]
  simp [hlisted]

end Command

/-- A check of a file that is read to its end, and of which no line is listed, ends well. -/
theorem Session.run_check {session : Session} {format : Format} {opened : Opened}
    {console : Console} (hcommand : session.command = .check format) (hconsole : console.Accepts)
    (hfailure : (Load.ofOpened session.settings.importsFile opened).failure? = none)
    (hlisted : (Load.ofOpened session.settings.importsFile opened).report.unrecognized = [])
    (terminal : Terminal) (time : String) :
    (session.run terminal time opened console).1 = .exited .success := by
  obtain ⟨console₁, hconsole₁, -, hrun⟩ :=
    session.exists_run_eq_carryOut hconsole terminal time opened
  have hcheck := Command.runCheck_eq_reportLoad terminal format hfailure hlisted
  rw [hrun]
  refine carryOut_of_completes hconsole₁ ?_ ?_ <;> rw [hcommand, Command.run, hcheck]
  · exact Command.completes_reportLoad terminal format _
  · exact Command.returns_reportLoad terminal format _

/-! ## The lines that are reported -/

/-- Of the lines of a content that is UTF-8, those that its load lists, with their numbers and their
    texts without the blanks around them, are exactly the ones that do nothing although they are
    neither blank nor comments. Without the listed lines, a load tells the same and lists nothing,
    and a check of the file ends well. Without a line that is not listed, not blank and no comment,
    something that was registered is missing. -/
theorem check_reports_what_binds_nothing (path : String) {bytes : List UInt8}
    (hread : isReadable bytes) :
    let load := Load.ofOpened path (.content bytes)
    let lines := (readable (splitLines bytes)).zipIdx 1
    let without (deleted : Nat → Bool) := Opened.content (deleteLines deleted bytes)
    ((Load.ofOpened path (without load.lists)).TellsLike load ∧
      (Load.ofOpened path (without load.lists)).report.unrecognized = [] ∧
      (Load.ofOpened path (without load.lists)).report.fileRead = true) ∧
    (∀ (world : World) (args : List String) (session : Session) (format : Format)
      (console : Console), world.Starts args session → session.command = .check format →
      world.openPath session.settings.importsFile = without load.lists → console.Accepts →
      (runProgram world args console).1 = .exited .success) ∧
    (∀ line number, (line, number) ∈ lines → ¬IsIdle (trimmed line) →
      (load.lists number ↔
        (Load.ofOpened path (without (· == number))).registrations = load.registrations) ∧
      (¬load.lists number → ∃ before missing after, missing ≠ [] ∧
        load.registrations = before ++ missing ++ after ∧
        (Load.ofOpened path (without (· == number))).registrations = before ++ after)) ∧
    ∀ l ∈ load.report.unrecognized,
      ∃ line, (line, l.number) ∈ lines ∧ ¬IsIdle (trimmed line) ∧ l.text = trimmed line := by
  intro load lines without
  have hlines := isReadable_of_mem_splitLines hread
  -- Any line that is listed binds nothing.
  have hnothing : ∀ line number, (line, number) ∈ lines → load.lists number →
      (LineMeaning.ofLine line).bindings = [] := fun line number hmem hlisted =>
    LineMeaning.bindings_eq_nil_of_isRejected ((Load.lists_iff hmem).1 hlisted)
  have hlisted (path : String) :
      (Load.ofOpened path (without load.lists)).report.unrecognized = [] :=
    Load.unrecognized_deleteLines path hlines fun line number hmem hrejected =>
      (Load.lists_iff hmem).2 hrejected
  have hrest := isReadable_of_mem_deleteLines load.lists hlines
  refine ⟨⟨Load.tellsLike_deleteLines path path load.lists hlines hnothing, hlisted path,
    (Load.fileRead_ofOpened path hrest).1⟩, ?_, ?_, ?_⟩
  · intro world args session format console hstarts hcommand hopened hconsole
    rw [runProgram_eq_run hstarts, hopened]
    exact Session.run_check hcommand hconsole (Load.fileRead_ofOpened _ hrest).2 (hlisted _)
      world.terminal world.time
  · intro line number hmem hidle
    have hmissing (hnot : ¬load.lists number) := Load.exists_registrations_deleteLines path path
      hlines hmem (LineMeaning.bindings_ne_nil hidle ((Load.lists_iff hmem).not.1 hnot))
    refine ⟨⟨fun hyes => ?_, fun heq => ?_⟩, hmissing⟩
    · have htells := Load.tellsLike_deleteLines path path (· == number) hlines
        fun line' number' hmem' heq => hnothing line' number' hmem' (by rwa [beq_iff_eq.1 heq])
      exact htells.registrations
    · by_contra hnot
      obtain ⟨before, missing, after, hne, hbefore, hafter⟩ := hmissing hnot
      rw [heq, hbefore] at hafter
      exact hne (by simpa using hafter)
  · intro l hl
    obtain ⟨line, hmem, hrejected, htext⟩ := Load.mem_unrecognized_ofOpened.1 hl
    exact ⟨line, hmem, hrejected.1, htext⟩

/-- A comment, nothing, a statement, and two lines outside the grammar, of which the last is not
    ended. -/
def untidyFile : List UInt8 :=
  "# names\r\n\nimport numpy as np\r\nimport os,\n  from . import *".toUTF8.data.toList

/-- The same without the two lines. -/
def tidyFile : List UInt8 :=
  "# names\r\n\nimport numpy as np\r\n".toUTF8.data.toList

/-- A check of what is left of the file ends well, the statement in the third line is missed if it
    is deleted, and the fifth line is reported as it is without the blanks before it. -/
theorem check_reports_what_binds_nothing_untidyFile :
    isReadable untidyFile ∧
    (runProgram (.holding (.content tidyFile)) ["check"] (.fresh fun _ => false)).1 =
      .exited .success ∧
    (∃ before missing after, missing ≠ [] ∧
      (Load.ofOpened "imports" (.content untidyFile)).registrations = before ++ missing ++ after ∧
      (Load.ofOpened "imports" (.content (deleteLines (· == 3) untidyFile))).registrations =
        before ++ after) ∧
    ∃ line, (line, 5) ∈ (readable (splitLines untidyFile)).zipIdx 1 ∧ ¬IsIdle (trimmed line) ∧
      "from . import *" = trimmed line := by
  have hread : isReadable untidyFile := by decide +kernel
  have hstarts : ∃ session, (World.holding (.content tidyFile)).Starts ["check"] session ∧
      session.command = .check .text := ⟨_, ⟨_, rfl, rfl⟩, rfl⟩
  obtain ⟨session, hstarts, hcommand⟩ := hstarts
  obtain ⟨-, hcheck, hmissing, htext⟩ := check_reports_what_binds_nothing "imports" hread
  refine ⟨hread, hcheck _ ["check"] session .text _ hstarts hcommand ?_
    Console.accepts_fresh, (hmissing "import numpy as np" 3 ?_ ?_).2 ?_,
    htext ⟨5, "from . import *"⟩ ?_⟩
  · exact congrArg Opened.content (by decide +kernel)
  · decide +kernel
  · exact (isIdle_trimmed_iff _).not.2 (by decide +kernel)
  · decide +kernel
  · decide +kernel

end AutoImport
