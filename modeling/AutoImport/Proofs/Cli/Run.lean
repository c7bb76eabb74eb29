import AutoImport.Proofs.Cli.Command

/-!
# Runs of sessions

A session writes its notices and then carries out its command. What is seen of a run, apart from
standard error, is how it ends and what is on standard output (`seen`). Both are those of the
command alone (`Session.seen_run`): notices are written to standard error, and the loss of one does
not matter. Only a line of the log that is refused does, as it aborts the run.

What is seen of a command follows from the texts that it writes (`Session.seen_carryOut`). If one of
them is refused then the command ends as a general error, and standard output has those before.
-/

namespace AutoImport

/-- What is seen of a run, apart from standard error. -/
def seen (r : Ending × Console) : Ending × String :=
  (r.1, r.2.out)

/-- A failure that is told instead of a refused text leaves standard output alone, and its own exit
    status is that of a general error, as is the one where it cannot be told. -/
theorem sayFailure_general (format : Format) (text : String) (console : Console) :
    (sayFailure format (.general text) .generalError console).1 = .generalError ∧
    (sayFailure format (.general text) .generalError console).2.out = console.out := by
  obtain ⟨texts, -, hwrites⟩ := Output.exists_writes_failure format (.general text) none
  have hout (ps : List Piece) (hps : ps ⊆ texts.map (Piece.mk .err)) :
      (console.appendAll ps).out = console.out := by
    rw [Console.out_appendAll, Piece.textOn_eq_empty, String.append_empty]
    intro p hp
    obtain ⟨text, -, rfl⟩ := List.mem_map.1 (hps hp)
    simp
  rw [sayFailure, hwrites.run_eq]
  cases (texts.map (Piece.mk .err)).any (·.isRefused console.refuses) with
  | true => exact ⟨rfl, hout _ (List.takeWhile_subset _)⟩
  | false => exact ⟨rfl, hout _ (List.Subset.refl _)⟩

/-- A line whose loss does not matter is written, or dropped. -/
theorem Writing.run_offerLine (stream : Stream) (text : String) (console : Console) :
    (offerLine stream text).run console = .ok () (if console.refuses stream then console
      else console.append stream (text ++ "\n")) := by
  have hcatch : (offerLine stream text).run console =
      EStateM.tryCatch (writeLine stream text) (fun _ => pure ()) console := rfl
  rw [hcatch, EStateM.tryCatch, show writeLine stream text console = _ from run_writeLine ..]
  cases console.refuses stream <;> rfl

/-- What a notice is written as. -/
def Notice.piece (time : String) : Notice → Piece
  | shown text => ⟨.err, text ++ "\n"⟩
  | logged event => ⟨.err, Log.line time event ++ "\n"⟩

theorem Notice.stream_piece (time : String) (n : Notice) : (n.piece time).stream = .err := by
  cases n <;> rfl

/-- Where standard error refuses, a notice is dropped unless it is a line of the log. -/
theorem Notice.run_write (time : String) (n : Notice) (console : Console) :
    (n.write time).run console =
      if console.refuses .err then
        if n.logged?.isSome then .error .noSpaceLeft console else .ok () console
      else .ok () (console.append .err (n.piece time).text) := by
  cases n with
  | shown text =>
    rw [write, Writing.run_offerLine]
    cases console.refuses .err <;> rfl
  | logged event => exact Writing.run_writeLine .err (Log.line time event) console

/-- Where standard error refuses, notices are dropped up to the first line of the log, which ends
    the writing. Elsewhere all of them are written. -/
theorem run_forM_notices (time : String) (notices : List Notice) (console : Console) :
    (notices.forM (Notice.write time)).run console =
      if console.refuses .err then
        if notices.any (·.logged?.isSome) then .error .noSpaceLeft console else .ok ⟨⟩ console
      else .ok ⟨⟩ (console.appendAll (notices.map (·.piece time))) := by
  induction notices generalizing console with
  | nil => simp [Console.appendAll]
  | cons n notices ih =>
    have hcons : (n :: notices).forM (Notice.write time) =
        n.write time >>= fun _ => notices.forM (Notice.write time) := rfl
    rw [hcons, EStateM.run_bind, Notice.run_write, List.any_cons]
    cases hrefuses : console.refuses .err with
    | true =>
      cases hlogged : n.logged?.isSome with
      | true => rfl
      | false =>
        have hrest := ih console
        rw [hrefuses] at hrest
        exact hrest
    | false =>
      have hrest := ih (console.append .err (n.piece time).text)
      rw [Console.refuses_append, hrefuses] at hrest
      refine hrest.trans ?_
      rw [Console.appendAll, Console.appendAll, List.map_cons, List.foldl_cons, n.stream_piece time]
      rfl

namespace Session

variable {session : Session} {terminal : Terminal} {load : Load} {outs errs : List String}

/-- A command exits with its status, and all its texts for standard output are there. If one of its
    texts is refused then it exits as a general error, and those before are there. -/
theorem seen_carryOut (h : session.command.Writes terminal session.settings load outs errs)
    (hcommand : session.command ≠ .config) (console : Console) :
    let pieces := Piece.ofTexts outs errs
    seen (session.carryOut terminal load console) =
      (.exited (if pieces.any (·.isRefused console.refuses) then .generalError
        else session.command.status load),
      console.out ++ Piece.textOn .out (Piece.beforeRefused console.refuses pieces)) := by
  have hpieces := h.pieces
  -- What the pieces are does not matter.
  generalize Piece.ofTexts outs errs = pieces at hpieces ⊢
  dsimp only
  rw [carryOut, hpieces.run_eq]
  cases hrefused : pieces.any (·.isRefused console.refuses) with
  | true =>
    obtain ⟨hstatus, hout⟩ := sayFailure_general session.command.format OsError.noSpaceLeft.message
      (console.appendAll (Piece.beforeRefused console.refuses pieces))
    simp only [if_true, hcommand, if_false, seen, hstatus, hout, Console.out_appendAll]
  | false =>
    rw [Piece.beforeRefused_eq_self hrefused]
    exact congrArg (Prod.mk _) (console.out_appendAll pieces)

/-- Of a command is seen the same wherever the same is refused and the same is on standard output
    before. -/
theorem seen_carryOut_congr (h : session.command.Writes terminal session.settings load outs errs)
    (hcommand : session.command ≠ .config) {console console' : Console}
    (hrefuses : console.refuses = console'.refuses) (hout : console.out = console'.out) :
    seen (session.carryOut terminal load console) =
      seen (session.carryOut terminal load console') := by
  rw [seen_carryOut h hcommand, seen_carryOut h hcommand, hrefuses, hout]

/-- The command of a session writes texts that are known before. -/
theorem exists_writes (session : Session) (terminal : Terminal) (opened : Opened)
    (hcommand : session.command ≠ .config) : ∃ outs errs,
      session.command.Writes terminal session.settings
        (.ofOpened session.settings.importsFile opened) outs errs :=
  Command.exists_writes rfl hcommand

/-- Of a session is seen what is seen of its command, unless a line of the log is refused. -/
theorem seen_run (hcommand : session.command ≠ .config) (terminal : Terminal) (time : String)
    (opened : Opened) (console : Console) :
    let load := Load.ofOpened session.settings.importsFile opened
    seen (session.run terminal time opened console) =
      if console.refuses .err && (session.notices load).any (·.logged?.isSome) then
        (.aborted, console.out)
      else seen (session.carryOut terminal load console) := by
  intro load
  obtain ⟨outs, errs, h⟩ := session.exists_writes terminal opened hcommand
  rw [run, run_forM_notices]
  cases hrefuses : console.refuses .err with
  | true => cases (session.notices load).any (·.logged?.isSome) <;> rfl
  | false =>
    -- The notices are on standard error only.
    refine seen_carryOut_congr h hcommand (Console.refuses_appendAll _ _) ?_
    rw [Console.out_appendAll, Piece.textOn_eq_empty, String.append_empty]
    intro p hp
    obtain ⟨n, -, rfl⟩ := List.mem_map.1 hp
    rw [Notice.stream_piece]
    decide

/-- Where nothing is refused, a session exits with the status of its command, and all its texts for
    standard output are there. -/
theorem seen_run_of_accepts {time : String} {opened : Opened} {console : Console}
    (h : session.command.Writes terminal session.settings
      (.ofOpened session.settings.importsFile opened) outs errs)
    (hcommand : session.command ≠ .config) (hconsole : console.Accepts) :
    seen (session.run terminal time opened console) =
      (.exited (session.command.status (.ofOpened session.settings.importsFile opened)),
        console.out ++ .join outs) := by
  have hrefused : (Piece.ofTexts outs errs).any (·.isRefused console.refuses) = false :=
    Piece.any_isRefused_eq_false fun stream hrefuses => by simp [hconsole stream] at hrefuses
  rw [seen_run hcommand, hconsole, Bool.false_and, if_neg Bool.false_ne_true,
    seen_carryOut h hcommand]
  simp only [hrefused, Piece.textOn_out_beforeRefused_ofTexts (hconsole .out), Bool.false_eq_true,
    if_false]

end Session

end AutoImport
