import AutoImport.Proofs.Cli.Session
import AutoImport.Proofs.Line.Statement
import AutoImport.Proofs.Table.Invariant

/-!
# What a lookup inserts

A symbol that is typed is to be bound by what is inserted for it (`Binding.Binds`). A table that was
filled by loads answers like this, as its answers are put together from declared bindings
(`Table.binds_of_resolve?`); and a lookup that ends well has written the statement of such a binding
to standard output, and nothing else (`Session.run_lookup`), whatever was said and logged before.
-/

namespace AutoImport

/-! ## Bindings for a symbol -/

/-- The statement of a binding binds a symbol: it is one line, which is read as this binding and no
    other, and the binding has the symbol as its local name. -/
structure Binding.Binds (b : Binding) (s : String) : Prop where
  reads : ∃ names, readLine? b.statement = some names ∧ names.drain = ([b], [])
  localName : b.localName = s
  renames : b.renames ↔ b.name ≠ s
  oneLine : '\n' ∉ b.statement.toList

namespace Table

variable {loads : List (String × Opened)} {s : String} {b : Binding}

/-- The statement of an answer of a table of loads binds the symbol asked for. -/
theorem binds_of_resolve? (h : (ofLoads loads).resolve? s = some b) : b.Binds s := by
  obtain ⟨hb, rfl⟩ := (wellFormed_ofLoads loads).isGrammatical_of_resolve? h
  exact ⟨hb.readLine?_statement, rfl, hb.renames_iff.trans ne_comm, hb.lineFeed_not_mem_statement⟩

end Table

/-! ## Sessions -/

/-- No failure is a success. -/
theorem Failure.exitStatus_ne_success (f : Failure) : f.exitStatus ≠ .success := by
  intro h
  cases f <;> cases h

/-- To say that something failed is no success, whether or not it can be said. -/
theorem sayFailure_ne_success {unsaid : ExitStatus} (h : unsaid ≠ .success) (format : Format)
    (f : Failure) (console : Console) : (sayFailure format f unsaid console).1 ≠ .success := by
  rw [sayFailure]
  split
  · -- What can be said gives the exit status of the failure.
    rename_i status console' hrun
    rw [Output.returns_failure format f none console status console' hrun]
    exact f.exitStatus_ne_success
  · exact h

namespace Session

variable {session : Session} {terminal : Terminal} {name : String} {console console' : Console}

/-- A command ends well only if nothing it writes is refused. -/
theorem run_of_carryOut {load : Load}
    (h : session.carryOut terminal load console = (.exited .success, console')) :
    (session.command.run terminal session.settings load).run console = .ok .success console' := by
  rw [carryOut] at h
  -- Whatever is refused ends the run as a failure or aborts it.
  split at h
  · rename_i status console₁ hrun
    cases h
    exact hrun
  · split at h
    · cases h
    · exact absurd (congrArg Prod.fst h) fun hexited =>
        sayFailure_ne_success (by decide) _ _ _ (Ending.exited.inj hexited)

/-- A lookup that is carried out well has found a binding, and written its statement. -/
theorem carryOut_lookup {load : Load} (hcommand : session.command = .lookup name .text)
    (h : session.carryOut terminal load console = (.exited .success, console')) :
    ∃ b, (Table.empty.registerAll load.registrations).resolve? name = some b ∧
      console'.out = console.out ++ (b.statement ++ "\n") := by
  have hrun := run_of_carryOut h
  rw [hcommand, Command.run, Command.runLookup] at hrun
  cases hresolve : (Table.empty.registerAll load.registrations).resolve? name with
  | none =>
    rw [hresolve] at hrun
    -- The exit status would be that of a name that is not found.
    have hstatus := Output.returns_failure .text (.nameNotFound name) none console _ console' hrun
    cases hstatus
  | some b =>
    rw [hresolve] at hrun
    refine ⟨b, rfl, ?_⟩
    change (Output.success .text (lookupAnswer b)).run console = _ at hrun
    rw [Output.run_success_text] at hrun
    split at hrun
    · cases hrun
    · cases hrun
      rfl

/-- A session that ends a lookup well has found a binding among those loaded, and written its
    statement. -/
theorem run_lookup {time : String} {opened : Opened}
    (hcommand : session.command = .lookup name .text)
    (h : session.run terminal time opened console = (.exited .success, console')) :
    ∃ b, (Table.ofLoads [(session.settings.importsFile, opened)]).resolve? name = some b ∧
      console'.out = console.out ++ (b.statement ++ "\n") := by
  rw [run] at h
  split at h
  · cases h
  · rename_i console₁ hnotices
    -- What was said and logged before is not on standard output.
    have hkeeps : Writing.Keeps Console.out
        ((session.notices (.ofOpened session.settings.importsFile opened)).forM
          (Notice.write time)) := .forM fun n _ => n.keeps_out_write time
    have hout := hkeeps console
    rw [Writing.after, hnotices] at hout
    obtain ⟨b, hb, hwritten⟩ := carryOut_lookup hcommand h
    exact ⟨b, hb, hwritten.trans (congrArg (· ++ _) hout)⟩

/-- A session carries out the command of its command line. -/
theorem command_of_start {inv : Invocation} {env : Environment} {file? : Option FoundFile}
    (h : start inv env file? = .ok session) : session.command = inv.command := by
  rw [start] at h
  split at h <;> cases h <;> rfl

end Session

/-! ## The program -/

/-- A run of the program that ends a lookup well has written the statement of a binding among those
    loaded. -/
theorem runProgram_lookup {world : World} {args : List String} {inv : Invocation} {s : String}
    {console console' : Console} (hread : Invocation.read args = .ok inv)
    (hcommand : inv.command = .lookup s .text)
    (h : runProgram world args console = (.exited .success, console')) :
    ∃ path b, (Table.ofLoads [(path, world.openPath path)]).resolve? s = some b ∧
      console'.out = console.out ++ (b.statement ++ "\n") := by
  rw [runProgram, hread] at h
  dsimp only at h
  split at h
  · exact absurd (congrArg Prod.fst h) fun hexited =>
      sayFailure_ne_success (by decide) _ _ _ (Ending.exited.inj hexited)
  · rename_i session hstart
    have hsession := (Session.command_of_start hstart).trans hcommand
    obtain ⟨b, hb, hout⟩ := Session.run_lookup hsession h
    exact ⟨session.settings.importsFile, b, hb, hout⟩

/-- Whatever was loaded, a binding that is answered for a symbol has a statement that binds it; and
    if the program ends a lookup well, then what it has put on standard output is the line of such
    a statement. -/
theorem lookup_binds_symbol (s : String) :
    (∀ (loads : List (String × Opened)) (b : Binding),
      (Table.ofLoads loads).resolve? s = some b → b.Binds s) ∧
    (∀ (world : World) (args : List String) (inv : Invocation) (refuses : Stream → Bool)
      (console : Console),
      Invocation.read args = .ok inv → inv.command = .lookup s .text →
      runProgram world args (.fresh refuses) = (.exited .success, console) →
      ∃ path b, (Table.ofLoads [(path, world.openPath path)]).resolve? s = some b ∧ b.Binds s ∧
        console.out = b.statement ++ "\n") := by
  refine ⟨fun loads b h => Table.binds_of_resolve? h, ?_⟩
  intro world args inv refuses console hread hcommand hrun
  obtain ⟨path, b, hb, hout⟩ := runProgram_lookup hread hcommand hrun
  exact ⟨path, b, hb, Table.binds_of_resolve? hb, hout.trans String.empty_append⟩

/-- A file of one statement, with a second line that is not UTF-8. -/
def brokenFile : Opened :=
  .content ("import numpy as np\n".toUTF8.data.toList ++ [255])

/-- A world in which every path is that of this file. -/
def brokenFileWorld : World where
  env := ⟨[], none⟩
  terminal := ⟨false, false⟩
  time := ""
  search? _ := none
  openPath _ := brokenFile

/-- A lookup in a file that cannot be read to its end. -/
theorem lookup_binds_symbol_brokenFile :
    (⟨"", "numpy", "np"⟩ : Binding).Binds "np" ∧
    ∃ path b, (Table.ofLoads [(path, brokenFile)]).resolve? "np" = some b ∧ b.Binds "np" ∧
      (runProgram brokenFileWorld ["lookup", "np"] (.fresh fun _ => false)).2.out =
        b.statement ++ "\n" := by
  obtain ⟨hresolve, hlookup⟩ := lookup_binds_symbol "np"
  refine ⟨hresolve [("imports", brokenFile)] _ ?_, hlookup brokenFileWorld ["lookup", "np"]
    ⟨none, none, false, .lookup "np" .text⟩ _ _ ?_ rfl (Prod.ext ?_ rfl)⟩
  · decide +kernel
  · rfl
  · decide +kernel

end AutoImport
