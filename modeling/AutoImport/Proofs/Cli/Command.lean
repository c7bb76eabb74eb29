import AutoImport.Proofs.Cli.Check
import AutoImport.Proofs.Pieces
import AutoImport.Proofs.Table.Listing

/-!
# What commands write

A command that loads the imports file writes some texts on standard output and then some on standard
error. These and its exit status are known before anything is written (`Command.exists_writes`), and
the exit status is decided by the load alone, whomever the command answers (`Command.status`).

* `Load.bindings_table_eq_nil_iff`: a load that has counted no name lists nothing, and one that has
  counted a name lists something;
* `Command.Writes`: what a command writes, and the exit status that it comes to.
-/

namespace AutoImport

/-! ## Exit statuses -/

/-- A load has counted a name for each binding in the lines it got to see. -/
theorem Load.imports_ofOpened (path : String) (opened : Opened) :
    (ofOpened path opened).report.imports = opened.bindings.length := by
  have hcount (b : Binding) : b.registrations.countP (!·.isRename) = 1 := by
    cases hr : b.renames <;> simp [Binding.registrations, hr, Registration.isRename]
  rw [(counts_ofOpened path opened).1, registrations_ofOpened, List.countP_flatMap]
  simp [Function.comp_def, hcount]

/-- A table of loads lists nothing exactly if nothing is declared. -/
theorem Table.bindings_ofLoads_eq_nil_iff (loads : List (String × Opened)) :
    (ofLoads loads).bindings = [] ↔ declared loads = [] := by
  rw [ofLoads_eq]
  constructor
  · intro hnil
    by_contra hne
    obtain ⟨b, hb⟩ := List.exists_mem_of_ne_nil _ hne
    -- The name of a declared binding has a module, and is listed with it.
    obtain ⟨q, hq⟩ := exists_lastOf? (p := (·.isNamed b.name)) hb (by simp [Binding.isNamed])
    have hmodule : (ofBindings (declared loads)).moduleOf? b.name = some q.module := by
      rw [moduleOf?_ofBindings, hq]
      rfl
    have hmem : Binding.plain q.module b.name ∈ (ofBindings (declared loads)).bindings :=
      List.mem_append_left _ (List.mem_map.2 ⟨_, Dictionary.mem_entries_iff.2 hmodule, rfl⟩)
    rw [hnil] at hmem
    cases hmem
  · intro hnil
    rw [hnil]
    rfl

namespace Load

/-- The table of what a load has told. -/
def table (load : Load) : Table :=
  Table.empty.registerAll load.registrations

/-- The table of a load lists nothing exactly if the load has counted no name. -/
theorem bindings_table_eq_nil_iff (path : String) (opened : Opened) :
    (ofOpened path opened).table.bindings = [] ↔ (ofOpened path opened).report.imports = 0 := by
  rw [imports_ofOpened, List.length_eq_zero_iff, ← declared_singleton path]
  exact Table.bindings_ofLoads_eq_nil_iff [(path, opened)]

end Load

namespace Command

/-- The exit status that a load comes to, if nothing that the command writes is refused. -/
def status (load : Load) : Command → ExitStatus
  | list _ => if 0 < load.report.imports then .success else .notFound
  | lookup name _ => if (load.table.resolve? name).isSome then .success else .notFound
  | check _ =>
    if load.failure?.isSome then .ioError
    else if load.report.unrecognized ≠ [] then .parseError
    else .success
  | vim | config => .success

/-- Whether a command has something to say on standard error: that something failed, or, to people,
    that there is nothing. -/
def Complains (load : Load) (c : Command) : Prop :=
  c.status load ≠ .success ∧ c ≠ .list .json

/-! ## Texts -/

/-- A command writes some texts on standard output and then some on standard error, and comes to its
    exit status. -/
structure Writes (c : Command) (terminal : Terminal) (settings : Settings) (load : Load)
    (outs errs : List String) : Prop where
  pieces : Writing.Writes (Piece.ofTexts outs errs) (c.status load) (c.run terminal settings load)
  complains_iff : String.join errs ≠ "" ↔ c.Complains load

variable {terminal : Terminal} {settings : Settings} {load : Load} {c : Command}

/-- A command that writes on standard output only has nothing to complain of. -/
theorem Writes.of_outs {outs : List String} {status : ExitStatus}
    (h : Writing.Writes (outs.map (Piece.mk .out)) status (c.run terminal settings load))
    (hstatus : c.status load = status) (hcomplains : ¬c.Complains load) :
    c.Writes terminal settings load outs [] where
  pieces := by rwa [Piece.ofTexts, List.map_nil, List.append_nil, hstatus]
  complains_iff := iff_of_false (· rfl) hcomplains

/-- A command that writes on standard error only complains. -/
theorem Writes.of_errs {errs : List String} {status : ExitStatus}
    (h : Writing.Writes (errs.map (Piece.mk .err)) status (c.run terminal settings load))
    (herrs : String.join errs ≠ "") (hstatus : c.status load = status)
    (hcomplains : c.Complains load) : c.Writes terminal settings load [] errs where
  pieces := by rwa [Piece.ofTexts, List.map_nil, List.nil_append, hstatus]
  complains_iff := iff_of_true herrs hcomplains

/-- A command lists what is in the table of the load. -/
theorem run_list (format : Format) : (list format).run terminal settings load =
    match format with
    | .json => Output.collection .json (load.table.bindings.map bindingAnswer) "imports"
    | .text =>
      if load.table.bindings.isEmpty then Output.notFound .text "Imports in" load.path
      else do
        Output.info .text ((Grid.ofBindings load.table.bindings).render terminal.isTerminal)
        return .success :=
  rfl

/-- A listing of bindings is one text on standard output. That there are none is one text too: on
    standard output for programs, and on standard error for people. -/
theorem exists_writes_list (format : Format)
    (hnil : load.table.bindings = [] ↔ load.report.imports = 0) :
    ∃ outs errs, (list format).Writes terminal settings load outs errs := by
  have hstatus : (list format).status load =
      if load.table.bindings = [] then .notFound else .success := by
    simp only [status, Nat.pos_iff_ne_zero, ne_eq, ← hnil, ite_not]
  by_cases h : load.table.bindings = []
  · rw [if_pos h] at hstatus
    cases format with
    | json =>
      obtain ⟨text, -, hwrites⟩ := Output.exists_writes_notFound .json "imports" "any"
      have hrun : (list .json).run terminal settings load =
          Output.notFound .json "imports" "any" := by
        simp [run_list, h, Output.collection]
      exact ⟨[text], [], .of_outs (hrun ▸ hwrites) hstatus fun hc => hc.2 rfl⟩
    | text =>
      obtain ⟨text, htext, hwrites⟩ := Output.exists_writes_notFound .text "Imports in" load.path
      have hrun : (list .text).run terminal settings load =
          Output.notFound .text "Imports in" load.path := by
        simp [run_list, h]
      exact ⟨[], [text], .of_errs (hrun ▸ hwrites) (by simpa [String.join_cons] using htext)
        hstatus ⟨by simp [hstatus], by simp⟩⟩
  · rw [if_neg h] at hstatus
    have hcomplains : ¬(list format).Complains load := fun hc => hc.1 hstatus
    cases format with
    | json =>
      have hrun : (list .json).run terminal settings load =
          Output.document .out (.success (.arr
            ((load.table.bindings.map bindingAnswer).map (·.json)))) := by
        simp [run_list, h, Output.collection]
      exact ⟨[_], [], .of_outs (hrun ▸ Output.writes_document .out _) hstatus hcomplains⟩
    | text =>
      have hrun : (list .text).run terminal settings load =
          Output.info .text ((Grid.ofBindings load.table.bindings).render terminal.isTerminal) >>=
            fun _ => pure .success := by
        simp [run_list, h]
      obtain ⟨texts, hwrites⟩ := Output.exists_writes_info .text
        ((Grid.ofBindings load.table.bindings).render terminal.isTerminal)
      refine ⟨texts, [], .of_outs ?_ hstatus hcomplains⟩
      rw [hrun, ← List.append_nil (texts.map _)]
      exact hwrites.bind (.pure _)

/-- The answer to a lookup is one text on standard output, and that there is none is said on
    standard error. -/
theorem exists_writes_lookup (name : String) (format : Format) :
    ∃ outs errs, (lookup name format).Writes terminal settings load outs errs := by
  cases h : load.table.resolve? name with
  | some b =>
    have hstatus : (lookup name format).status load = .success := by simp [status, h]
    have hrun : (lookup name format).run terminal settings load =
        Output.success format (lookupAnswer b) := by
      rw [run, runLookup, ← Load.table, h]
    obtain ⟨text, hwrites⟩ := Output.exists_writes_success format (lookupAnswer b)
    exact ⟨[text], [], .of_outs (hrun ▸ hwrites) hstatus fun hc => hc.1 hstatus⟩
  | none =>
    have hstatus : (lookup name format).status load = .notFound := by simp [status, h]
    have hrun : (lookup name format).run terminal settings load =
        Output.failure format (.nameNotFound name) none := by
      rw [run, runLookup, ← Load.table, h]
    obtain ⟨texts, htexts, hwrites⟩ := Output.exists_writes_failure format (.nameNotFound name) none
    exact ⟨[], texts, .of_errs (hrun ▸ hwrites) htexts hstatus ⟨by simp [hstatus], by simp⟩⟩

/-- The Vim commands are one text, on standard output. -/
theorem writes_vim : vim.Writes terminal settings load
    [Vim.script (settings.vim.commands load.registrations)] [] :=
  .of_outs (Writing.Writes.bind (Writing.writes_write .out _) (.pure _)) rfl fun hc => hc.1 rfl

/-- A load that has left nothing out is reported on standard output. -/
theorem exists_writes_reportLoad (format : Format) (report : Report) :
    ∃ outs : List String, Writing.Writes (outs.map (Piece.mk .out)) .success
      (reportLoad terminal format report) := by
  cases format with
  | json =>
    obtain ⟨text, hwrites⟩ := Output.exists_writes_success .json ⟨report.label, report.toJson⟩
    exact ⟨[text], hwrites⟩
  | text =>
    obtain ⟨table, htable⟩ := Output.exists_writes_info .text
      ((Grid.ofReport report).render terminal.isTerminal)
    obtain ⟨good, hgood⟩ := Output.exists_writes_info .text
      (terminal.success "All lines recognized")
    refine ⟨table ++ good, ?_⟩
    rw [List.map_append, ← List.append_nil (good.map _)]
    exact htable.bind (hgood.bind (.pure _))

/-- Texts that are for people only are written on standard output. -/
theorem exists_writes_forM_info {α : Type} (format : Format) (text : α → String) (xs : List α) :
    ∃ outs : List String, Writing.Writes (outs.map (Piece.mk .out)) ⟨⟩
      (xs.forM fun x => Output.info format (text x)) := by
  induction xs with
  | nil => exact ⟨[], .pure _⟩
  | cons x xs ih =>
    obtain ⟨first, hfirst⟩ := Output.exists_writes_info format (text x)
    obtain ⟨rest, hrest⟩ := ih
    refine ⟨first ++ rest, ?_⟩
    rw [List.map_append]
    exact hfirst.bind hrest

/-- The lines outside the grammar are listed for people on standard output, and that there are some
    is said on standard error. -/
theorem exists_writes_check (format : Format) :
    ∃ outs errs, (check format).Writes terminal settings load outs errs := by
  cases hfailure : load.failure? with
  | some f =>
    have hstatus : (check format).status load = .ioError := by simp [status, hfailure]
    have hexit : f.exitStatus = .ioError := by
      obtain ⟨cause, -, rfl⟩ := Option.map_eq_some_iff.1 hfailure
      rfl
    have hrun : (check format).run terminal settings load = Output.failure format f none := by
      rw [run, runCheck, hfailure]
    obtain ⟨texts, htexts, hwrites⟩ := Output.exists_writes_failure format f none
    exact ⟨[], texts, .of_errs (hrun ▸ hwrites) htexts (hstatus.trans hexit.symm)
      ⟨by simp [hstatus], by simp⟩⟩
  | none =>
    by_cases hlisted : load.report.unrecognized = []
    · have hstatus : (check format).status load = .success := by simp [status, hfailure, hlisted]
      have hrun : (check format).run terminal settings load =
          reportLoad terminal format load.report := runCheck_eq_reportLoad _ _ hfailure hlisted
      obtain ⟨outs, hwrites⟩ := exists_writes_reportLoad format load.report
      exact ⟨outs, [], .of_outs (hrun ▸ hwrites) hstatus fun hc => hc.1 hstatus⟩
    · have hstatus : (check format).status load = .parseError := by
        simp [status, hfailure, hlisted]
      let lines : Writing PUnit := load.report.unrecognized.forM fun line =>
        Output.info format (unrecognizedText terminal load.path line)
      let f : Failure := .unrecognizedLines load.path load.report.unrecognized.length
      let context : Json := .arr (load.report.unrecognized.map (·.toJson))
      have hrun : (check format).run terminal settings load =
          lines >>= fun _ => Output.failure format f (some context) := by
        simp [run, runCheck, hfailure, hlisted, lines, f, context]
      obtain ⟨outs, hlines⟩ := exists_writes_forM_info format
        (unrecognizedText terminal load.path) load.report.unrecognized
      obtain ⟨texts, htexts, hwrites⟩ := Output.exists_writes_failure format f (some context)
      refine ⟨outs, texts, ?_, iff_of_true htexts ⟨by simp [hstatus], by simp⟩⟩
      rw [hrun, hstatus]
      exact hlines.bind hwrites

/-- A command other than that for the settings writes texts that are known before, and comes to its
    exit status. -/
theorem exists_writes {path : String} {opened : Opened} (hload : load = .ofOpened path opened)
    (hc : c ≠ .config) : ∃ outs errs, c.Writes terminal settings load outs errs := by
  cases c with
  | list format =>
    exact exists_writes_list format (hload ▸ Load.bindings_table_eq_nil_iff path opened)
  | lookup name format => exact exists_writes_lookup name format
  | vim => exact ⟨_, _, writes_vim⟩
  | check format => exact exists_writes_check format
  | config => exact absurd rfl hc

end Command

end AutoImport
