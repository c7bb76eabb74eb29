import AutoImport.Proofs.Line.Statement
import AutoImport.Proofs.Table.Loads
import AutoImport.Proofs.Text.Separated
import AutoImport.Proofs.Vim.Command

/-!
# Commands of loads

A keeper of names that writes commands and one that is a table are told the same by the same loads.
An editor that carries out the commands then has in its variables what the table has
(`Variables.ofLoads_agrees`).

* Each registration is one command, and one step of the table. The step keeps the two in agreement
  (`Agrees.run`), so that any number of them does (`Agrees.runAll`).
* The commands can be read back. Nothing in a name that an imports file declares ends a line
  (`lineFeed_not_mem_command`), so that the lines of a script are its commands (`splitOn_script`).
-/

namespace AutoImport.Vim

/-! ## Lines of a script -/

/-- A script is its commands, each of them followed by a line feed. -/
theorem script_eq_join {commands : List String} (h : ∀ command ∈ commands, command ≠ "") :
    script commands = .join (commands.map (· ++ "\n")) := by
  have hjoin (command : String) (commands : List String) :
      "\n".intercalate (command :: commands) ++ "\n" =
        .join ((command :: commands).map (· ++ "\n")) := by
    induction commands generalizing command with
    | nil =>
      rw [String.intercalate_singleton, List.map_singleton]
      exact (String.join_cons.trans String.append_empty).symm
    | cons command' commands ih =>
      rw [String.intercalate_cons_cons, List.map_cons, String.join_cons, ← ih command',
        String.append_assoc]
  cases commands with
  | nil => rfl
  | cons command commands =>
    -- What is joined is not empty, for its first command is not.
    have hnot : ¬("\n".intercalate (command :: commands)).isEmpty := by
      have hcommand := h command List.mem_cons_self
      rw [String.isEmpty_iff]
      cases commands with
      | nil => rwa [String.intercalate_singleton]
      | cons c cs =>
        rw [String.intercalate_cons_cons, String.append_eq_empty_iff, String.append_eq_empty_iff]
        exact fun hempty => hcommand hempty.1.1
    rw [script, if_neg hnot, hjoin]

/-- The commands of a script are its lines, and there is nothing behind the last line feed. -/
theorem splitOn_script {commands : List String}
    (h : ∀ command ∈ commands, command ≠ "" ∧ '\n' ∉ command.toList) :
    (script commands).toList.splitOn '\n' = commands.map String.toList ++ [[]] := by
  rw [script_eq_join fun command hmem => (h command hmem).1]
  exact splitOn_join_lines fun command hmem => (h command hmem).2

namespace Command

/-- A command is a line if its parts are. -/
theorem lineFeed_not_mem_write {c : Command} (htarget : '\n' ∉ c.target.toList)
    (hkey : '\n' ∉ c.key.toList) (hvalue : '\n' ∉ c.value.toList) :
    '\n' ∉ c.write.toList := by
  have hliteral {text : String} (h : '\n' ∉ text.toList) : '\n' ∉ (Literal.write text).toList :=
    fun hmem => (Literal.mem_write hmem).elim (by decide) h
  simp [write, htarget, hliteral hkey, hliteral hvalue]

theorem write_ne_empty (c : Command) : c.write ≠ "" := by
  intro h
  have hlist := congrArg String.toList h
  rw [toList_write] at hlist
  cases hlist

end Command

/-! ## Variables in agreement with a table -/

/-- The variables that commands assign to are two, and can be read back off a line. -/
structure Variables.IsPlain (vars : Variables) : Prop where
  imports_ne_aliases : vars.imports ≠ vars.aliases
  bracket_not_mem : '[' ∉ vars.imports.toList ∧ '[' ∉ vars.aliases.toList
  lineFeed_not_mem : '\n' ∉ vars.imports.toList ∧ '\n' ∉ vars.aliases.toList

/-- An editor has in one variable the modules and in the other the names that a table has, and
    nothing in any other variable. -/
structure Agrees (vars : Variables) (editor : Editor) (t : Table) : Prop where
  imports : ∀ key, editor vars.imports key = t.moduleOf? key
  aliases : ∀ key, editor vars.aliases key = t.nameOf? key
  others : ∀ target, target ≠ vars.imports → target ≠ vars.aliases →
    ∀ key, editor target key = none

/-- An editor in which no dictionary has a key. -/
def Editor.empty : Editor := fun _ _ => none

/-- The variable that a command for a registration assigns to. -/
theorem Variables.target_command (vars : Variables) (r : Registration) :
    (vars.command r).target = vars.imports ∨ (vars.command r).target = vars.aliases := by
  cases r with
  | name n m => exact .inl rfl
  | rename a n => exact .inr rfl

variable {vars : Variables}

namespace Agrees

variable {editor : Editor} {t : Table}

theorem empty : Agrees vars .empty .empty :=
  ⟨fun _ => rfl, fun _ => rfl, fun _ _ _ _ => rfl⟩

/-- The command for a registration does to the editor what the registration does to the table. -/
theorem run (h : Agrees vars editor t) (hvars : vars.imports ≠ vars.aliases) (r : Registration) :
    Agrees vars ((vars.command r).run editor) (t.register r) := by
  -- Each variable is assigned to by the registrations of its own kind, and kept by the others, as
  -- the two are not one.
  constructor
  · intro key
    rw [Table.moduleOf?_register, ← h.imports key]
    cases r with
    | name n m =>
      by_cases hkey : key = n <;>
        simp [Command.run, Variables.command, Registration.module?, hkey]
    | rename a n => simp [Command.run, Variables.command, Registration.module?, hvars]
  · intro key
    rw [Table.nameOf?_register, ← h.aliases key]
    cases r with
    | name n m => simp [Command.run, Variables.command, Registration.target?, hvars.symm]
    | rename a n =>
      by_cases hkey : key = a <;>
        simp [Command.run, Variables.command, Registration.target?, hkey]
  · intro target himports haliases key
    have htarget : target ≠ (vars.command r).target := fun heq =>
      (vars.target_command r).elim (fun h => himports (heq.trans h)) fun h => haliases (heq.trans h)
    rw [Command.run, if_neg fun h => htarget h.1]
    exact h.others target himports haliases key

/-- The commands for registrations do to the editor what the registrations do to the table. -/
theorem runAll (h : Agrees vars editor t) (hvars : vars.imports ≠ vars.aliases)
    (rs : List Registration) :
    Agrees vars ((rs.map vars.command).foldl Command.run editor) (t.registerAll rs) := by
  induction rs generalizing editor t with
  | nil => exact h
  | cons r rs ih => exact ih (h.run hvars r)

end Agrees

/-! ## Loads -/

namespace Variables

/-- The texts of the commands after one more load. -/
def load (vars : Variables) (commands : List String) (path : String) (opened : Opened) :
    List String :=
  commands ++ vars.commands (Load.ofOpened path opened).registrations

/-- The texts of the commands for loads, one after the other, with nothing before. -/
def ofLoads (vars : Variables) (loads : List (String × Opened)) : List String :=
  loads.foldl (fun commands opened => vars.load commands opened.1 opened.2) []

theorem commands_append (vars : Variables) (rs rs' : List Registration) :
    vars.commands (rs ++ rs') = vars.commands rs ++ vars.commands rs' :=
  List.map_append

/-- The commands of loads are those for what the declared bindings register. -/
theorem ofLoads_eq (vars : Variables) (loads : List (String × Opened)) :
    vars.ofLoads loads = vars.commands ((declared loads).flatMap (·.registrations)) := by
  have happend (commands : List String) (rs rs' : List Registration) : commands ++
      vars.commands (rs ++ rs') = commands ++ vars.commands rs ++ vars.commands rs' := by
    rw [commands_append, List.append_assoc]
  exact foldl_tell (· ++ vars.commands ·) List.append_nil happend loads []

/-- There is no line feed in the command for what a binding of the grammar registers. -/
theorem lineFeed_not_mem_command (hvars : vars.IsPlain) {b : Binding} (hb : b.IsGrammatical)
    {r : Registration} (hr : r ∈ b.registrations) : '\n' ∉ (vars.command r).write.toList := by
  have hchar : isModuleChar '\n' = false := by decide
  have hname := not_mem_of_isIdentifier hchar hb.1
  have hlocal := not_mem_of_isIdentifier hchar hb.2.1
  have hmodule := hb.not_mem_module hchar
  rw [Binding.registrations, List.mem_cons] at hr
  rcases hr with rfl | hr
  · exact Command.lineFeed_not_mem_write hvars.lineFeed_not_mem.1 hname hmodule
  · split at hr
    · obtain rfl := List.mem_singleton.1 hr
      exact Command.lineFeed_not_mem_write hvars.lineFeed_not_mem.2 hlocal hname
    · cases hr

/-- A command is read back as the assignment it was made from. -/
theorem parse?_command (hvars : vars.IsPlain) (r : Registration) :
    Command.parse? (vars.command r).write.toList = some (vars.command r) := by
  refine Command.parse?_eq_some_iff.2 ⟨rfl, ?_⟩
  rcases vars.target_command r with h | h <;> rw [h]
  · exact hvars.bracket_not_mem.1
  · exact hvars.bracket_not_mem.2

/-- The lines of the script for loads are the commands, and each of them is read as an assignment to
    one of the two variables. An editor that has nothing in any variable, and carries out these
    assignments in order, then has in the two what the table of the same loads has. -/
theorem ofLoads_agrees (hvars : vars.IsPlain) (loads : List (String × Opened)) :
    (script (vars.ofLoads loads)).toList.splitOn '\n' =
      (vars.ofLoads loads).map String.toList ++ [[]] ∧
    ∃ commands : List Command,
      (vars.ofLoads loads).map (fun text => Command.parse? text.toList) = commands.map some ∧
      (∀ c ∈ commands, c.target = vars.imports ∨ c.target = vars.aliases) ∧
      Agrees vars (commands.foldl Command.run .empty) (Table.ofLoads loads) := by
  rw [ofLoads_eq, Table.ofLoads_eq]
  refine ⟨splitOn_script ?_, _, ?_, ?_, Agrees.empty.runAll hvars.imports_ne_aliases _⟩
  · intro text htext
    obtain ⟨r, hr, rfl⟩ := List.mem_map.1 htext
    obtain ⟨b, hb, hr⟩ := List.mem_flatMap.1 hr
    exact ⟨Command.write_ne_empty _,
      lineFeed_not_mem_command hvars (isGrammatical_of_mem_declared hb) hr⟩
  · rw [Variables.commands, List.map_map, List.map_map]
    exact List.map_congr_left fun r _ => parse?_command hvars r
  · intro c hc
    obtain ⟨r, -, rfl⟩ := List.mem_map.1 hc
    exact vars.target_command r

/-- The variables used unless the settings say otherwise can be read back. -/
theorem isPlain_default : Variables.default.IsPlain :=
  ⟨by decide, by decide, by decide⟩

/-- Two loads, of which the second stops at its second line, and renames a name of the first. -/
def renamedLater : List (String × Opened) :=
  [("imports", .content "import numpy\nfrom os.path import join\n".toUTF8.data.toList),
    ("more", .content ("import numpy as np\n".toUTF8.data.toList ++ [255]))]

/-- The script for the two loads can be read back, and what it leaves in the variables is what the
    loads declare. -/
theorem ofLoads_agrees_renamedLater : Variables.default.IsPlain ∧
    ∃ commands : List Command,
      (Variables.default.ofLoads renamedLater).map (fun text => Command.parse? text.toList) =
        commands.map some ∧
      commands.foldl Command.run .empty "g:pythonImports" "join" = some "os.path" ∧
      commands.foldl Command.run .empty "g:pythonImportAliases" "np" = some "numpy" := by
  obtain ⟨-, commands, hread, -, hagrees⟩ := ofLoads_agrees isPlain_default renamedLater
  exact ⟨isPlain_default, commands, hread, (hagrees.imports "join").trans (by decide +kernel),
    (hagrees.aliases "np").trans (by decide +kernel)⟩

end Variables

end AutoImport.Vim
