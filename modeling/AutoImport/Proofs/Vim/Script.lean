import AutoImport.Proofs.Vim.Loads

/-!
# Scripts of anything

A name that was not read from an imports file may be any text. Quotes, brackets and equals signs in
it do no harm, as its literal ends where it was written to end: each registration is one command,
and the command is read back as the assignment that was registered.

A line feed does harm. It is written into the literal as it is, and there is no other way to write
it between single quotes. In a script it ends the line, and so the command; what follows is read as
a command of its own (`lines_script_qall`). So the lines of a script are its commands, one for each
registration, exactly if there is no line feed in what was registered (`lines_script_iff`).
-/

namespace AutoImport.Vim

/-- The characters of a text are in its literal. -/
theorem Literal.mem_write_of_mem {c : Char} {text : String} (h : c ∈ text.toList) :
    c ∈ (write text).toList := by
  rw [toList_write, List.mem_cons, List.mem_append]
  refine .inr (.inl (List.mem_flatMap.2 ⟨c, h, ?_⟩))
  split <;> simp_all

/-- There is a line feed in the text of a command only if there is one in a part of it. -/
theorem Command.lineFeed_mem_write_iff {c : Command} (htarget : '\n' ∉ c.target.toList) :
    '\n' ∈ c.write.toList ↔ '\n' ∈ c.key.toList ∨ '\n' ∈ c.value.toList := by
  constructor
  · intro h
    by_contra hparts
    exact lineFeed_not_mem_write htarget (fun hkey => hparts (.inl hkey))
      (fun hvalue => hparts (.inr hvalue)) h
  · intro h
    have hliteral := h.imp Literal.mem_write_of_mem Literal.mem_write_of_mem
    simp [write, hliteral]

variable {vars : Variables}

/-- Whatever is registered, each registration is one command, which is read back as the assignment
    of what was registered, and the script is these commands in order, each followed by a line feed.
    The commands are the lines of the script exactly if there is no line feed in what was
    registered. -/
theorem lines_script_iff (hvars : vars.IsPlain) (rs : List Registration) :
    let commands := vars.commands rs
    commands.map (fun text => Command.parse? text.toList) =
      rs.map (fun r => some (vars.command r)) ∧
    script commands = .join (commands.map (· ++ "\n")) ∧
    ((script commands).toList.splitOn '\n' = commands.map String.toList ++ [[]] ↔
      ∀ r ∈ rs, '\n' ∉ (vars.command r).key.toList ∧ '\n' ∉ (vars.command r).value.toList) := by
  intro commands
  have hne : ∀ command ∈ commands, command ≠ "" := by
    intro command hmem
    obtain ⟨r, -, rfl⟩ := List.mem_map.1 hmem
    exact (vars.command r).write_ne_empty
  have htarget (r : Registration) : '\n' ∉ (vars.command r).target.toList := by
    rcases vars.target_command r with h | h <;> rw [h]
    · exact hvars.lineFeed_not_mem.1
    · exact hvars.lineFeed_not_mem.2
  -- A command is a line if its parts are.
  have hline (r : Registration) : '\n' ∉ (vars.command r).write.toList ↔
      '\n' ∉ (vars.command r).key.toList ∧ '\n' ∉ (vars.command r).value.toList := by
    rw [Command.lineFeed_mem_write_iff (htarget r), not_or]
  refine ⟨?_, script_eq_join hne, ?_, ?_⟩
  · exact List.map_map.trans (List.map_congr_left fun r _ => Variables.parse?_command hvars r)
  · intro hlines r hr
    have hmem : (vars.command r).write.toList ∈ (script commands).toList.splitOn '\n' := by
      rw [hlines]
      exact List.mem_append_left _ (List.mem_map_of_mem (List.mem_map_of_mem hr))
    exact (hline r).1 (not_mem_of_mem_splitOn hmem)
  · intro hparts
    refine splitOn_script fun command hmem => ⟨hne command hmem, ?_⟩
    obtain ⟨r, hr, rfl⟩ := List.mem_map.1 hmem
    exact (hline r).2 (hparts r hr)

/-- Names that look like the end of a literal, and like a command behind it. -/
def quotedNames : List Registration :=
  [.name "it's'] = 'x' | qall" "", .rename "'" "''] = ''"]

/-- Such names are one line each. -/
theorem lines_script_iff_quotedNames : Variables.default.IsPlain ∧
    let commands := Variables.default.commands quotedNames
    commands.length = 2 ∧
      commands.map (fun text => Command.parse? text.toList) =
        [some ⟨"g:pythonImports", "it's'] = 'x' | qall", ""⟩,
          some ⟨"g:pythonImportAliases", "'", "''] = ''"⟩] ∧
      (script commands).toList.splitOn '\n' = commands.map String.toList ++ [[]] := by
  obtain ⟨hread, -, hlines⟩ := lines_script_iff Variables.isPlain_default quotedNames
  exact ⟨Variables.isPlain_default, rfl, hread.trans rfl, hlines.2 (by decide)⟩

/-- A name with line feeds in it is registered once, and has three lines. The second one is a
    command that nobody has registered. -/
theorem lines_script_qall :
    let commands := Variables.default.commands [.name "os\nqall!\n" ""]
    commands.length = 1 ∧
      (script commands).toList.splitOn '\n' =
        ["let g:pythonImports['os", "qall!", "'] = ''", ""].map String.toList ∧
      (script commands).toList.splitOn '\n' ≠ commands.map String.toList ++ [[]] := by
  decide +kernel

end AutoImport.Vim
