import AutoImport.Proofs.Cli.Session
import AutoImport.Proofs.Grid.Read
import AutoImport.Proofs.Table.Listing

/-!
# Tables of bindings

What people get to see of the bindings in an imports file is a table, with a row for each binding:
the local name, the module, and the statement. A dash stands for no module, which cannot be taken
for one, as no module is called so.

The cells of a binding of the grammar are plain (`isPlain_ofBindings`). So the table lists the
bindings (`Lists`): its lines are of one length, and each of those below the header shows a binding.
The bindings that a text lists are told from it (`Lists.unique`), for a binding can be read from its
statement. Altogether nothing is lost on the way from a file to the table of it
(`bindings_read_back_from_table`).
-/

namespace AutoImport.Grid

open Text

variable {b : Binding} {bs bs' : List Binding} {text : String}

/-! ## Cells of bindings -/

theorem printable_of_isModuleChar {c : Char} (h : isModuleChar c) : ' ' ≤ c ∧ c ≤ '~' := by
  have hnumber := isModuleChar_iff.1 h
  rw [isIdentifierRest_iff] at hnumber
  have hbounds : 0x20 ≤ c.toNat ∧ c.toNat ≤ 0x7e := by omega
  exact hbounds

/-- What could be a module is a plain cell. -/
theorem isPlainCell_of_isModule {word : String} (h : isModule word.toList) : IsPlainCell word where
  printable _ hc := printable_of_isModuleChar (isModuleChar_of_mem h hc)
  isTrimmed := {
    head? := fun c hc => isBlank_of_mem_module h c (List.mem_of_mem_head? hc)
    getLast? := fun c hc => isBlank_of_mem_module h c (List.mem_of_getLast? hc) }

/-- The statement of a binding of the grammar is a plain cell. -/
theorem isPlainCell_statement (h : b.IsGrammatical) : IsPlainCell b.statement where
  printable c hc := by
    by_cases hspace : c = ' '
    · rw [hspace]
      decide
    · by_contra hnot
      have hchar : isModuleChar c = false := Bool.eq_false_iff.2 (mt printable_of_isModuleChar hnot)
      exact h.not_mem_statement hchar hspace hc
  isTrimmed := h.trim_statement ▸ isTrimmed_trim _

theorem isPlainCell_dash : IsPlainCell "-" := by
  have hdash : ∀ c ∈ some '-', isBlank c = false := by
    rintro c ⟨⟩
    rfl
  exact ⟨by simp, hdash, hdash⟩

theorem isPlainCell_of_mem_bindingRow (h : b.IsGrammatical) :
    ∀ cell ∈ bindingRow b, IsPlainCell cell := by
  have hlocalName : IsPlainCell b.localName :=
    isPlainCell_of_isModule (isModule_of_isIdentifier h.2.1)
  have hmodule : IsPlainCell (if b.isTopLevel then "-" else b.module) := by
    split
    · exact isPlainCell_dash
    · rename_i hne
      exact isPlainCell_of_isModule (h.2.2.resolve_left fun heq => hne (beq_iff_eq.2 heq))
  simpa [bindingRow] using ⟨hlocalName, hmodule, isPlainCell_statement h⟩

theorem isPlain_ofBindings (h : ∀ b ∈ bs, b.IsGrammatical) :
    IsPlain ["Name", "Module", "Statement"] (bs.map bindingRow) where
  header_ne_nil := by simp
  length_eq := List.forall_mem_cons.2 ⟨rfl, List.forall_mem_map.2 fun _ _ => rfl⟩
  isPlainCell := by
    have hheader : ∀ cell ∈ ["Name", "Module", "Statement"], isModule cell.toList := by decide
    exact List.forall_mem_cons.2
      ⟨fun cell hcell => isPlainCell_of_isModule (hheader cell hcell),
        List.forall_mem_map.2 fun b hb => isPlainCell_of_mem_bindingRow (h b hb)⟩

/-! ## Listed bindings -/

/-- A line shows a binding: its cells are the local name, the module, and the statement, with a dash
    in place of the module exactly if there is none. -/
def Shows (line : List Char) (b : Binding) : Prop :=
  ∃ module, readCells line = [b.localName, module, b.statement] ∧ (module = "-" ↔ b.module = "") ∧
    (b.module ≠ "" → module = b.module)

/-- A text lists bindings: all its lines have the same number of characters, its header says what
    the columns are, and below it there is one line for each binding, in their order, that shows
    it. -/
structure Lists (text : String) (bs : List Binding) : Prop where
  length : ∃ n, ∀ line ∈ textLines text, line.length = n
  header : (headerLines text).map readCells = [["Name", "Module", "Statement"]]
  body : List.Forall₂ Shows (linesBelowHeader text) bs

/-- The line of a binding of the grammar shows it, as no module is called like the dash. -/
theorem shows_of_readCells {line : List Char} (h : b.IsGrammatical)
    (hcells : readCells line = bindingRow b) : Shows line b := by
  refine ⟨_, hcells, ?_, fun hne => if_neg (mt beq_iff_eq.1 hne)⟩
  by_cases htop : b.module = ""
  · simp [Binding.isTopLevel, htop]
  · have hmodule : b.module ≠ "-" := fun hdash =>
      absurd (hdash ▸ h.2.2.resolve_left htop) (by decide)
    simp [Binding.isTopLevel, htop, hmodule]

theorem lists_ofBindings (h : ∀ b ∈ bs, b.IsGrammatical) :
    Lists ((ofBindings bs).render false) bs := by
  have hplain := isPlain_ofBindings h
  have hlines := hplain.textLines_render
  obtain ⟨hheader, hbelow⟩ := hplain.lines_render
  have hcells : ∀ row ∈ ["Name", "Module", "Statement"] :: bs.map bindingRow,
      readCells (rowLine (columnWidths (ofBindings bs)) row) = row :=
    fun row hrow => (hplain.fitsRow hrow).readCells_rowLine (hplain.ne_nil hrow)
  obtain ⟨hcells, hrows⟩ := List.forall_mem_cons.1 hcells
  exact {
    length := ⟨_, fun line hline => hplain.length_of_mem_lines line (hlines ▸ hline)⟩
    header := by
      rw [ofBindings, hheader]
      exact congrArg (fun cells => [cells]) hcells
    body := by
      rw [ofBindings, hbelow, List.map_map, List.forall₂_map_left_iff, List.forall₂_same]
      exact fun b hb => shows_of_readCells (h b hb) (hrows _ (List.mem_map_of_mem hb)) }

/-- A line shows one binding of the grammar at most. -/
theorem Shows.unique {line : List Char} {b' : Binding} (h : Shows line b) (h' : Shows line b')
    (hb : b.IsGrammatical) (hb' : b'.IsGrammatical) : b = b' := by
  obtain ⟨module, hcells, -⟩ := h
  obtain ⟨module', hcells', -⟩ := h'
  rw [hcells] at hcells'
  obtain ⟨-, -, hstatement, -⟩ : b.localName = b'.localName ∧ module = module' ∧
      b.statement = b'.statement ∧ True := by simpa using hcells'
  exact hb.statement_inj hb' hstatement

/-- A text lists one sequence of bindings of the grammar at most. -/
theorem Lists.unique (h : Lists text bs) (h' : Lists text bs') (hbs : ∀ b ∈ bs, b.IsGrammatical)
    (hbs' : ∀ b ∈ bs', b.IsGrammatical) : bs = bs' := by
  have hshows : Relator.LeftUnique fun b line => Binding.IsGrammatical b ∧ Shows line b :=
    fun _ _ _ hb hb' => hb.2.unique hb'.2 hb.1 hb'.1
  exact List.left_unique_forall₂' hshows ((List.forall₂_and_left _ _).2 ⟨hbs, h.body.flip⟩)
    ((List.forall₂_and_left _ _).2 ⟨hbs', h'.body.flip⟩)

/-! ## The tables that are printed -/

/-- What people get to see of the bindings of a file, if there are any. -/
theorem writes_list_text {path : String} {opened : Opened}
    (hbindings : (Table.ofLoads [(path, opened)]).bindings ≠ []) (terminal : Terminal)
    (settings : Settings) :
    Writing.Writes [⟨.out,
        (ofBindings (Table.ofLoads [(path, opened)]).bindings).render terminal.isTerminal ++ "\n"⟩]
      .success ((Command.list .text).run terminal settings (.ofOpened path opened)) := by
  have hrun : (Command.list .text).run terminal settings (.ofOpened path opened) = (do
      Output.info .text
        ((ofBindings (Table.ofLoads [(path, opened)]).bindings).render terminal.isTerminal)
      return .success) :=
    if_neg (mt List.isEmpty_iff.1 hbindings)
  rw [hrun]
  exact (Writing.writes_writeLine .out _).bind (.pure _)

/-- The table of bindings of the grammar lists them; so do those of all loads, as what they list is
    of the grammar. No two sequences of such bindings have the same table. And whenever the table of
    the imports file has bindings, a run that lists them for people, and not on a terminal, ends
    well and prints a text that lists all of them. -/
theorem bindings_read_back_from_table :
    (∀ bs : List Binding, (∀ b ∈ bs, b.IsGrammatical) → Lists ((ofBindings bs).render false) bs) ∧
    (∀ (loads : List (String × Opened)), ∀ b ∈ (Table.ofLoads loads).bindings, b.IsGrammatical) ∧
    (∀ bs bs' : List Binding, (∀ b ∈ bs, b.IsGrammatical) → (∀ b ∈ bs', b.IsGrammatical) →
      (ofBindings bs).render false = (ofBindings bs').render false → bs = bs') ∧
    ∀ (world : World) (args : List String) (session : Session) (console : Console),
      let file := session.settings.importsFile
      let t := Table.ofLoads [(file, world.openPath file)]
      world.Starts args session → session.command = .list .text →
      world.terminal.isTerminal = false → console.Accepts → t.bindings ≠ [] →
      ∃ text console', runProgram world args console = (.exited .success, console') ∧
        console'.out = console.out ++ (text ++ "\n") ∧ Lists text t.bindings := by
  have hgrammatical (loads : List (String × Opened)) :
      ∀ b ∈ (Table.ofLoads loads).bindings, b.IsGrammatical :=
    fun _ => (Table.wellFormed_ofLoads loads).isGrammatical_of_mem_bindings
  refine ⟨fun _ => lists_ofBindings, hgrammatical, fun bs bs' hbs hbs' heq => ?_, ?_⟩
  · exact (heq ▸ lists_ofBindings hbs).unique (lists_ofBindings hbs') hbs hbs'
  · intro world args session console file t hstarts hcommand hterminal hconsole hbindings
    have hwrites := writes_list_text hbindings world.terminal session.settings
    rw [hterminal] at hwrites
    obtain ⟨console', hrun, hout⟩ := World.exists_runProgram_of_writes hstarts hconsole
      (hcommand ▸ hwrites)
    rw [Piece.textOn_cons, if_pos rfl, Piece.textOn_eq_empty (by simp), String.append_empty] at hout
    exact ⟨_, console', hrun, hout, lists_ofBindings (hgrammatical _)⟩

/-- A file of two statements that rename, of which one is made of the words of the header. -/
def headerWords : Opened :=
  .content "from Module import Name as Statement\nimport numpy as np\n".toUTF8.data.toList

/-- The bindings that are listed of this file. -/
def headerWordsBindings : List Binding :=
  [.plain "Module" "Name", .plain "" "numpy", ⟨"Module", "Name", "Statement"⟩, ⟨"", "numpy", "np"⟩]

/-- The table of these bindings lists them, and is not that of all but the first; and it is what is
    printed of the file. -/
theorem bindings_read_back_from_table_headerWords :
    Lists ((ofBindings headerWordsBindings).render false) headerWordsBindings ∧
    (ofBindings headerWordsBindings).render false ≠
      (ofBindings headerWordsBindings.tail).render false ∧
    ∃ text console,
      runProgram (.holding headerWords) ["show"] (.fresh fun _ => false) =
        (.exited .success, console) ∧
      console.out = text ++ "\n" ∧ Lists text headerWordsBindings := by
  have hbindings : (Table.ofLoads [("imports", headerWords)]).bindings = headerWordsBindings := by
    decide +kernel
  have hpath (path : String) : Table.ofLoads [(path, headerWords)] =
      Table.ofLoads [("imports", headerWords)] := by rw [Table.ofLoads_eq, Table.ofLoads_eq]; rfl
  have hstarts : ∃ session, (World.holding headerWords).Starts ["show"] session ∧
      session.command = .list .text := ⟨_, ⟨_, rfl, rfl⟩, rfl⟩
  obtain ⟨session, hstarts, hcommand⟩ := hstarts
  obtain ⟨hlists, hloads, hinj, hlist⟩ := bindings_read_back_from_table
  have hgrammatical : ∀ b ∈ headerWordsBindings, b.IsGrammatical := hbindings ▸ hloads _
  refine ⟨hlists _ hgrammatical, fun heq => ?_, ?_⟩
  · have htail : headerWordsBindings = headerWordsBindings.tail :=
      hinj _ _ hgrammatical (fun b hb => hgrammatical b (List.mem_of_mem_tail hb)) heq
    exact absurd htail (by decide)
  · have hfile := (hpath session.settings.importsFile).symm ▸ hbindings
    have hne : headerWordsBindings ≠ [] := by decide
    obtain ⟨text, console, hrun, hout, htext⟩ := hlist (.holding headerWords) _ session _ hstarts
      hcommand rfl Console.accepts_fresh (hfile.symm ▸ hne)
    exact ⟨text, console, hrun, hout.trans String.empty_append, hfile ▸ htext⟩

end AutoImport.Grid
