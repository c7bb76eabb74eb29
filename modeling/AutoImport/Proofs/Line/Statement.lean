import AutoImport.Proofs.Line.Grammar

/-!
# Statements of bindings

The statement of a binding is what an editor inserts for it. If the binding can be written down in
the grammar, then this is how: the statement derives, and stands for the binding and nothing else
(`Binding.IsGrammatical.derivesLine`). So it is read as the binding it was made from
(`Binding.IsGrammatical.readLine?_statement`), and it is one line (`lineFeed_not_mem_statement`)
without blanks around it (`trim_statement`).

A binding can be made of any three texts, and then its statement may be no line of the grammar, or
the line of something else. The bindings of the grammar are exactly those that are read back
(`statement_reads_back_iff`).
-/

namespace AutoImport

/-- There are only characters of modules in an identifier. -/
theorem not_mem_of_isIdentifier {c : Char} {cs : List Char} (hc : isModuleChar c = false)
    (h : isIdentifier cs) : c ∉ cs := by
  intro hmem
  rw [isModuleChar_of_isIdentifierRest (isIdentifierRest_of_mem h hmem)] at hc
  cases hc

namespace Binding.IsGrammatical

variable {b : Binding}

theorem localName_ne_empty (h : b.IsGrammatical) : b.localName ≠ "" := by
  intro hempty
  exact ne_nil_of_isIdentifier h.2.1 (by rw [hempty]; rfl)

/-- A binding of the grammar renames if its local name is not its name. -/
theorem renames_iff (h : b.IsGrammatical) : b.renames ↔ b.localName ≠ b.name := by
  rw [renames, Bool.and_eq_true, bne_iff_ne, bne_iff_ne]
  exact and_iff_right h.localName_ne_empty

/-- A binding of the grammar that renames nothing is that of its name under itself. -/
theorem eq_plain (h : b.IsGrammatical) (hr : ¬b.renames) : b = .plain b.module b.name := by
  have hlocal : b.localName = b.name := not_not.1 (h.renames_iff.not.1 hr)
  obtain ⟨module, name, localName⟩ := b
  exact congrArg (Binding.mk module name) hlocal

/-- The name with its `as` clause is the text of one bound name. -/
theorem derivesName (h : b.IsGrammatical) :
    DerivesName b.module (b.name.toList ++ b.asClause.toList) b := by
  obtain ⟨hname, hlocal, -⟩ := id h
  by_cases hr : b.renames
  · have hclause : b.name.toList ++ b.asClause.toList =
        b.name.toList ++ [' '] ++ ['a', 's'] ++ [' '] ++ b.localName.toList := by
      simp [asClause, hr]
    rw [hclause]
    have hderives : DerivesName b.module _ ⟨b.module, .ofList b.name.toList, _⟩ :=
      .renamed hname hlocal blanks_space (by simp) blanks_space (by simp)
    simpa using hderives
  · have hclause : b.asClause = "" := by simp [asClause, hr]
    rw [hclause, h.eq_plain hr]
    have hderives : DerivesName b.module _ _ := .plain hname
    simpa [plain] using hderives

/-- The statement of a binding of the grammar derives, and stands for the binding. -/
theorem derivesLine (h : b.IsGrammatical) : DerivesLine b.statement.toList [b] := by
  have hnames := DerivesNames.last h.derivesName
  rcases eq_or_ne b.module "" with hmodule | hmodule
  · have hstatement : b.statement.toList =
        "import".toList ++ [' '] ++ (b.name.toList ++ b.asClause.toList) := by
      simp [statement, isTopLevel, hmodule]
    rw [hstatement]
    exact .importStatement blanks_space (hmodule ▸ hnames)
  · have hstatement : b.statement.toList = "from".toList ++ [' '] ++ b.module.toList ++ [' '] ++
        "import".toList ++ [' '] ++ (b.name.toList ++ b.asClause.toList) := by
      simp [statement, isTopLevel, hmodule]
    rw [hstatement]
    exact .fromStatement blanks_space (h.2.2.resolve_left hmodule) blanks_space (by simp)
      blanks_space (by simpa using hnames)

/-- The statement of a binding of the grammar is read as the binding. -/
theorem readLine?_statement (h : b.IsGrammatical) :
    ∃ names, readLine? b.statement = some names ∧ names.drain = ([b], []) :=
  readLine?_of_derives h.derivesLine

/-- No two bindings of the grammar have the same statement. -/
theorem statement_inj {b' : Binding} (h : b.IsGrammatical) (h' : b'.IsGrammatical)
    (heq : b.statement = b'.statement) : b = b' := by
  obtain ⟨names, hread, hdrain⟩ := h.readLine?_statement
  obtain ⟨names', hread', hdrain'⟩ := h'.readLine?_statement
  rw [heq, hread'] at hread
  obtain rfl := Option.some.inj hread
  rw [hdrain'] at hdrain
  exact (List.singleton_inj.1 (Prod.mk.inj hdrain).1).symm

/-! ## Characters of a statement -/

section Characters

variable {c : Char}

/-- There are only characters of modules in the module of a binding of the grammar. -/
theorem not_mem_module (hc : isModuleChar c = false) (h : b.IsGrammatical) :
    c ∉ b.module.toList := by
  rcases h.2.2 with hempty | hmodule
  · simp [hempty]
  · intro hmem
    rw [isModuleChar_of_mem hmodule hmem] at hc
    cases hc

/-- There are only spaces and characters of modules in the statement of a binding of the grammar. -/
theorem not_mem_statement (hc : isModuleChar c = false) (hspace : c ≠ ' ') (h : b.IsGrammatical) :
    c ∉ b.statement.toList := by
  have hkeyword (keyword : String)
      (hk : keyword.toList.all fun d => d == ' ' || isModuleChar d) : c ∉ keyword.toList := by
    intro hmem
    have hchar := List.all_eq_true.1 hk c hmem
    rw [hc, Bool.or_false] at hchar
    exact hspace (beq_iff_eq.1 hchar)
  have hname := not_mem_of_isIdentifier hc h.1
  have hclause : c ∉ b.asClause.toList := by
    rw [asClause]
    split
    · rw [String.toList_append, List.mem_append, not_or]
      exact ⟨hkeyword " as " (by decide), not_mem_of_isIdentifier hc h.2.1⟩
    · exact hkeyword "" (by decide)
  rw [statement]
  split
  · simp only [String.toList_append, List.mem_append, not_or]
    exact ⟨⟨hkeyword "import " (by decide), hname⟩, hclause⟩
  · simp only [String.toList_append, List.mem_append, not_or]
    exact ⟨⟨⟨⟨hkeyword "from " (by decide), h.not_mem_module hc⟩, hkeyword " import " (by decide)⟩,
      hname⟩, hclause⟩

end Characters

/-- The statement of a binding of the grammar is one line. -/
theorem lineFeed_not_mem_statement (h : b.IsGrammatical) : '\n' ∉ b.statement.toList :=
  h.not_mem_statement (by decide) (by decide)

/-- A statement ends with the identifier that a binding of the grammar binds last. -/
theorem exists_statement_eq_append (h : b.IsGrammatical) :
    ∃ front word, b.statement.toList = front ++ word ∧ isIdentifier word := by
  rw [statement, asClause, String.toList_append]
  by_cases hr : b.renames
  · rw [if_pos hr, String.toList_append, ← List.append_assoc]
    exact ⟨_, _, rfl, h.2.1⟩
  · rw [if_neg hr]
    split
    · exact ⟨"import ".toList, b.name.toList, by simp, h.1⟩
    · exact ⟨("from " ++ b.module ++ " import ").toList, b.name.toList, by simp, h.1⟩

/-- The statement of a binding of the grammar has no blanks around it. -/
theorem trim_statement (h : b.IsGrammatical) :
    Text.trim b.statement.toList = b.statement.toList := by
  refine Text.IsTrimmed.trim_eq_self ⟨fun c hc => ?_, fun c hc => ?_⟩
  · have hhead : b.statement.toList.head? = some 'i' ∨ b.statement.toList.head? = some 'f' := by
      rw [statement]
      split <;> simp
    rcases hhead with hhead | hhead <;>
      obtain rfl := Option.some.inj (hhead.symm.trans hc) <;> decide
  · obtain ⟨front, word, hstatement, hword⟩ := h.exists_statement_eq_append
    rw [hstatement, List.getLast?_append_of_ne_nil _ (ne_nil_of_isIdentifier hword)] at hc
    exact isBlank_of_isIdentifierRest (isIdentifierRest_of_mem hword (List.mem_of_getLast? hc))

end Binding.IsGrammatical

/-! ## Bindings that are read back -/

/-- The words of a binding of the grammar are those that the patterns for words match. -/
theorem isGrammatical_iff_matches {b : Binding} : b.IsGrammatical ↔
    (identifierPattern.groups? b.name.toList).isSome ∧
      (identifierPattern.groups? b.localName.toList).isSome ∧
      (b.module = "" ∨ (modulePattern.groups? b.module.toList).isSome) := by
  have hidentifier (cs : List Char) : (identifierPattern.groups? cs).isSome ↔ isIdentifier cs := by
    simp [Text.Pattern.isSome_groups?_iff, matches_identifierPattern]
  have hmodule (cs : List Char) : (modulePattern.groups? cs).isSome ↔ isModule cs := by
    simp [Text.Pattern.isSome_groups?_iff, matches_modulePattern]
  rw [hidentifier, hidentifier, hmodule]
  rfl

/-- A binding is read back from its statement, alone, exactly if it is of the grammar: if its words
    match the patterns for words. And so does every binding that is read from any line. -/
theorem statement_reads_back_iff (b : Binding) :
    ((∃ names, readLine? b.statement = some names ∧ names.drain.1 = [b]) ↔ b.IsGrammatical) ∧
    (b.IsGrammatical ↔
      (identifierPattern.groups? b.name.toList).isSome ∧
        (identifierPattern.groups? b.localName.toList).isSome ∧
        (b.module = "" ∨ (modulePattern.groups? b.module.toList).isSome)) ∧
    ∀ line names, readLine? line = some names → b ∈ names.drain.1 →
      b.IsGrammatical ∧
        ∃ names', readLine? b.statement = some names' ∧ names'.drain.1 = [b] := by
  have hback (h : b.IsGrammatical) :
      ∃ names, readLine? b.statement = some names ∧ names.drain.1 = [b] := by
    obtain ⟨names, hread, hdrain⟩ := h.readLine?_statement
    exact ⟨names, hread, congrArg Prod.fst hdrain⟩
  have hgrammatical {line : String} {names : Names} (hread : readLine? line = some names)
      (hb : b ∈ names.drain.1) : b.IsGrammatical := by
    rw [Names.drain_eq] at hb
    exact isGrammatical_of_readLine? hread b hb
  refine ⟨⟨?_, hback⟩, isGrammatical_iff_matches, fun line names hread hb => ?_⟩
  · -- What the statement is read as comes from a line, this one.
    rintro ⟨names, hread, hdrain⟩
    exact hgrammatical hread (hdrain ▸ List.mem_singleton_self b)
  · exact ⟨hgrammatical hread hb, hback (hgrammatical hread hb)⟩

/-- A binding whose words are keywords, from a line of keywords, is read back from its statement. -/
theorem statement_reads_back_iff_keywords :
    ∃ names, readLine? "from import import as as as, from as import" = some names ∧
      ⟨"import", "from", "import"⟩ ∈ names.drain.1 ∧
      (⟨"import", "from", "import"⟩ : Binding).IsGrammatical ∧
      ∃ names', readLine? "from import import from as import" = some names' ∧
        names'.drain.1 = [⟨"import", "from", "import"⟩] := by
  have hread : readLine? "from import import as as as, from as import" =
      some (.ofText "import" "as as as, from as import") := by decide +kernel
  have hb : ⟨"import", "from", "import"⟩ ∈
      (Names.ofText "import" "as as as, from as import").drain.1 := by
    rw [Names.drain_eq]
    decide +kernel
  exact ⟨_, hread, hb, (statement_reads_back_iff _).2.2 _ _ hread hb⟩

end AutoImport
