import AutoImport.Proofs.Load.Account
import AutoImport.Proofs.Table.Invariant

/-!
# Tables as imports files

The statements of the bindings of a table, each on a line of its own, are an imports file again
(`statementLines`). If the bindings are of the grammar, then each line is read as the binding it was
made from (`LineMeaning.ofLine_statement`), and the file as the list of the bindings
(`Opened.bindings_statementLines`).

So a table of loads can be written to a file, and the file loaded into a new table brings it back,
with nothing left over (`Table.load_statementLines`).
-/

namespace AutoImport

/-- The content that has the statements of bindings, each on a line of its own. -/
def statementLines (bs : List Binding) : List UInt8 :=
  bs.flatMap fun b => (b.statement ++ "\n").toUTF8.data.toList

variable {b : Binding} {bs : List Binding}

/-! ## Lines -/

theorem statementLines_cons (b : Binding) (bs : List Binding) :
    statementLines (b :: bs) = Text.encode b.statement.toList ++ 10 :: statementLines bs := by
  rw [statementLines, List.flatMap_cons, Text.toList_data_toUTF8, String.toList_append,
    Text.encode_append, List.append_assoc]
  rfl

/-- The lines of statements of the grammar are the statements. -/
theorem isLines_statementLines (h : ∀ b ∈ bs, b.IsGrammatical) :
    IsLines (statementLines bs) ((bs.map (·.statement.toList)).map Text.encode) := by
  induction bs with
  | nil => exact .nil
  | cons b bs ih =>
    obtain ⟨hb, hbs⟩ := List.forall_mem_cons.1 h
    have hlineFeed : 10 ∉ Text.encode b.statement.toList :=
      Text.lineFeed_mem_encode_iff.not.2 hb.lineFeed_not_mem_statement
    have hreturn : 13 ∉ Text.encode b.statement.toList :=
      Text.carriageReturn_mem_encode_iff.not.2 (hb.not_mem_statement (by decide) (by decide))
    have hlines := IsLines.ended hlineFeed (ih hbs)
    rwa [dropReturn_of_not_mem hreturn, ← statementLines_cons] at hlines

/-- All these lines can be read, and their texts are the statements. -/
theorem readable_statementLines (h : ∀ b ∈ bs, b.IsGrammatical) :
    (∀ line ∈ splitLines (statementLines bs), isReadable line) ∧
    readable (splitLines (statementLines bs)) = bs.map (·.statement) := by
  rw [(isLines_statementLines h).splitLines_eq]
  constructor
  · exact List.forall_mem_map.2 fun text _ => isReadable_encode text
  · rw [readable_map_encode, List.map_map]
    exact List.map_congr_left fun b _ => String.ofList_toList

/-! ## Loading them -/

/-- The line of a statement of the grammar is the statement that binds what it was made from. -/
theorem LineMeaning.ofLine_statement (h : b.IsGrammatical) :
    ∃ names, ofLine b.statement = .statement names ∧ names.bindings = [b] := by
  obtain ⟨names, hread, hdrain⟩ := h.readLine?_statement
  refine ⟨names, ofLine_of_readLine? ?_, ?_⟩
  · rwa [trimmed, h.trim_statement, String.ofList_toList]
  · rw [Names.drain_eq] at hdrain
    exact (Prod.mk.inj hdrain).1

/-- The bindings of a content that has statements of the grammar are those the statements were made
    from. -/
theorem Opened.bindings_statementLines (h : ∀ b ∈ bs, b.IsGrammatical) :
    (content (statementLines bs)).bindings = bs := by
  have hline : ∀ b ∈ bs, (LineMeaning.ofLine b.statement).bindings = [b] := by
    intro b hb
    obtain ⟨names, hmeaning, hnames⟩ := LineMeaning.ofLine_statement (h b hb)
    rw [hmeaning]
    exact hnames
  rw [bindings_content, (readable_statementLines h).2, List.flatMap_map, List.flatMap_congr hline]
  exact List.flatMap_singleton' bs

/-- What a table of loads has, written to a file as the statements of its bindings, each on a line
    of its own, is what a new table has after a load of the file. The file is read to its end, and
    no line is left over. -/
theorem Table.load_statementLines (loads : List (String × Opened)) (path : String) :
    let t := Table.ofLoads loads
    let written := Opened.content (statementLines t.bindings)
    Table.empty.load path written = t ∧ (Load.ofOpened path written).report.fileRead = true ∧
      (Load.ofOpened path written).report.unrecognized = [] := by
  intro t written
  have ht : t.WellFormed := wellFormed_ofLoads loads
  have hgrammatical : ∀ b ∈ t.bindings, b.IsGrammatical := fun _ => ht.isGrammatical_of_mem_bindings
  have hcontent := Load.ofOpened_content path (statementLines t.bindings)
  refine ⟨?_, ?_, ?_⟩
  · rw [Table.load, Load.registrations_ofOpened, Opened.bindings_statementLines hgrammatical]
    exact ht.ofBindings_bindings
  · rw [hcontent]
    exact decide_eq_true (readable_statementLines hgrammatical).1
  · rw [hcontent, (readable_statementLines hgrammatical).2]
    refine Effect.unrecognized_join_ofLines_eq_nil (List.forall_mem_map.2 fun b hb text heq => ?_)
      path 1
    obtain ⟨names, hmeaning, -⟩ := LineMeaning.ofLine_statement (hgrammatical b hb)
    cases heq.symm.trans hmeaning

/-- A name has a statement of its own beside that of its alias. -/
example :
    let t := Table.ofLoads [("imports", .content "import numpy as np\n".toUTF8.data.toList)]
    statementLines t.bindings = "import numpy\nimport numpy as np\n".toUTF8.data.toList := by
  decide +kernel

end AutoImport
