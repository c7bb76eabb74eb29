import AutoImport.Proofs.Toml.Text
import AutoImport.Toml.Reader
import Mathlib.Data.List.TakeDrop

/-!
# Documents that read back

A document of lines, each of them a key with its value, the header of a table, or empty, is read as
the table that its statements build (`parse?_lines`). One line is read up to its end, whatever the
value is (`readStatements_write`), and so all lines are, one after the other
(`readStatements_lines`). Only keys without quotes are looked at, and values that are texts or truth
values.

The readers look at one character to tell what comes next. So of each part it matters which
character it starts with: a key with one that keys are made of (`IsBareKey`), which is looked for
nowhere else, and a value with no blank.
-/

namespace AutoImport.Toml

variable {c : Char} {cs key rest : List Char} {fuel : Nat} {v : Value}

/-! ## Keys -/

theorem skipBlanks_cons (hc : ¬isLineBlank c) : skipBlanks (c :: cs) = c :: cs :=
  List.dropWhile_cons_of_neg hc

/-- A key that is written without quotes. -/
structure IsBareKey (key : List Char) : Prop where
  ne_nil : key ≠ []
  bare : ∀ c ∈ key, isBareKeyChar c

instance (key : List Char) : Decidable (IsBareKey key) :=
  decidable_of_iff (key ≠ [] ∧ key.all isBareKeyChar)
    ⟨fun h => ⟨h.1, List.all_eq_true.1 h.2⟩, fun h => ⟨h.ne_nil, List.all_eq_true.2 h.bare⟩⟩

/-- A key starts with none of the characters that the readers look for in other places. -/
theorem IsBareKey.exists_eq_cons (h : IsBareKey key) :
    ∃ c cs, key = c :: cs ∧ ∀ d, isBareKeyChar d = false → c ≠ d := by
  obtain ⟨c, cs, rfl⟩ := List.exists_cons_of_ne_nil h.ne_nil
  refine ⟨c, cs, rfl, ?_⟩
  rintro _ hd rfl
  exact Bool.false_ne_true (hd.symm.trans (h.bare c List.mem_cons_self))

/-- There are no blanks before a key. -/
theorem IsBareKey.skipBlanks_append (h : IsBareKey key) (rest : List Char) :
    skipBlanks (key ++ rest) = key ++ rest := by
  obtain ⟨c, cs, rfl, hne⟩ := h.exists_eq_cons
  exact skipBlanks_cons (by simp [isLineBlank, hne ' ' (by decide), hne '\t' (by decide)])

theorem readKey_bare (h : IsBareKey key) (hc : ¬isBareKeyChar c) (rest : List Char) :
    readKey (key ++ c :: rest) = some (.ofList key, c :: rest) := by
  have hspan : (key ++ c :: rest).span isBareKeyChar = (key, c :: rest) := by
    rw [List.span_eq_takeWhile_dropWhile, List.takeWhile_append_of_pos h.bare,
      List.dropWhile_append_of_pos h.bare, List.takeWhile_cons_of_neg hc,
      List.dropWhile_cons_of_neg hc, List.append_nil]
  obtain ⟨d, ds, rfl, hne⟩ := h.exists_eq_cons
  rw [List.cons_append] at hspan ⊢
  rw [readKey.eq_3 _ (fun _ h => hne '"' (by decide) (List.cons_eq_cons.1 h).1)
    (fun _ h => hne '\x27' (by decide) (List.cons_eq_cons.1 h).1), hspan]
  rfl

/-- A key alone, with no dot after it. -/
theorem readDottedKey_bare (h : IsBareKey key) (hc : ¬isBareKeyChar c)
    (hdot : (skipBlanks (c :: rest)).head? ≠ some '.') :
    readDottedKey (key ++ c :: rest) =
      some (⟨[], .ofList key⟩, skipBlanks (c :: rest)) := by
  have hmore : readMoreKeys maxDepth (c :: rest) = some ([], skipBlanks (c :: rest)) := by
    rw [maxDepth, readMoreKeys]
    split
    · rename_i heq
      rw [heq] at hdot
      exact absurd rfl hdot
    · rfl
  simp only [readDottedKey, h.skipBlanks_append, readKey_bare h hc, hmore, bind, Option.bind]
  rfl

/-! ## Values -/

/-- A value that does not start with a bracket is read as one without brackets. -/
theorem readValue_of_ne (hbracket : c ≠ '[') (hbrace : c ≠ '\x7b') (levels : Nat)
    (cs : List Char) : readValue levels (c :: cs) = readScalar (c :: cs) := by
  cases levels with
  | zero => rw [readValue]
  | succ levels =>
    rw [readValue]
    dsimp only
    split
    · rename_i heq
      exact absurd (List.cons_eq_cons.1 heq).1 hbracket
    · rename_i heq
      exact absurd (List.cons_eq_cons.1 heq).1 hbrace
    · rfl

theorem readValue_writeText (levels : Nat) (text : String) (hrest : StopsText rest) :
    readValue levels ((writeText text).toList ++ rest) = some (.text text, rest) := by
  have hread := readText_writeText text hrest
  obtain ⟨q, cs, htext, hq⟩ := exists_writeText_eq_cons text
  rw [htext, List.cons_append] at hread ⊢
  rw [readValue_of_ne (by rcases hq with rfl | rfl <;> decide)
    (by rcases hq with rfl | rfl <;> decide), readScalar, if_pos (by simpa using hq), hread]
  rfl

/-- The word for a truth value. -/
def writeBool (b : Bool) : String :=
  if b then "true" else "false"

theorem readValue_writeBool (levels : Nat) (b : Bool) (rest : List Char) :
    readValue levels ((writeBool b).toList ++ rest) = some (.bool b, rest) := by
  cases b with
  | true => exact readValue_of_ne (c := 't') (by decide) (by decide) levels _
  | false => exact readValue_of_ne (c := 'f') (by decide) (by decide) levels _

/-! ## Lines -/

theorem endLine?_lineFeed (cs : List Char) : endLine? ('\n' :: cs) = some cs := by
  rw [endLine?, skipBlanks_cons (by decide)]
  rfl

/-- An empty line has no statement. -/
theorem readStatements_empty (cs : List Char) :
    readStatements (fuel + 1) ('\n' :: cs) = readStatements fuel cs := by
  rw [readStatements, skipBlanks_cons (by decide)]
  change (endLine? ('\n' :: cs) >>= readStatements fuel) = _
  rw [endLine?_lineFeed]
  rfl

theorem readStatements_nil : readStatements (fuel + 1) [] = some [] := by
  rfl

/-- A line with a statement, which starts at its first character. -/
theorem readStatements_line {statement : Statement} (hblank : ¬isLineBlank c)
    (hidle : ¬isIdleLine (c :: cs))
    (hread : readStatement (c :: cs) = some (statement, '\n' :: rest)) :
    readStatements (fuel + 1) (c :: cs) = (readStatements fuel rest).map (statement :: ·) := by
  rw [readStatements, skipBlanks_cons hblank]
  dsimp only
  rw [if_neg hidle, hread]
  change (endLine? ('\n' :: rest) >>= fun cs => readStatements fuel cs >>= _) = _
  rw [endLine?_lineFeed]
  exact Option.map_eq_bind.symm

/-- A key with its value, on a line. -/
theorem readStatements_entry (h : IsBareKey key) (hcs : skipBlanks cs = cs)
    (hvalue : readValue maxDepth cs = some (v, '\n' :: rest)) :
    readStatements (fuel + 1) (key ++ ' ' :: '=' :: ' ' :: cs) =
      (readStatements fuel rest).map (.entry ⟨[], .ofList key⟩ v :: ·) := by
  have hkey : readDottedKey (key ++ ' ' :: '=' :: ' ' :: cs) =
      some (⟨[], .ofList key⟩, '=' :: ' ' :: cs) :=
    readDottedKey_bare h (by decide) (by simp [skipBlanks, isLineBlank])
  have hblank : skipBlanks (' ' :: cs) = cs := hcs
  have hentry : readEntry (readValue maxDepth) (key ++ ' ' :: '=' :: ' ' :: cs) =
      some ((⟨[], .ofList key⟩, v), '\n' :: rest) := by
    simp only [readEntry, hkey, expect?, if_true, hblank, hvalue, bind, Option.bind]
  obtain ⟨c, ks, rfl, hne⟩ := h.exists_eq_cons
  have hread : readStatement (c :: ks ++ ' ' :: '=' :: ' ' :: cs) =
      some (.entry ⟨[], .ofList (c :: ks)⟩ v, '\n' :: rest) := by
    rw [List.cons_append] at hentry ⊢
    rw [readStatement.eq_3 _ (fun _ h => hne '[' (by decide) (List.cons_eq_cons.1 h).1)
      (fun _ h => hne '[' (by decide) (List.cons_eq_cons.1 h).1), hentry]
    rfl
  refine readStatements_line ?_ ?_ hread
  · simp [isLineBlank, hne ' ' (by decide), hne '\t' (by decide)]
  · simp [isIdleLine, hne '#' (by decide), hne '\n' (by decide), hne '\r' (by decide)]

/-- The header of a table, on a line. -/
theorem readStatements_header (h : IsBareKey key) (rest : List Char) :
    readStatements (fuel + 1) ('[' :: (key ++ ']' :: '\n' :: rest)) =
      (readStatements fuel rest).map (.header ⟨[], .ofList key⟩ :: ·) := by
  have hkey : readDottedKey (key ++ ']' :: '\n' :: rest) =
      some (⟨[], .ofList key⟩, ']' :: '\n' :: rest) :=
    readDottedKey_bare h (by decide) (by simp [skipBlanks, isLineBlank])
  have hread : readStatement ('[' :: (key ++ ']' :: '\n' :: rest)) =
      some (.header ⟨[], .ofList key⟩, '\n' :: rest) := by
    rw [readStatement.eq_2]
    · simp only [hkey, expect?, if_true, bind, Option.bind]
    · intro cs heq
      obtain ⟨c, ks, rfl, hne⟩ := h.exists_eq_cons
      exact hne '[' (by decide) (List.cons_eq_cons.1 heq).1
  exact readStatements_line (by decide) (by simp [isIdleLine]) hread

/-! ## Documents -/

/-- A line of a document, or several if there is a text with line breaks. -/
inductive Line where
  /-- Nothing. -/
  | empty
  /-- A key with a text. -/
  | text (key value : String)
  /-- A key with a truth value. -/
  | word (key : String) (value : Bool)
  /-- The header of a table. -/
  | header (key : String)

namespace Line

/-- The text of a line, with the line feed that ends it. -/
def write : Line → List Char
  | empty => ['\n']
  | text key value => key.toList ++ ' ' :: '=' :: ' ' :: ((writeText value).toList ++ ['\n'])
  | word key value => key.toList ++ ' ' :: '=' :: ' ' :: ((writeBool value).toList ++ ['\n'])
  | header key => '[' :: (key.toList ++ [']', '\n'])

/-- The statement on a line. -/
def statement? : Line → Option Statement
  | empty => none
  | text key value => some (.entry ⟨[], key⟩ (.text value))
  | word key value => some (.entry ⟨[], key⟩ (.bool value))
  | header key => some (.header ⟨[], key⟩)

/-- The keys on a line. -/
def keys : Line → List String
  | empty => []
  | text key _ | word key _ | header key => [key]

end Line

variable {line : Line} {lines : List Line}

/-- A line is read up to its end. -/
theorem readStatements_write (h : ∀ key ∈ line.keys, IsBareKey key.toList) (rest : List Char) :
    readStatements (fuel + 1) (line.write ++ rest) =
      (readStatements fuel rest).map (line.statement?.toList ++ ·) := by
  cases line with
  | empty =>
    rw [Line.write, List.singleton_append, readStatements_empty]
    exact Option.map_id'.symm
  | text key value =>
    have hkey : IsBareKey key.toList := h key List.mem_cons_self
    have hwrite : (Line.text key value).write ++ rest =
        key.toList ++ ' ' :: '=' :: ' ' :: ((writeText value).toList ++ '\n' :: rest) := by
      simp [Line.write]
    have hblanks : skipBlanks ((writeText value).toList ++ '\n' :: rest) =
        (writeText value).toList ++ '\n' :: rest := by
      obtain ⟨q, cs, htext, hq⟩ := exists_writeText_eq_cons value
      rw [htext]
      exact skipBlanks_cons (by rcases hq with rfl | rfl <;> decide)
    have hstops : StopsText ('\n' :: rest) := ⟨by simp, by simp⟩
    rw [hwrite, readStatements_entry hkey hblanks (readValue_writeText maxDepth value hstops),
      String.ofList_toList]
    rfl
  | word key value =>
    have hkey : IsBareKey key.toList := h key List.mem_cons_self
    have hwrite : (Line.word key value).write ++ rest =
        key.toList ++ ' ' :: '=' :: ' ' :: ((writeBool value).toList ++ '\n' :: rest) := by
      simp [Line.write]
    have hblanks : skipBlanks ((writeBool value).toList ++ '\n' :: rest) =
        (writeBool value).toList ++ '\n' :: rest := by
      cases value <;> rfl
    rw [hwrite, readStatements_entry hkey hblanks (readValue_writeBool maxDepth value _),
      String.ofList_toList]
    rfl
  | header key =>
    have hkey : IsBareKey key.toList := h key List.mem_cons_self
    have hwrite : (Line.header key).write ++ rest =
        '[' :: (key.toList ++ ']' :: '\n' :: rest) := by
      simp [Line.write]
    rw [hwrite, readStatements_header hkey, String.ofList_toList]
    rfl

/-- All lines are read, one after the other. -/
theorem readStatements_lines (h : ∀ key ∈ lines.flatMap Line.keys, IsBareKey key.toList)
    (fuel : Nat) :
    readStatements (lines.length + fuel + 1) (lines.flatMap Line.write) =
      some (lines.filterMap Line.statement?) := by
  induction lines with
  | nil => exact readStatements_nil
  | cons line lines ih =>
    rw [List.flatMap_cons, List.forall_mem_append] at h
    have hfuel : (line :: lines).length + fuel + 1 = (lines.length + fuel + 1) + 1 := by
      rw [List.length_cons]
      omega
    rw [List.flatMap_cons, hfuel, readStatements_write h.1, ih h.2, List.filterMap_cons]
    cases line.statement? <;> rfl

/-- A line does not start with a byte-order mark. -/
theorem exists_write_eq_cons (h : ∀ key ∈ line.keys, IsBareKey key.toList) :
    ∃ c cs, line.write = c :: cs ∧ c ≠ '\ufeff' := by
  cases line with
  | empty => exact ⟨_, _, rfl, by decide⟩
  | header key => exact ⟨_, _, rfl, by decide⟩
  | text key value | word key value =>
    have hkey : IsBareKey key.toList := h key List.mem_cons_self
    obtain ⟨c, cs, hcs, hne⟩ := hkey.exists_eq_cons
    rw [Line.write, hcs]
    exact ⟨_, _, rfl, hne '\ufeff' (by decide)⟩

/-- A document has at least one character for each line. -/
theorem length_le_length_lines (lines : List Line) :
    lines.length ≤ (lines.flatMap Line.write).length := by
  induction lines with
  | nil => exact Nat.le_refl 0
  | cons line lines ih =>
    have hline : 0 < line.write.length :=
      List.length_pos_iff.2 (by cases line <;> simp [Line.write])
    rw [List.length_cons, List.flatMap_cons, List.length_append]
    omega

/-- A document of lines is read as what its statements build. -/
theorem parse?_lines (h : ∀ key ∈ lines.flatMap Line.keys, IsBareKey key.toList) :
    parse? (.ofList (lines.flatMap Line.write)) =
      Document.build? (lines.filterMap Line.statement?) := by
  have hmark : skipMark (lines.flatMap Line.write) = lines.flatMap Line.write := by
    cases lines with
    | nil => rfl
    | cons line lines =>
      rw [List.flatMap_cons, List.forall_mem_append] at h
      obtain ⟨c, cs, hcs, hc⟩ := exists_write_eq_cons h.1
      rw [List.flatMap_cons, hcs]
      exact skipMark.eq_2 _ fun _ h => hc (List.cons_eq_cons.1 h).1
  obtain ⟨fuel, hfuel⟩ := Nat.exists_eq_add_of_le (length_le_length_lines lines)
  rw [parse?, String.toList_ofList, hmark, hfuel, readStatements_lines h]
  rfl

end AutoImport.Toml
