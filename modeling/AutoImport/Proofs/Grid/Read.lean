import AutoImport.Grid
import AutoImport.Proofs.Text.Separated
import AutoImport.Proofs.Text.Words
import Mathlib.Algebra.Order.Ring.Nat
import Mathlib.Data.List.Forall2

/-!
# Tables that are read back

A table is drawn for people, but it can be read as well, by what is drawn alone: the lines with
cells are those that are not drawn from end to end, the rule under the header divides them, and the
cells of a line are between its ends and the separators of the columns.

How wide a column is depends on the header and on all rows. Of this it is enough to know that no
cell is wider than its column (`IsPlain.fitsRow`). If all cells are plain, and each row has as many
of them as the header (`IsPlain`), then

* each row is one line (`IsPlain.lines_eq`), and all lines have the same number of characters, as
  that depends on nothing but the widths of the columns (`IsPlain.length_of_mem_lines`);
* the lines are found again in the text (`IsPlain.textLines_render`), and of them those of the
  header and those of the rows (`IsPlain.lines_render`);
* the cells of a line are those of the row, as nothing in a plain cell is drawn, and the padding is
  blank (`FitsRow.readCells_rowLine`).
-/

namespace AutoImport.Grid

open Text

/-! ## Reading -/

/-- The lines of a text. -/
def textLines (text : String) : List (List Char) :=
  text.toList.splitOn '\n'

/-- The characters for drawing lines, those of the block Box Drawing. -/
def isDrawn (c : Char) : Bool :=
  '\u2500' ≤ c && c ≤ '\u257f'

/-- A rule is drawn from end to end. All other lines have cells. -/
def isRule (line : List Char) : Bool :=
  line.all isDrawn

/-- Whether a line is the rule under a header. -/
def endsHeader (line : List Char) : Bool :=
  line.head? == some '╞'

/-- The lines with cells in the header of a table. -/
def headerLines (text : String) : List (List Char) :=
  ((textLines text).takeWhile (!endsHeader ·)).filter (!isRule ·)

/-- The lines with cells below the header of a table. -/
def linesBelowHeader (text : String) : List (List Char) :=
  ((textLines text).dropWhile (!endsHeader ·)).filter (!isRule ·)

/-- The cells of a line: what is between its ends, divided at the separators of the columns, without
    the blanks around it. -/
def readCells (line : List Char) : List String :=
  (line.tail.dropLast.splitOn '┆').map fun cell => .ofList (trim cell)

/-- The rule under the header divides the lines of a table. -/
theorem divided_of_textLines {text : String} {above below : List (List Char)} {under : List Char}
    (h : textLines text = above ++ under :: below)
    (habove : ∀ line ∈ above, endsHeader line = false) (hunder : endsHeader under = true) :
    headerLines text = above.filter (!isRule ·) ∧
      linesBelowHeader text = (under :: below).filter (!isRule ·) := by
  have habove' : ∀ line ∈ above, (!endsHeader line) = true := by simpa using habove
  rw [headerLines, linesBelowHeader, h, List.takeWhile_append_of_pos habove',
    List.dropWhile_append_of_pos habove']
  simp [hunder]

/-! ## Lines between their ends -/

/-- A line: its parts, with a separator between any two of them, between its ends. -/
def framed (left between right : Char) (parts : List (List Char)) : List Char :=
  left :: [between].intercalate parts ++ [right]

/-- The number of characters in a line of columns of some widths. -/
def lineLength (widths : List Nat) : Nat :=
  (widths.map (· + 2)).sum + (widths.length - 1) + 2

section Framed

variable {left along between right c : Char} {parts : List (List Char)} {widths : List Nat}

theorem mem_framed (h : c ∈ framed left between right parts) :
    c ∈ [left, between, right] ∨ ∃ part ∈ parts, c ∈ part := by
  rw [framed, List.mem_append, List.mem_cons, List.mem_singleton] at h
  rcases h with (rfl | h) | rfl
  · simp
  · exact (mem_intercalate h).imp_left fun heq => by simp [heq]
  · simp

theorem length_framed (left between right : Char)
    (h : parts.map List.length = widths.map (· + 2)) :
    (framed left between right parts).length = lineLength widths := by
  have hlength : parts.length = widths.length := by simpa using congrArg List.length h
  rw [framed, List.length_append, List.length_cons, length_intercalate, List.length_flatten, h,
    hlength]
  rfl

theorem length_rule (left along between right : Char) (widths : List Nat) :
    (rule left along between right widths).length = lineLength widths :=
  length_framed left between right (by simp)

theorem mem_rule (h : c ∈ rule left along between right widths) :
    c ∈ [left, along, between, right] := by
  rcases mem_framed h with h | ⟨part, hpart, h⟩
  · simp only [List.mem_cons] at h ⊢
    tauto
  · obtain ⟨width, -, rfl⟩ := List.mem_map.1 hpart
    simp [List.eq_of_mem_replicate h]

theorem isRule_rule (h : [left, along, between, right].all isDrawn) (widths : List Nat) :
    isRule (rule left along between right widths) = true :=
  List.all_eq_true.2 fun c hc => List.all_eq_true.1 h c (mem_rule hc)

theorem filter_rule_cons (h : [left, along, between, right].all isDrawn) (widths : List Nat)
    (lines : List (List Char)) :
    (rule left along between right widths :: lines).filter (!isRule ·) =
      lines.filter (!isRule ·) :=
  List.filter_cons_of_neg (by rw [isRule_rule h]; exact Bool.false_ne_true)

end Framed

/-! ## Plain cells -/

/-- A cell that is shown as it is: one line of printable ASCII, without blanks around it. -/
structure IsPlainCell (cell : String) : Prop where
  printable : ∀ c ∈ cell.toList, ' ' ≤ c ∧ c ≤ '~'
  isTrimmed : IsTrimmed cell.toList

namespace IsPlainCell

variable {cell : String} {c : Char}

theorem not_mem (h : IsPlainCell cell) (hc : c < ' ' ∨ '~' < c) : c ∉ cell.toList := by
  intro hmem
  obtain ⟨hlow, hhigh⟩ := h.printable c hmem
  rcases hc with hc | hc
  · exact absurd hlow (Char.not_le.2 hc)
  · exact absurd hhigh (Char.not_le.2 hc)

theorem cellLines_eq (h : IsPlainCell cell) : cellLines cell = [cell.toList] :=
  List.splitOn_eq_singleton (h.not_mem (.inl (by decide)))

/-- A plain cell takes a column of the terminal for each character. -/
theorem cellWidth_eq (h : IsPlainCell cell) : cellWidth cell = cell.toList.length := by
  rw [cellWidth, h.cellLines_eq, List.map_singleton, width_eq_length h.printable]
  exact Nat.zero_max _

theorem padded_eq (h : IsPlainCell cell) (width : Nat) : padded width cell.toList =
    [' '] ++ cell.toList ++ List.replicate (width - cell.toList.length + 1) ' ' := by
  rw [padded, width_eq_length h.printable, List.replicate_succ', List.append_assoc]
  rfl

theorem not_mem_padded (h : IsPlainCell cell) (hc : c < ' ' ∨ '~' < c) (width : Nat) :
    c ∉ padded width cell.toList := by
  have hspace : c ≠ ' ' := by
    rintro rfl
    exact absurd hc (by decide)
  simp [h.padded_eq, hspace, h.not_mem hc]

theorem length_padded (h : IsPlainCell cell) {width : Nat} (hwidth : cell.toList.length ≤ width) :
    (padded width cell.toList).length = width + 2 := by
  simp only [h.padded_eq, List.length_append, List.length_singleton, List.length_replicate]
  omega

/-- The padding of a plain cell is told from the cell. -/
theorem trim_padded (h : IsPlainCell cell) (width : Nat) :
    trim (padded width cell.toList) = cell.toList := by
  rw [h.padded_eq]
  refine h.isTrimmed.trim_append (List.forall_mem_singleton.2 rfl) fun c hc => ?_
  rw [List.eq_of_mem_replicate hc]
  rfl

end IsPlainCell

/-! ## Rows of plain cells -/

/-- The cells of a row, each padded to the width of its column. -/
def paddedCells (widths : List Nat) (row : List String) : List (List Char) :=
  List.zipWith (fun width cell => padded width cell.toList) widths row

/-- The line of a row of plain cells. -/
def rowLine (widths : List Nat) (row : List String) : List Char :=
  framed '│' '┆' '│' (paddedCells widths row)

/-- A row has a plain cell for each column, and none is wider than its column. -/
def FitsRow (widths : List Nat) (row : List String) : Prop :=
  List.Forall₂ (fun width cell => IsPlainCell cell ∧ cell.toList.length ≤ width) widths row

section Row

variable {widths : List Nat} {row : List String} {cell : String} {c : Char}

theorem paddedCells_cons (width : Nat) (widths : List Nat) (cell : String) (row : List String) :
    paddedCells (width :: widths) (cell :: row) =
      padded width cell.toList :: paddedCells widths row :=
  rfl

theorem cellAt_eq_getElem {i : Nat} (hi : i < row.length) : cellAt row i = row[i] := by
  simp [cellAt, hi]

/-- The largest of some numbers, or of none and a least one. -/
theorem foldl_max_eq {ns : List Nat} {least n : Nat} (hn : least = n ∨ n ∈ ns) (hleast : least ≤ n)
    (h : ∀ m ∈ ns, m ≤ n) : ns.foldl max least = n := by
  rw [List.foldl_max]
  refine le_antisymm (max_le hleast ?_) ?_
  · cases hmax : ns.max? with
    | none => exact hleast
    | some m => exact h m (List.max?_mem hmax)
  · rcases hn with rfl | hn
    · exact le_max_left _ _
    · exact le_max_of_le_right (List.le_max?_getD_of_mem hn)

theorem rowHeight_eq_one (h : ∀ cell ∈ row, IsPlainCell cell) : rowHeight row = 1 := by
  refine foldl_max_eq (.inl rfl) le_rfl (List.forall_mem_map.2 fun cell hcell => ?_)
  rw [(h cell hcell).cellLines_eq]
  exact le_rfl

/-- A row of plain cells is one line. -/
theorem rowLines_eq (hlength : widths.length = row.length) (h : ∀ cell ∈ row, IsPlainCell cell) :
    rowLines id widths row = [rowLine widths row] := by
  have hcells : (widths.zipIdx.map fun x =>
      padded x.1 ((cellLines (cellAt row x.2))[0]?.getD [])) = paddedCells widths row := by
    refine List.ext_getElem (by simp [paddedCells, hlength]) fun i h₁ h₂ => ?_
    have hi : i < row.length := by
      rw [List.length_map, List.length_zipIdx] at h₁
      rwa [← hlength]
    simp [paddedCells, cellAt_eq_getElem hi, (h _ (List.getElem_mem hi)).cellLines_eq]
  rw [rowLines, rowHeight_eq_one h]
  simp [rowLine, framed, ← hcells]

namespace FitsRow

/-- Nothing that is drawn is in a padded cell, nor a line feed. -/
theorem not_mem_paddedCells (h : FitsRow widths row) (hc : c < ' ' ∨ '~' < c) :
    ∀ part ∈ paddedCells widths row, c ∉ part := by
  induction h with
  | nil => exact fun _ hpart => absurd hpart List.not_mem_nil
  | cons hcell _ ih => exact List.forall_mem_cons.2 ⟨hcell.1.not_mem_padded hc _, ih⟩

theorem map_trim_paddedCells (h : FitsRow widths row) :
    (paddedCells widths row).map (fun cell => .ofList (trim cell)) = row := by
  induction h with
  | nil => rfl
  | cons hcell _ ih =>
    rw [paddedCells_cons, List.map_cons, hcell.1.trim_padded, String.ofList_toList, ih]

theorem map_length_paddedCells (h : FitsRow widths row) :
    (paddedCells widths row).map List.length = widths.map (· + 2) := by
  induction h with
  | nil => rfl
  | cons hcell _ ih =>
    rw [paddedCells_cons, List.map_cons, hcell.1.length_padded hcell.2, ih, List.map_cons]

theorem length_rowLine (h : FitsRow widths row) :
    (rowLine widths row).length = lineLength widths :=
  length_framed _ _ _ h.map_length_paddedCells

theorem lineFeed_not_mem (h : FitsRow widths row) : '\n' ∉ rowLine widths row := by
  intro hmem
  rcases mem_framed hmem with hmem | ⟨part, hpart, hmem⟩
  · exact absurd hmem (by decide)
  · exact h.not_mem_paddedCells (.inl (by decide)) part hpart hmem

/-- The line of a row is no rule, for the blank before the first cell is not drawn. -/
theorem isRule_rowLine (h : FitsRow widths row) (hne : row ≠ []) :
    isRule (rowLine widths row) = false := by
  cases h with
  | nil => exact absurd rfl hne
  | @cons width cell widths row hcell _ =>
    have hspace : ' ' ∈ rowLine (width :: widths) (cell :: row) := by
      rw [rowLine, framed, paddedCells_cons]
      cases paddedCells widths row <;> simp [padded]
    exact Bool.eq_false_iff.2 fun hrule => absurd (List.all_eq_true.1 hrule ' ' hspace) (by decide)

/-- The cells of a line are those of the row. -/
theorem readCells_rowLine (h : FitsRow widths row) (hne : row ≠ []) :
    readCells (rowLine widths row) = row := by
  have hparts : paddedCells widths row ≠ [] := by
    intro hnil
    have hmap := h.map_trim_paddedCells
    rw [hnil] at hmap
    exact hne hmap.symm
  have hmiddle : (rowLine widths row).tail.dropLast = ['┆'].intercalate (paddedCells widths row) :=
    List.dropLast_concat
  rw [readCells, hmiddle,
    List.splitOn_intercalate '┆' (h.not_mem_paddedCells (.inr (by decide))) hparts,
    h.map_trim_paddedCells]

end FitsRow

end Row

/-! ## Plain tables -/

/-- A header and rows, all of them of as many plain cells, and at least one. -/
structure IsPlain (header : List String) (rows : List (List String)) : Prop where
  header_ne_nil : header ≠ []
  length_eq : ∀ row ∈ header :: rows, row.length = header.length
  isPlainCell : ∀ row ∈ header :: rows, ∀ cell ∈ row, IsPlainCell cell

namespace IsPlain

variable {header row : List String} {rows : List (List String)} (h : IsPlain header rows)
include h

theorem ne_nil (hrow : row ∈ header :: rows) : row ≠ [] := by
  rw [← List.length_pos_iff, h.length_eq row hrow]
  exact List.length_pos_iff.2 h.header_ne_nil

theorem columnCount_eq : columnCount ⟨some header, rows⟩ = header.length := by
  refine foldl_max_eq (.inr (List.mem_map_of_mem List.mem_cons_self)) (Nat.zero_le _) ?_
  exact List.forall_mem_map.2 fun row hrow => (h.length_eq row hrow).le

/-- The columns are made for the header and for each row. -/
theorem fitsRow (hrow : row ∈ header :: rows) :
    FitsRow (columnWidths ⟨some header, rows⟩) row := by
  refine List.forall₂_iff_get.2 ⟨?_, fun i _ hi => ?_⟩
  · rw [columnWidths, List.length_map, List.length_range, h.columnCount_eq, h.length_eq row hrow]
  · have hcell := h.isPlainCell row hrow _ (List.getElem_mem hi)
    refine ⟨hcell, ?_⟩
    simp only [columnWidths, List.get_eq_getElem, List.getElem_map, List.getElem_range,
      List.foldl_max]
    refine le_max_of_le_right (List.le_max?_getD_of_mem (List.mem_map.2 ⟨row, hrow, ?_⟩))
    rw [cellAt_eq_getElem hi, hcell.cellWidth_eq]

/-- Where no terminal shows it, a plain table has a line for the header and one for each row, with
    rules around and between them. -/
theorem lines_eq :
    let widths := columnWidths ⟨some header, rows⟩
    lines ⟨some header, rows⟩ false =
      [rule '╭' '─' '┬' '╮' widths, rowLine widths header] ++ rule '╞' '═' '╪' '╡' widths ::
        ([rule '├' '╌' '┼' '┤' widths].intercalate (rows.map fun row => [rowLine widths row]) ++
          [rule '╰' '─' '┴' '╯' widths]) := by
  intro widths
  have hwidths : widths.isEmpty = false := by
    have hlength : widths.length = header.length := (h.fitsRow List.mem_cons_self).length_eq
    rw [List.isEmpty_eq_false_iff, ← List.length_pos_iff, hlength]
    exact List.length_pos_iff.2 h.header_ne_nil
  have hline : ∀ row ∈ header :: rows, rowLines id widths row = [rowLine widths row] :=
    fun row hrow => rowLines_eq (h.fitsRow hrow).length_eq (h.isPlainCell row hrow)
  obtain ⟨hheader, hrows⟩ := List.forall_mem_cons.1 hline
  have hbody : rows.map (rowLines id widths) = rows.map fun row => [rowLine widths row] :=
    List.map_congr_left hrows
  simp [lines, bodyLines, ← hbody, ← hheader, widths, hwidths]

/-- What holds of the line of each row and of everything drawn holds of all lines. -/
theorem forall_mem_lines {P : List Char → Prop}
    (hrow : ∀ row ∈ header :: rows, P (rowLine (columnWidths ⟨some header, rows⟩) row))
    (hrule : ∀ left along between right, [left, along, between, right].all isDrawn →
      P (rule left along between right (columnWidths ⟨some header, rows⟩))) :
    ∀ line ∈ lines ⟨some header, rows⟩ false, P line := by
  obtain ⟨hheader, hrows⟩ := List.forall_mem_cons.1 hrow
  intro line hline
  rw [h.lines_eq] at hline
  simp only [List.mem_append, List.mem_cons, List.not_mem_nil, or_false] at hline
  rcases hline with (rfl | rfl) | rfl | hline | rfl
  · exact hrule _ _ _ _ (by decide)
  · exact hheader
  · exact hrule _ _ _ _ (by decide)
  · rcases mem_intercalate hline with rfl | ⟨part, hpart, hline⟩
    · exact hrule _ _ _ _ (by decide)
    · obtain ⟨row, hmem, rfl⟩ := List.mem_map.1 hpart
      rw [List.mem_singleton.1 hline]
      exact hrows row hmem
  · exact hrule _ _ _ _ (by decide)

theorem length_of_mem_lines : ∀ line ∈ lines ⟨some header, rows⟩ false,
    line.length = lineLength (columnWidths ⟨some header, rows⟩) :=
  h.forall_mem_lines (fun _ hrow => (h.fitsRow hrow).length_rowLine)
    fun _ _ _ _ _ => length_rule _ _ _ _ _

/-- The lines of the text are those of the table. -/
theorem textLines_render :
    textLines (render ⟨some header, rows⟩ false) = lines ⟨some header, rows⟩ false := by
  have hlineFeed : ∀ line ∈ lines ⟨some header, rows⟩ false, '\n' ∉ line := by
    refine h.forall_mem_lines (fun _ hrow => (h.fitsRow hrow).lineFeed_not_mem)
      fun _ _ _ _ hdrawn hmem => ?_
    exact absurd (List.all_eq_true.1 hdrawn _ (mem_rule hmem)) (by decide)
  rw [textLines, render, String.toList_ofList, List.splitOn_intercalate '\n' hlineFeed]
  exact List.cons_ne_nil _ _

/-- The lines with cells are those of the header and, below the rule under it, those of the rows. -/
theorem lines_render :
    let text := render ⟨some header, rows⟩ false
    let line := rowLine (columnWidths ⟨some header, rows⟩)
    headerLines text = [line header] ∧ linesBelowHeader text = rows.map line := by
  intro text line
  have hline : ∀ row ∈ header :: rows, (!isRule (line row)) = true := by
    intro row hrow
    rw [(h.fitsRow hrow).isRule_rowLine (h.ne_nil hrow)]
    rfl
  obtain ⟨hheader, hrows⟩ := List.forall_mem_cons.1 hline
  obtain ⟨habove, hbelow⟩ := divided_of_textLines (h.textLines_render.trans h.lines_eq)
    (by simp [endsHeader, rule, rowLine, framed]) (by simp [endsHeader, rule])
  have hflatten : (rows.map fun row => [line row]).flatten = rows.map line := by
    rw [← List.flatMap_def, List.map_eq_flatMap]
  refine ⟨habove.trans ?_, hbelow.trans ?_⟩
  · rw [filter_rule_cons (by decide)]
    exact List.filter_eq_self.2 (List.forall_mem_singleton.2 hheader)
  · rw [filter_rule_cons (by decide), List.filter_append, filter_rule_cons (by decide),
      filter_intercalate (by rw [isRule_rule (by decide)]; rfl), hflatten, List.filter_nil,
      List.append_nil, List.filter_eq_self]
    exact List.forall_mem_map.2 hrows

end IsPlain

end AutoImport.Grid
