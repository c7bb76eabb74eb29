import AutoImport.Proofs.Load.Join

/-!
# Contents without some lines

Lines can be deleted from a content by their numbers, each with what ends it (`deleteLines`). What
is left are the other lines, in their order and as they were (`splitLines_deleteLines`).

A load says and registers what is bound in its lines, and a line binds the same among other lines.
So a content without lines that bind nothing is loaded like the content with them
(`Load.tellsLike_deleteLines`), while a statement that is deleted is missed
(`Load.exists_registrations_deleteLines`). Of the lines that are neither blank nor comments, those
that bind nothing are those that are listed (`Load.lists_iff`).
-/

namespace AutoImport

/-! ## Deleting by number -/

/-- What has a number that is kept, with numbers counted from a first one. -/
def keepNumbered {α : Type} (keep : Nat → Bool) (first : Nat) (xs : List α) : List α :=
  ((xs.zipIdx first).filter fun x => keep x.2).map (·.1)

/-- The lines of a content, each with what ends it. -/
def endedLines (bytes : List UInt8) : List (List UInt8) :=
  let pieces := bytes.splitOn 10
  let unended := (pieces.getLast?.filter (· ≠ [])).toList
  pieces.dropLast.map (· ++ [10]) ++ unended

/-- A content without the lines that have certain numbers, the first line having number 1. -/
def deleteLines (deleted : Nat → Bool) (bytes : List UInt8) : List UInt8 :=
  (keepNumbered (!deleted ·) 1 (endedLines bytes)).flatten

section Keep

variable {α β : Type} {keep : Nat → Bool} {first : Nat}

@[simp] theorem keepNumbered_nil : keepNumbered keep first ([] : List α) = [] :=
  rfl

theorem keepNumbered_cons (x : α) (xs : List α) : keepNumbered keep first (x :: xs) =
    if keep first then x :: keepNumbered keep (first + 1) xs
    else keepNumbered keep (first + 1) xs := by
  rw [keepNumbered, List.zipIdx_cons, List.filter_cons]
  split <;> rfl

theorem mem_keepNumbered {x : α} {xs : List α} :
    x ∈ keepNumbered keep first xs ↔ ∃ number, (x, number) ∈ xs.zipIdx first ∧ keep number := by
  simp [keepNumbered]

/-- What has no part in the result need not be kept. -/
theorem flatMap_keepNumbered {f : α → List β} {xs : List α}
    (h : ∀ x number, (x, number) ∈ xs.zipIdx first → keep number = false → f x = []) :
    (keepNumbered keep first xs).flatMap f = xs.flatMap f := by
  induction xs generalizing first with
  | nil => rfl
  | cons x xs ih =>
    have hxs := ih fun y number hy => h y number (List.mem_cons_of_mem _ hy)
    rw [keepNumbered_cons, List.flatMap_cons]
    split
    · rw [List.flatMap_cons, hxs]
    · rename_i hkeep
      rw [hxs, h x first List.mem_cons_self (Bool.eq_false_iff.2 hkeep), List.nil_append]

theorem keepNumbered_eq_self {xs : List α} (h : ∀ number, first ≤ number → keep number) :
    keepNumbered keep first xs = xs := by
  induction xs generalizing first with
  | nil => rfl
  | cons x xs ih =>
    rw [keepNumbered_cons, if_pos (h first (Nat.le_refl _)),
      ih fun number hnumber => h number (Nat.le_of_succ_le hnumber)]

/-- All but one are kept, if all numbers but that of the one are. -/
theorem keepNumbered_append_cons {x : α} {before after : List α} {number : Nat}
    (h : number = first + before.length) :
    keepNumbered (fun n => !n == number) first (before ++ x :: after) = before ++ after := by
  induction before generalizing first with
  | nil =>
    have hlater : ∀ n, first + 1 ≤ n → (!n == number) = true := by
      intro n hn
      rw [List.length_nil] at h
      simp only [Bool.not_eq_true', beq_eq_false_iff_ne]
      omega
    rw [List.nil_append, keepNumbered_cons, if_neg (by simp [h]), keepNumbered_eq_self hlater,
      List.nil_append]
  | cons y before ih =>
    rw [List.length_cons] at h
    have hkeep : (!first == number) = true := by
      simp only [Bool.not_eq_true', beq_eq_false_iff_ne]
      omega
    rw [List.cons_append, keepNumbered_cons, if_pos hkeep, ih (by omega), List.cons_append]

/-- What has a number is somewhere among the others. -/
theorem exists_append_of_mem_zipIdx {x : α} {xs : List α} {number : Nat}
    (h : (x, number) ∈ xs.zipIdx first) :
    ∃ before after, xs = before ++ x :: after ∧ number = first + before.length := by
  obtain ⟨numbered, numbered', happend⟩ := List.append_of_mem h
  obtain ⟨before, rest, rfl, -, hrest⟩ := List.zipIdx_eq_append_iff.1 happend
  obtain ⟨y, after, rfl, hx, -⟩ := List.zipIdx_eq_cons_iff.1 hrest.symm
  obtain ⟨rfl, rfl⟩ := Prod.mk.inj hx
  exact ⟨before, after, rfl, rfl⟩

end Keep

/-! ## The lines that are left -/

variable {line bytes : List UInt8} {lines : List (List UInt8)} {keep deleted : Nat → Bool}

theorem endedLines_of_not_mem (h : 10 ∉ line) (hne : line ≠ []) : endedLines line = [line] := by
  simp [endedLines, List.splitOn_eq_singleton h, hne]

theorem endedLines_append (h : 10 ∉ line) (bytes : List UInt8) :
    endedLines (line ++ 10 :: bytes) = (line ++ [10]) :: endedLines bytes := by
  obtain ⟨piece, pieces, hpieces⟩ := List.exists_cons_of_ne_nil (List.splitOn_ne_nil 10 bytes)
  rw [endedLines, endedLines, List.splitOn_append_cons_self_of_not_mem h, hpieces,
    List.getLast?_cons_cons, List.dropLast_cons_cons]
  rfl

/-- Lines that are kept with what ends them are the same lines. -/
theorem IsLines.flatten_keepNumbered (h : IsLines bytes lines) (first : Nat) :
    IsLines (keepNumbered keep first (endedLines bytes)).flatten
      (keepNumbered keep first lines) := by
  induction h generalizing first with
  | nil => exact .nil
  | @unended line hline hne =>
    rw [endedLines_of_not_mem hline hne, keepNumbered_cons]
    split
    · simpa using IsLines.unended hline hne
    · exact .nil
  | @ended line bytes lines hline _ ih =>
    rw [endedLines_append hline, keepNumbered_cons, keepNumbered_cons]
    split
    · rw [List.flatten_cons, List.append_assoc]
      exact .ended hline (ih (first + 1))
    · exact ih (first + 1)

/-- What is left of a content are the lines that are not deleted. -/
theorem splitLines_deleteLines (deleted : Nat → Bool) (bytes : List UInt8) :
    splitLines (deleteLines deleted bytes) = keepNumbered (!deleted ·) 1 (splitLines bytes) :=
  ((isLines_splitLines bytes).flatten_keepNumbered 1).splitLines_eq

/-- Lines are read as they would be with the others. -/
theorem readable_keepNumbered (h : ∀ line ∈ lines, isReadable line) (first : Nat) :
    readable (keepNumbered keep first lines) = keepNumbered keep first (readable lines) := by
  induction lines generalizing first with
  | nil => rfl
  | cons line lines ih =>
    obtain ⟨hline, hlines⟩ := List.forall_mem_cons.1 h
    obtain ⟨text, htext⟩ := Option.isSome_iff_exists.1 hline
    rw [readable_cons_of_eq_some htext, keepNumbered_cons, keepNumbered_cons, ← ih hlines]
    split
    · exact readable_cons_of_eq_some htext _
    · rfl

theorem isReadable_of_mem_deleteLines (deleted : Nat → Bool)
    (h : ∀ line ∈ splitLines bytes, isReadable line) :
    ∀ line ∈ splitLines (deleteLines deleted bytes), isReadable line := by
  intro line hline
  rw [splitLines_deleteLines, mem_keepNumbered] at hline
  obtain ⟨number, hmem, -⟩ := hline
  exact h line (List.fst_mem_of_mem_zipIdx hmem)

/-- What is left binds what it bound before. -/
theorem Opened.bindings_deleteLines (deleted : Nat → Bool)
    (h : ∀ line ∈ splitLines bytes, isReadable line) :
    (content (deleteLines deleted bytes)).bindings =
      (keepNumbered (!deleted ·) 1 (readable (splitLines bytes))).flatMap fun line =>
        (LineMeaning.ofLine line).bindings := by
  rw [bindings_content, splitLines_deleteLines, readable_keepNumbered h]

/-! ## Lines that bind nothing -/

namespace LineMeaning

variable {line : String}

theorem bindings_eq_nil_of_isRejected (h : IsRejected (trimmed line)) :
    (ofLine line).bindings = [] := by
  rw [ofLine_of_isRejected h]
  rfl

/-- A line binds something if it is not blank, no comment, and not outside the grammar. -/
theorem bindings_ne_nil (hidle : ¬IsIdle (trimmed line)) (h : ¬IsRejected (trimmed line)) :
    (ofLine line).bindings ≠ [] := by
  cases hread : readLine? (trimmed line) with
  | none => exact absurd ⟨hidle, hread⟩ h
  | some names =>
    rw [ofLine_of_readLine? hread]
    exact bindings_ne_nil_of_readLine? hread

end LineMeaning

/-- Of a line there is listed what is outside the grammar: its text, with its number. -/
theorem mem_unrecognized_ofLine {path line : String} {number : Nat} {l : UnrecognizedLine} :
    l ∈ (Effect.ofLine path number line).unrecognized ↔
      IsRejected (trimmed line) ∧ l = ⟨number, trimmed line⟩ := by
  generalize heffect : Effect.ofLine path number line = effect
  cases heffect ▸ lineEffect_ofLine path number line with
  | idle h => simpa using fun hrejected => absurd h hrejected.1
  | rejected h => simp [h]
  | accepted h => simpa using fun hrejected => absurd (h.symm.trans hrejected.2) (by simp)

namespace Load

variable {path path' line : String} {opened opened' : Opened} {number : Nat} {l : UnrecognizedLine}

/-- Whether the report of a load lists a line with a number. -/
def lists (load : Load) (number : Nat) : Bool :=
  load.report.unrecognized.any (·.number == number)

/-- Listed are the lines outside the grammar. -/
theorem mem_unrecognized_ofOpened :
    l ∈ (ofOpened path (.content bytes)).report.unrecognized ↔
      ∃ line, (line, l.number) ∈ (readable (splitLines bytes)).zipIdx 1 ∧
        IsRejected (trimmed line) ∧ l.text = trimmed line := by
  rw [ofOpened_content]
  change l ∈ (Effect.join (Effect.ofLines path 1 (readable (splitLines bytes)))).unrecognized ↔ _
  simp only [Effect.join, Effect.ofLines, List.flatMap_map, List.mem_flatMap,
    mem_unrecognized_ofLine]
  constructor
  · rintro ⟨⟨line, number⟩, hmem, hrejected, rfl⟩
    exact ⟨line, hmem, hrejected, rfl⟩
  · rintro ⟨line, hmem, hrejected, htext⟩
    exact ⟨(line, l.number), hmem, hrejected, by rw [← htext]⟩

/-- A line is listed exactly if it is outside the grammar. -/
theorem lists_iff (h : (line, number) ∈ (readable (splitLines bytes)).zipIdx 1) :
    (ofOpened path (.content bytes)).lists number ↔ IsRejected (trimmed line) := by
  simp only [lists, List.any_eq_true, beq_iff_eq]
  constructor
  · rintro ⟨l, hl, rfl⟩
    obtain ⟨line', hmem, hrejected, -⟩ := mem_unrecognized_ofOpened.1 hl
    -- There is one line with the number.
    rw [List.mk_mem_zipIdx_iff_le_and_getElem?_sub] at h hmem
    obtain rfl := Option.some.inj (h.2.symm.trans hmem.2)
    exact hrejected
  · intro hrejected
    exact ⟨⟨number, trimmed line⟩, mem_unrecognized_ofOpened.2 ⟨line, h, hrejected, rfl⟩, rfl⟩

/-! ## What loads tell -/

/-- A load tells a keeper of names, and whoever follows it, the same as another one. -/
structure TellsLike (load load' : Load) : Prop where
  registrations : load.registrations = load'.registrations
  imports : load.report.imports = load'.report.imports
  aliases : load.report.aliases = load'.report.aliases
  diagnostics : load.diagnostics true = load'.diagnostics true

/-- The counts of a load are those of what it has registered. -/
theorem counts_ofOpened (path : String) (opened : Opened) :
    let load := ofOpened path opened
    load.report.imports = load.registrations.countP (!·.isRename) ∧
      load.report.aliases = load.registrations.countP (·.isRename) := by
  intro load
  -- How the load ends does not matter.
  obtain h | ⟨event, cause, -, h⟩ := ofOpened_ends path opened <;>
    rw [show load = _ from h] <;> exact ⟨Nat.zero_add _, Nat.zero_add _⟩

/-- A content that can be read is read to its end. -/
theorem fileRead_ofOpened (path : String) (h : ∀ line ∈ splitLines bytes, isReadable line) :
    (ofOpened path (.content bytes)).report.fileRead = true ∧
      (ofOpened path (.content bytes)).failure? = none := by
  rw [ofOpened, takeLines_eq, if_pos h]
  exact ⟨rfl, rfl⟩

/-- A load that comes to the end of its file has shown the labels of the bindings in the file. -/
theorem diagnostics_of_fileRead (h : (ofOpened path opened).report.fileRead = true) :
    (ofOpened path opened).diagnostics true =
      .join (opened.bindings.map (·.label ++ "\n")) := by
  obtain hends | ⟨event, cause, -, hends⟩ := ofOpened_ends path opened
  · rw [hends]
    exact (diagnostics_finish _).trans (diagnostics_add_ofLines path 1 _)
  · rw [hends] at h
    cases h

/-- Loads that come to the ends of files that bind the same tell the same. -/
theorem tellsLike_of_bindings_eq (h : (ofOpened path opened).report.fileRead = true)
    (h' : (ofOpened path' opened').report.fileRead = true)
    (heq : opened.bindings = opened'.bindings) :
    (ofOpened path opened).TellsLike (ofOpened path' opened') := by
  have hregistrations :
      (ofOpened path opened).registrations = (ofOpened path' opened').registrations := by
    rw [registrations_ofOpened, registrations_ofOpened, heq]
  obtain ⟨himports, haliases⟩ := counts_ofOpened path opened
  obtain ⟨himports', haliases'⟩ := counts_ofOpened path' opened'
  exact {
    registrations := hregistrations
    imports := by rw [himports, himports', hregistrations]
    aliases := by rw [haliases, haliases', hregistrations]
    diagnostics := by rw [diagnostics_of_fileRead h, diagnostics_of_fileRead h', heq] }

/-! ## Loads without some lines -/

/-- Without lines that bind nothing, a content is told like with them. -/
theorem tellsLike_deleteLines (path path' : String) (deleted : Nat → Bool)
    (hread : ∀ line ∈ splitLines bytes, isReadable line)
    (h : ∀ line number, (line, number) ∈ (readable (splitLines bytes)).zipIdx 1 →
      deleted number → (LineMeaning.ofLine line).bindings = []) :
    (ofOpened path (.content (deleteLines deleted bytes))).TellsLike
      (ofOpened path' (.content bytes)) := by
  refine tellsLike_of_bindings_eq
    (fileRead_ofOpened path (isReadable_of_mem_deleteLines deleted hread)).1
    (fileRead_ofOpened path' hread).1 ?_
  rw [Opened.bindings_deleteLines deleted hread]
  exact flatMap_keepNumbered fun line number hmem hdeleted =>
    h line number hmem (by simpa using hdeleted)

/-- Without the lines outside the grammar, nothing is listed. -/
theorem unrecognized_deleteLines (path : String)
    (hread : ∀ line ∈ splitLines bytes, isReadable line)
    (h : ∀ line number, (line, number) ∈ (readable (splitLines bytes)).zipIdx 1 →
      IsRejected (trimmed line) → deleted number) :
    (ofOpened path (.content (deleteLines deleted bytes))).report.unrecognized = [] := by
  refine List.eq_nil_iff_forall_not_mem.2 fun l hl => ?_
  obtain ⟨line, hmem, hrejected, -⟩ := mem_unrecognized_ofOpened.1 hl
  have hkept := List.fst_mem_of_mem_zipIdx hmem
  rw [splitLines_deleteLines, readable_keepNumbered hread, mem_keepNumbered] at hkept
  obtain ⟨number, hmem', hkeep⟩ := hkept
  simp [h line number hmem' hrejected] at hkeep

/-- Without a line that binds something, what it registers is missing. -/
theorem exists_registrations_deleteLines (path path' : String)
    (hread : ∀ line ∈ splitLines bytes, isReadable line)
    (h : (line, number) ∈ (readable (splitLines bytes)).zipIdx 1)
    (hne : (LineMeaning.ofLine line).bindings ≠ []) :
    ∃ before missing after, missing ≠ [] ∧
      (ofOpened path' (.content bytes)).registrations = before ++ missing ++ after ∧
      (ofOpened path (.content (deleteLines (· == number) bytes))).registrations =
        before ++ after := by
  obtain ⟨before, after, hlines, hnumber⟩ := exists_append_of_mem_zipIdx h
  obtain ⟨b, bs, hbs⟩ := List.exists_cons_of_ne_nil hne
  let registered (lines : List String) : List Registration :=
    (lines.flatMap fun line => (LineMeaning.ofLine line).bindings).flatMap (·.registrations)
  refine ⟨registered before, registered [line], registered after, ?_, ?_, ?_⟩
  · simp [registered, hbs, Binding.registrations]
  · rw [registrations_ofOpened, Opened.bindings_content, hlines]
    simp [registered]
  · rw [registrations_ofOpened, Opened.bindings_deleteLines _ hread, hlines,
      keepNumbered_append_cons hnumber]
    simp [registered]

end Load

end AutoImport
