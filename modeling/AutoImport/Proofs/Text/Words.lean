import AutoImport.Text.Blank
import Mathlib.Data.List.Basic
import Mathlib.Data.List.TakeWhile

/-!
# Words among blanks

How the words of a text (`words`) follow from the way it is put together: blanks at either end count
for nothing (`words_blanks_append`, `words_append_blanks`), blanks in the middle divide it
(`words_append_gap`), and a text without blanks is one word (`words_of_word`). A text with no blank
at either end is not changed by taking blanks away (`IsTrimmed.trim_eq_self`).

What is left of a text when the blanks around it are taken away starts and ends with a word
(`isTrimmed_trim`), and its words are still those of the text (`words_trim`). Such a text can be
taken apart from the front, a word and the blanks behind it at a time (`FirstWord`).
-/

namespace AutoImport.Text

variable {cs ds gap : List Char}

/-- The blanks, by number. -/
theorem isBlank_iff {c : Char} : isBlank c ↔
    ((((((((((9 ≤ c.toNat ∧ c.toNat ≤ 13) ∨ c.toNat = 0x20) ∨ c.toNat = 0x85) ∨ c.toNat = 0xa0) ∨
      c.toNat = 0x1680) ∨ (0x2000 ≤ c.toNat ∧ c.toNat ≤ 0x200a)) ∨ c.toNat = 0x2028) ∨
      c.toNat = 0x2029) ∨ c.toNat = 0x202f) ∨ c.toNat = 0x205f) ∨ c.toNat = 0x3000 := by
  simp [isBlank, Char.le_def, UInt32.le_iff_toNat_le, ← Char.toNat_inj]

@[simp] theorem words_nil : words [] = [] := rfl

/-- A blank at the front belongs to no word. -/
theorem words_cons_blank {c : Char} (hc : isBlank c) (cs : List Char) :
    words (c :: cs) = words cs :=
  words_append_cons hc [] cs

/-- Blanks before a text are no part of its words. -/
theorem words_blanks_append (h : ∀ c ∈ gap, isBlank c) (cs : List Char) :
    words (gap ++ cs) = words cs := by
  induction gap with
  | nil => rfl
  | cons c gap ih =>
    rw [List.cons_append, words_cons_blank (h c List.mem_cons_self)]
    exact ih fun d hd => h d (List.mem_cons_of_mem _ hd)

/-- Blanks divide a text into the words before them and those after them. -/
theorem words_append_gap (h : ∀ c ∈ gap, isBlank c) (hne : gap ≠ []) (cs ds : List Char) :
    words (cs ++ gap ++ ds) = words cs ++ words ds := by
  obtain ⟨c, gap, rfl⟩ := List.exists_cons_of_ne_nil hne
  rw [List.append_assoc, List.cons_append, words_append_cons (h c List.mem_cons_self),
    words_blanks_append fun d hd => h d (List.mem_cons_of_mem _ hd)]

/-- Blanks behind a text are no part of its words. -/
theorem words_append_blanks (h : ∀ c ∈ gap, isBlank c) (cs : List Char) :
    words (cs ++ gap) = words cs := by
  by_cases hne : gap = []
  · rw [hne, List.append_nil]
  · have := words_append_gap h hne cs []
    rwa [List.append_nil, words_nil, List.append_nil] at this

/-- A text that starts with no blank has none to trim there. -/
theorem trimStart_eq_self (h : ∀ c ∈ cs.head?, isBlank c = false) : trimStart cs = cs := by
  cases cs with
  | nil => rfl
  | cons c cs => exact List.dropWhile_cons_of_neg (by simp [h c rfl])

/-- A text without blanks, if there is any text, is one word. -/
theorem words_of_word (hne : cs ≠ []) (h : ∀ c ∈ cs, isBlank c = false) : words cs = [cs] := by
  rw [words_of_forall_not_isBlank h, if_neg hne]

/-- Words with a space between any two of them are the words of a text. -/
theorem words_intercalate {ws : List (List Char)}
    (h : ∀ w ∈ ws, w ≠ [] ∧ ∀ c ∈ w, isBlank c = false) : words ([' '].intercalate ws) = ws := by
  induction ws with
  | nil => rfl
  | cons w ws ih =>
    obtain ⟨⟨hne, hw⟩, hws⟩ := List.forall_mem_cons.1 h
    cases ws with
    | nil => rw [List.intercalate_singleton, words_of_word hne hw]
    | cons w' ws =>
      have hspace : ∀ c ∈ [' '], isBlank c := List.forall_mem_singleton.2 rfl
      rw [List.intercalate_cons_cons, words_append_gap hspace (by simp), words_of_word hne hw,
        ih hws]
      rfl

/-! ## Texts without blanks around them -/

/-- A text neither starts nor ends with a blank. -/
structure IsTrimmed (cs : List Char) : Prop where
  head? : ∀ c ∈ cs.head?, isBlank c = false
  getLast? : ∀ c ∈ cs.getLast?, isBlank c = false

/-- Such a text is left as it is. -/
theorem IsTrimmed.trim_eq_self (h : IsTrimmed cs) : trim cs = cs := by
  have hreverse : cs.reverse.dropWhile isBlank = cs.reverse :=
    trimStart_eq_self (by rw [List.head?_reverse]; exact h.getLast?)
  rw [trim, trimStart_eq_self h.head?, trimEnd, hreverse, List.reverse_reverse]

/-- Blanks that are put around such a text are taken away again. -/
theorem IsTrimmed.trim_append {gap' : List Char} (h : IsTrimmed cs) (hgap : ∀ c ∈ gap, isBlank c)
    (hgap' : ∀ c ∈ gap', isBlank c) : trim (gap ++ cs ++ gap') = cs := by
  have hstart : trimStart (gap ++ cs ++ gap') = trimStart (cs ++ gap') := by
    rw [trimStart, List.append_assoc, List.dropWhile_append_of_pos hgap]
    rfl
  have hend : trimEnd (cs ++ gap') = trimEnd cs := by
    rw [trimEnd, List.reverse_append,
      List.dropWhile_append_of_pos fun c hc => hgap' c (List.mem_reverse.1 hc)]
    rfl
  rw [trim, hstart]
  by_cases hcs : cs = []
  · have hnil : trimStart gap' = [] := List.dropWhile_eq_nil_iff.2 hgap'
    rw [hcs, List.nil_append, hnil]
    rfl
  · have hhead : ∀ c ∈ (cs ++ gap').head?, isBlank c = false := by
      rw [List.head?_append_of_ne_nil _ hcs]
      exact h.head?
    have htrim := h.trim_eq_self
    rw [trim, trimStart_eq_self h.head?] at htrim
    rw [trimStart_eq_self hhead, hend, htrim]

/-- What starts with a character that is not blank, whatever follows. -/
theorem isBlank_of_mem_head?_append {word : List Char} (hne : word ≠ [])
    (hword : ∀ c ∈ word, isBlank c = false) (rest : List Char) :
    ∀ c ∈ (word ++ rest).head?, isBlank c = false := by
  intro c hc
  obtain ⟨d, word, rfl⟩ := List.exists_cons_of_ne_nil hne
  obtain rfl : d = c := by simpa using hc
  exact hword d List.mem_cons_self

/-- What is taken away from the front of a text are blanks. -/
theorem exists_blanks_append_trimStart (cs : List Char) :
    ∃ gap, (∀ c ∈ gap, isBlank c) ∧ cs = gap ++ trimStart cs :=
  ⟨cs.takeWhile isBlank, fun _ hc => List.mem_takeWhile_imp hc,
    List.takeWhile_append_dropWhile.symm⟩

/-- What is taken away from the end of a text are blanks. -/
theorem exists_trimEnd_append_blanks (cs : List Char) :
    ∃ gap, (∀ c ∈ gap, isBlank c) ∧ cs = trimEnd cs ++ gap := by
  obtain ⟨gap, hgap, hcs⟩ := exists_blanks_append_trimStart cs.reverse
  refine ⟨gap.reverse, fun c hc => hgap c (List.mem_reverse.1 hc), ?_⟩
  rw [trimEnd, ← List.reverse_append]
  exact List.reverse_eq_iff.1 hcs

theorem isBlank_of_mem_head?_trimStart (cs : List Char) :
    ∀ c ∈ (trimStart cs).head?, isBlank c = false := by
  intro c hc
  have hnot := List.head?_dropWhile_not isBlank cs
  rw [trimStart] at hc
  rw [Option.mem_def.1 hc] at hnot
  exact hnot

/-- What is left without the blanks around a text has no blanks around it. -/
theorem isTrimmed_trim (cs : List Char) : IsTrimmed (trim cs) := by
  constructor
  · -- What is left at the end is a front of what was left before.
    obtain ⟨gap, -, hcs⟩ := exists_trimEnd_append_blanks (trimStart cs)
    intro c hc
    refine isBlank_of_mem_head?_trimStart cs c ?_
    rw [hcs, List.head?_append]
    exact Option.or_eq_some_iff.2 (.inl hc)
  · intro c hc
    rw [trim, trimEnd, List.getLast?_reverse] at hc
    exact isBlank_of_mem_head?_trimStart _ c hc

/-- The words of a text are those it has without the blanks around it. -/
theorem words_trim (cs : List Char) : words (trim cs) = words cs := by
  obtain ⟨gap, hgap, hcs⟩ := exists_blanks_append_trimStart cs
  obtain ⟨gap', hgap', hcs'⟩ := exists_trimEnd_append_blanks (trimStart cs)
  conv_rhs => rw [hcs, words_blanks_append hgap, hcs', words_append_blanks hgap']
  rfl

/-- A text as its first word, the blanks behind the word, and what is behind them. -/
structure FirstWord (cs word gap rest : List Char) : Prop where
  eq : cs = word ++ gap ++ rest
  word_ne_nil : word ≠ []
  word_not_blank : ∀ c ∈ word, isBlank c = false
  gap_blank : ∀ c ∈ gap, isBlank c
  /-- There are blanks exactly if there is something behind them. -/
  gap_eq_nil_iff : gap = [] ↔ rest = []
  isTrimmed : IsTrimmed rest

theorem FirstWord.words {word rest : List Char} (h : FirstWord cs word gap rest) :
    words cs = word :: words rest := by
  have hword := words_of_word h.word_ne_nil h.word_not_blank
  by_cases hgap : gap = []
  · rw [h.eq, hgap, h.gap_eq_nil_iff.1 hgap, List.append_nil, List.append_nil, hword]
    rfl
  · rw [h.eq, words_append_gap h.gap_blank hgap, hword]
    rfl

/-- A text that is not empty, and has no blanks around it, starts with a word. -/
theorem IsTrimmed.exists_firstWord (h : IsTrimmed cs) (hne : cs ≠ []) :
    ∃ word gap rest, FirstWord cs word gap rest := by
  obtain ⟨gap, hgap, hbehind⟩ := exists_blanks_append_trimStart (cs.dropWhile (!isBlank ·))
  have hhead := isBlank_of_mem_head?_trimStart (cs.dropWhile (!isBlank ·))
  have hcs : cs = cs.takeWhile (!isBlank ·) ++ gap ++ trimStart (cs.dropWhile (!isBlank ·)) := by
    rw [List.append_assoc, ← hbehind, List.takeWhile_append_dropWhile]
  generalize trimStart (cs.dropWhile (!isBlank ·)) = rest at hcs hbehind hhead
  refine ⟨cs.takeWhile (!isBlank ·), gap, rest, {
    eq := hcs
    word_ne_nil := ?_
    word_not_blank := fun c hc => by simpa using List.mem_takeWhile_imp hc
    gap_blank := hgap
    gap_eq_nil_iff := ⟨fun hnil => ?_, fun hnil => ?_⟩
    isTrimmed := ⟨hhead, fun c hc => h.getLast? c ?_⟩ }⟩
  · obtain ⟨c, cs, rfl⟩ := List.exists_cons_of_ne_nil hne
    rw [List.takeWhile_cons_of_pos (by simp [h.head? c rfl])]
    exact List.cons_ne_nil _ _
  · -- What is behind the word would start with a blank.
    rw [hnil, List.nil_append] at hbehind
    have hblank := List.head?_dropWhile_not (!isBlank ·) cs
    rw [hbehind] at hblank
    cases rest with
    | nil => rfl
    | cons c rest => simp [hhead c rfl] at hblank
  · -- The text would end with a blank.
    by_contra hgapne
    obtain ⟨front, c, rfl⟩ := (List.eq_nil_or_concat gap).resolve_left hgapne
    have hlast := h.getLast? c (by rw [hcs, hnil]; simp)
    rw [hgap c (by simp)] at hlast
    cases hlast
  · rw [hcs, List.getLast?_append]
    exact Option.or_eq_some_iff.2 (.inl hc)

theorem IsTrimmed.eq_nil (h : IsTrimmed cs) (hwords : words cs = []) : cs = [] := by
  by_contra hne
  obtain ⟨word, gap, rest, hfirst⟩ := h.exists_firstWord hne
  rw [hfirst.words] at hwords
  cases hwords

/-- There are blanks behind the first word exactly if there are more words. -/
theorem FirstWord.gap_eq_nil_iff_words {word rest : List Char} (h : FirstWord cs word gap rest) :
    gap = [] ↔ Text.words rest = [] := by
  rw [h.gap_eq_nil_iff]
  exact ⟨fun hnil => by rw [hnil, words_nil], h.isTrimmed.eq_nil⟩

end AutoImport.Text
