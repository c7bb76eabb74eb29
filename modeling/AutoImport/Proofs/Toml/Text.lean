import AutoImport.Toml.Text
import Mathlib.Tactic.SplitIfs

/-!
# Texts that read back

Every text reads back from the style that is chosen for it, whatever characters it has
(`readText_write`). What follows the text does not matter, unless it is one more quote.

* A character between double quotes is written as it is or as an escape, and read from either
  (`escapeChar_cases`).
* Three quotes end a text of several lines. But of more than three in a row the last three do, and
  so it matters how many quotes there are just before. In the text there are never more than two in
  a row, and the reader takes them one by one (`ReadsRuns.append`), or all with the three that end
  the text (`ReadsRuns.close`).
* The styles without escapes are chosen only for texts that need none (`keeps_styleFor`).
-/

namespace AutoImport.Toml

variable {c q : Char} {cs escape rest text : List Char} {run : Nat}

/-! ## Escapes -/

/-- A character is read from what stands after the backslash, and a line does not go on there. -/
structure IsEscape (c : Char) (escape : List Char) : Prop where
  reads : ∀ rest, readEscape (escape ++ rest) = some (c, rest)
  staysOnLine : ∀ rest, continueLine? (escape ++ rest) = none

/-- A line goes on only after a blank or a line break. -/
theorem continueLine?_cons (hblank : ¬isLineBlank c) (hfeed : c ≠ '\n') (hreturn : c ≠ '\r') :
    continueLine? (c :: cs) = none := by
  rw [continueLine?, skipBlanks, List.dropWhile_cons_of_neg hblank, lineBreak?]
  · rfl
  · exact fun _ h => hfeed (List.cons_eq_cons.1 h).1
  · exact fun _ h => hreturn (List.cons_eq_cons.1 h).1

/-- The escape of one letter. -/
theorem isEscape_of_letterFor? {letter : Char} (h : letterFor? c = some letter) :
    IsEscape c [letter] := by
  obtain ⟨⟨letter, c'⟩, hfind, rfl⟩ := Option.map_eq_some_iff.1 h
  obtain rfl : c' = c := by simpa using List.find?_some hfind
  have hmem : (letter, c') ∈ letterEscapes := List.mem_of_find?_eq_some hfind
  have hletters : ∀ p ∈ letterEscapes, p.1 ≠ 'u' ∧ p.1 ≠ 'U' ∧ ofLetter? p.1 = some p.2 ∧
      isLineBlank p.1 = false ∧ p.1 ≠ '\n' ∧ p.1 ≠ '\r' := by decide
  obtain ⟨hu, hU, hof, hblank, hfeed, hreturn⟩ := hletters _ hmem
  refine ⟨fun rest => ?_, fun rest => continueLine?_cons (by simp [hblank]) hfeed hreturn⟩
  rw [List.singleton_append, readEscape.eq_4 _ _ hu hU, hof]
  rfl

/-- The escape of a character by its number, which four digits are enough for. -/
theorem isEscape_fourDigits (hc : c.toNat < 128) : IsEscape c ('u' :: fourDigits c.toNat) where
  reads rest := by
    have hdigits : ∀ n < 128, (fourDigits n).length = 4 ∧
        Text.hexNumber? (fourDigits n) = some n ∧ n.isValidChar := by decide
    obtain ⟨hlength, hnumber, hvalid⟩ := hdigits c.toNat hc
    have htake : (fourDigits c.toNat ++ rest).take 4 = fourDigits c.toNat := by
      rw [← hlength, List.take_left]
    have hdrop : (fourDigits c.toNat ++ rest).drop 4 = rest := by
      rw [← hlength, List.drop_left]
    rw [List.cons_append, readEscape, readNumbered, htake, hdrop, hlength]
    simp [hnumber, Text.charOfNumber?, hvalid]
  staysOnLine rest := continueLine?_cons (by decide) (by decide) (by decide)

/-- Control characters have numbers below 128. -/
theorem toNat_lt_of_not_isPlain (h : ¬isPlain c) : c.toNat < 128 := by
  refine Nat.lt_of_not_le fun hc => h ?_
  have hspace : ' ' ≤ c := Nat.le_trans (by decide) hc
  have hdelete : c ≠ '\x7f' := by
    rintro rfl
    revert hc
    decide
  simp [isPlain, hspace, hdelete]

/-- A character is written as it is, or as an escape. -/
theorem escapeChar_cases (c : Char) :
    (escapeChar c = [c] ∧ isPlain c ∧ c ≠ '"' ∧ c ≠ '\\') ∨
    ∃ escape, escapeChar c = '\\' :: escape ∧ IsEscape c escape := by
  rw [escapeChar]
  split
  · rename_i letter h
    exact .inr ⟨_, rfl, isEscape_of_letterFor? h⟩
  · rename_i h
    split_ifs with hplain
    · refine .inl ⟨rfl, hplain, ?_, ?_⟩ <;>
      · rintro rfl
        revert h
        decide
    · exact .inr ⟨_, rfl, isEscape_fourDigits (toNat_lt_of_not_isPlain hplain)⟩

/-! ## Texts of one line -/

theorem readBasic_escape (h : IsEscape c escape) (rest : List Char) :
    readBasic ('\\' :: (escape ++ rest)) = push c (readBasic rest) := by
  have hread := h.reads rest
  rw [readBasic]
  split
  · rename_i hnone
    rw [hread] at hnone
    cases hnone
  · rename_i hsome
    rw [hread] at hsome
    cases hsome
    rfl

/-- A character between double quotes is read as it is written. -/
theorem readBasic_escapeChar (c : Char) (rest : List Char) :
    readBasic (escapeChar c ++ rest) = push c (readBasic rest) := by
  obtain ⟨hself, hplain, hquote, hbackslash⟩ | ⟨escape, hescape, h⟩ := escapeChar_cases c
  · rw [hself, List.singleton_append, readBasic.eq_4 _ _ hquote hbackslash, if_pos hplain]
  · rw [hescape, List.cons_append, readBasic_escape h]

theorem readBasic_flatMap (cs rest : List Char) :
    readBasic (cs.flatMap escapeChar ++ '"' :: rest) = some (cs, rest) := by
  induction cs with
  | nil => rw [List.flatMap_nil, List.nil_append, readBasic]
  | cons c cs ih =>
    rw [List.flatMap_cons, List.append_assoc, readBasic_escapeChar, ih]
    rfl

theorem readLiteral_append (hcs : ∀ c ∈ cs, isPlain c ∧ c ≠ '\x27') (rest : List Char) :
    readLiteral (cs ++ '\x27' :: rest) = some (cs, rest) := by
  induction cs with
  | nil => rfl
  | cons c cs ih =>
    obtain ⟨⟨hplain, hquote⟩, hcs⟩ := List.forall_mem_cons.1 hcs
    rw [List.cons_append, readLiteral.eq_3 _ _ hquote, if_pos hplain, ih hcs]
    rfl

/-! ## Texts of several lines -/

/-- A reader of a text of several lines ends it with three quotes, and takes a quote that is not the
    first of three as a character. -/
structure ReadsRuns (q : Char) (read : List Char → Option (List Char × List Char)) : Prop where
  triple : ∀ rest, read (q :: q :: q :: rest) = some (closeMulti q rest)
  single : ∀ cs, ¬[q, q] <+: cs → read (q :: cs) = push q (read cs)

namespace ReadsRuns

variable {read : List Char → Option (List Char × List Char)}

/-- Quotes at the end of the text are read with those that end it. -/
theorem close (hread : ReadsRuns q read) (hrun : run ≤ 2) (hrest : rest.head? ≠ some q) :
    read (.replicate run q ++ q :: q :: q :: rest) = some (.replicate run q, rest) := by
  have hclose : closeMulti q (.replicate run q ++ rest) = (.replicate run q, rest) := by
    obtain rfl | rfl | rfl : run = 0 ∨ run = 1 ∨ run = 2 := by omega
    all_goals
      match rest with
      | [] => simp [closeMulti]
      | [c] => simp_all [closeMulti]
      | c :: d :: rest => simp_all [closeMulti]
  have hcommute : .replicate run q ++ q :: q :: q :: rest =
      q :: q :: q :: (.replicate run q ++ rest) := by
    obtain rfl | rfl | rfl : run = 0 ∨ run = 1 ∨ run = 2 := by omega
    all_goals rfl
  rw [hcommute, hread.triple, hclose]

/-- Quotes within the text are read one by one. -/
theorem append (hread : ReadsRuns q read) (hrun : run ≤ 2) (hcs : cs.head? ≠ some q)
    (h : read cs = some (text, rest)) :
    read (.replicate run q ++ cs) = some (.replicate run q ++ text, rest) := by
  have hone : read (q :: cs) = some (q :: text, rest) := by
    rw [hread.single cs fun hprefix => ?_, h]
    · rfl
    · obtain ⟨_, rfl⟩ := hprefix
      exact hcs rfl
  have htwo : read (q :: q :: cs) = some (q :: q :: text, rest) := by
    rw [hread.single (q :: cs) fun hprefix => ?_, hone]
    · rfl
    · obtain ⟨_, heq⟩ := hprefix
      obtain rfl := (List.cons_eq_cons.1 heq).2
      exact hcs rfl
  obtain rfl | rfl | rfl : run = 0 ∨ run = 1 ∨ run = 2 := by omega
  · exact h
  · exact hone
  · exact htwo

end ReadsRuns

theorem readsRuns_readMultiBasic : ReadsRuns '"' readMultiBasic where
  triple rest := by rw [readMultiBasic]
  single cs hcs := by
    rw [readMultiBasic.eq_5]
    · rfl
    · rintro rest - rfl
      exact hcs (List.prefix_append ['"', '"'] rest)
    · exact fun _ h => absurd h (by decide)
    · decide

theorem readsRuns_readMultiLiteral : ReadsRuns '\x27' readMultiLiteral where
  triple rest := rfl
  single cs hcs := by
    rw [readMultiLiteral.eq_4]
    · rfl
    · rintro rest - rfl
      exact hcs (List.prefix_append ['\x27', '\x27'] rest)
    · exact fun _ h => absurd h (by decide)

/-- The characters that stand in a text of several lines as they are, quotes and backslashes
    aside. -/
def IsMultiPlain (c : Char) : Prop :=
  isPlain c ∨ c = '\n'

theorem IsMultiPlain.ne_return (h : IsMultiPlain c) : c ≠ '\r' := by
  rintro rfl
  revert h
  unfold IsMultiPlain
  decide

theorem readMultiBasic_plain (h : IsMultiPlain c) (hquote : c ≠ '"') (hbackslash : c ≠ '\\')
    (cs : List Char) : readMultiBasic (c :: cs) = push c (readMultiBasic cs) := by
  rw [readMultiBasic.eq_5]
  · exact if_pos (by simpa [IsMultiPlain] using h)
  · exact fun _ hc => absurd hc hquote
  · exact fun _ hc => absurd hc h.ne_return
  · exact hbackslash

theorem readMultiLiteral_plain (h : IsMultiPlain c) (hquote : c ≠ '\x27') (cs : List Char) :
    readMultiLiteral (c :: cs) = push c (readMultiLiteral cs) := by
  rw [readMultiLiteral.eq_4]
  · exact if_pos (by simpa [IsMultiPlain] using h)
  · exact fun _ hc => absurd hc hquote
  · exact fun _ hc => absurd hc h.ne_return

theorem readMultiBasic_escape (h : IsEscape c escape) (rest : List Char) :
    readMultiBasic ('\\' :: (escape ++ rest)) = push c (readMultiBasic rest) := by
  have hread := h.reads rest
  have hline := h.staysOnLine rest
  rw [readMultiBasic]
  split
  · rename_i hsome
    rw [hline] at hsome
    cases hsome
  · split
    · rename_i hnone
      rw [hread] at hnone
      cases hnone
    · rename_i hsome
      rw [hread] at hsome
      cases hsome
      rfl

/-- A character other than a quote is read as it is written, and is not written with a quote at the
    start. -/
theorem readMultiBasic_escapeChar (hquote : c ≠ '"') (rest : List Char) :
    readMultiBasic (escapeChar c ++ rest) = push c (readMultiBasic rest) ∧
    (escapeChar c ++ rest).head? ≠ some '"' := by
  obtain ⟨hself, hplain, -, hbackslash⟩ | ⟨escape, hescape, h⟩ := escapeChar_cases c
  · rw [hself, List.singleton_append]
    exact ⟨readMultiBasic_plain (.inl hplain) hquote hbackslash rest, by simpa using hquote⟩
  · rw [hescape, List.cons_append]
    exact ⟨readMultiBasic_escape h rest, by simp⟩

-- The quotes just before are part of the statement, as the reader has not taken them yet: if the
-- text ends with them, then it takes the three that come after them first.
/-- What is written of a text of several lines is read, with the quotes just before. -/
theorem readMultiBasic_escapeMulti (hrun : run ≤ 2) (cs : List Char)
    (hrest : rest.head? ≠ some '"') :
    readMultiBasic (.replicate run '"' ++ (escapeMulti run cs ++ '"' :: '"' :: '"' :: rest)) =
      some (.replicate run '"' ++ cs, rest) := by
  induction cs generalizing run with
  | nil =>
    rw [escapeMulti, List.nil_append, List.append_nil]
    exact readsRuns_readMultiBasic.close hrun hrest
  | cons c cs ih =>
    have hnext := ih (Nat.zero_le 2)
    rw [List.replicate_zero, List.nil_append, List.nil_append] at hnext
    rw [escapeMulti]
    split_ifs with hquote hthird hfeed
    · -- The third quote in a row is escaped.
      subst hquote
      refine readsRuns_readMultiBasic.append hrun (by simp) ?_
      have hescape : IsEscape '"' ['"'] := isEscape_of_letterFor? rfl
      exact (readMultiBasic_escape hescape _).trans (congrArg (push '"') hnext)
    · -- One more quote in a row.
      subst hquote
      have hmore := @ih (run + 1) (by omega)
      rwa [List.replicate_succ', List.append_assoc, List.append_assoc] at hmore
    · subst hfeed
      refine readsRuns_readMultiBasic.append hrun (by simp) ?_
      exact (readMultiBasic_plain (.inr rfl) hquote (by decide) _).trans (congrArg _ hnext)
    · obtain ⟨hread, hhead⟩ := readMultiBasic_escapeChar hquote
        (escapeMulti 0 cs ++ '"' :: '"' :: '"' :: rest)
      rw [List.append_assoc]
      exact readsRuns_readMultiBasic.append hrun hhead (hread.trans (congrArg _ hnext))

/-- A text of several lines without three quotes in a row is read, with the quotes just before. -/
theorem readMultiLiteral_append (hrun : run ≤ 2) (hcs : ∀ c ∈ cs, IsMultiPlain c)
    (htriple : hasTriple '\x27' run cs = false) (hrest : rest.head? ≠ some '\x27') :
    readMultiLiteral (.replicate run '\x27' ++ (cs ++ '\x27' :: '\x27' :: '\x27' :: rest)) =
      some (.replicate run '\x27' ++ cs, rest) := by
  induction cs generalizing run with
  | nil =>
    rw [List.nil_append, List.append_nil]
    exact readsRuns_readMultiLiteral.close hrun hrest
  | cons c cs ih =>
    obtain ⟨hplain, hothers⟩ := List.forall_mem_cons.1 hcs
    rw [hasTriple] at htriple
    split_ifs at htriple with hquote
    · subst hquote
      obtain ⟨hthird, htriple⟩ : run ≠ 2 ∧ hasTriple '\x27' (run + 1) cs = false := by
        simpa using htriple
      have hmore := @ih (run + 1) (by omega) hothers htriple
      rwa [List.replicate_succ', List.append_assoc, List.append_assoc] at hmore
    · have hnext := ih (Nat.zero_le 2) hothers htriple
      rw [List.replicate_zero, List.nil_append, List.nil_append] at hnext
      refine readsRuns_readMultiLiteral.append hrun (by simpa using hquote) ?_
      exact (readMultiLiteral_plain hplain hquote _).trans (congrArg _ hnext)

/-! ## Styles -/

/-- A text reads back from a style that suits it, or has escapes. -/
def Style.Keeps (style : Style) (cs : List Char) : Prop :=
  match style with
  | .basic => True
  | .literal => ∀ c ∈ cs, isPlain c ∧ c ≠ '\x27'
  | .multiBasic => True
  | .multiLiteral => (∀ c ∈ cs, IsMultiPlain c) ∧ hasTriple '\x27' 0 cs = false

/-- A style without escapes is chosen only where none are needed. -/
theorem keeps_styleFor (cs : List Char) : (styleFor cs).Keeps cs := by
  have hsuits (style : Style) (h : style.suits cs) : style.Keeps cs := by
    cases style with
    | basic | multiBasic => trivial
    | literal => simpa [Style.suits, Style.Keeps] using h
    | multiLiteral => simpa [Style.suits, Style.Keeps, IsMultiPlain] using h
  rw [styleFor]
  cases hfind : [Style.basic, .literal, .multiBasic, .multiLiteral].find? (Style.suits · cs) with
  | some style => exact hsuits style (List.find?_some (p := (Style.suits · cs)) hfind)
  | none =>
    rw [Option.getD_none]
    split <;> trivial

/-- What follows a text is not one more quote of any kind. -/
def StopsText (rest : List Char) : Prop :=
  rest.head? ≠ some '"' ∧ rest.head? ≠ some '\x27'

/-- A text of one line that has no quote at its start does not start like one of several lines. -/
theorem not_prefix_append (hcs : cs.head? ≠ some q) (hrest : rest.head? ≠ some q) :
    ¬[q, q] <+: cs ++ q :: rest := by
  rintro ⟨_, heq⟩
  match cs with
  | [] =>
    obtain rfl := (List.cons_eq_cons.1 heq).2
    exact hrest rfl
  | c :: cs =>
    obtain rfl := (List.cons_eq_cons.1 heq).1
    exact hcs rfl

theorem readText_basic (h : ¬['"', '"'] <+: cs) (hread : readBasic cs = some (text, rest)) :
    readText ('"' :: cs) = some (.ofList text, rest) := by
  rw [readText]
  · rw [hread]
    rfl
  · rintro cs rfl
    exact h (List.prefix_append ['"', '"'] cs)

theorem readText_literal (h : ¬['\x27', '\x27'] <+: cs)
    (hread : readLiteral cs = some (text, rest)) :
    readText ('\x27' :: cs) = some (.ofList text, rest) := by
  rw [readText]
  · rw [hread]
    rfl
  · rintro cs rfl
    exact h (List.prefix_append ['\x27', '\x27'] cs)

/-- What is written between double quotes does not start with one. -/
theorem head?_flatMap_escapeChar (cs : List Char) :
    (cs.flatMap escapeChar).head? ≠ some '"' := by
  cases cs with
  | nil => simp
  | cons c cs =>
    rw [List.flatMap_cons]
    obtain ⟨hself, -, hquote, -⟩ | ⟨escape, hescape, -⟩ := escapeChar_cases c
    · simpa [hself] using hquote
    · simp [hescape]

/-- A text reads back from the style that it is written in. -/
theorem readText_write {style : Style} (h : style.Keeps cs) (hrest : StopsText rest) :
    readText (style.write cs ++ rest) = some (.ofList cs, rest) := by
  obtain ⟨hquote, happostrophe⟩ := hrest
  cases style with
  | basic =>
    have htext : Style.basic.write cs ++ rest = '"' :: (cs.flatMap escapeChar ++ '"' :: rest) := by
      simp [Style.write]
    rw [htext]
    exact readText_basic (not_prefix_append (head?_flatMap_escapeChar cs) hquote)
      (readBasic_flatMap cs rest)
  | literal =>
    have htext : Style.literal.write cs ++ rest = '\x27' :: (cs ++ '\x27' :: rest) := by
      simp [Style.write]
    have hhead : cs.head? ≠ some '\x27' := fun hhead => (h _ (List.mem_of_head? hhead)).2 rfl
    rw [htext]
    exact readText_literal (not_prefix_append hhead happostrophe) (readLiteral_append h rest)
  | multiBasic =>
    have htext : Style.multiBasic.write cs ++ rest =
        '"' :: '"' :: '"' :: '\n' :: (escapeMulti 0 cs ++ '"' :: '"' :: '"' :: rest) := by
      simp [Style.write]
    have hread := readMultiBasic_escapeMulti (Nat.zero_le 2) cs hquote
    rw [List.replicate_zero, List.nil_append, List.nil_append] at hread
    rw [htext]
    change (readMultiBasic (escapeMulti 0 cs ++ _)).map _ = _
    rw [hread]
    rfl
  | multiLiteral =>
    have htext : Style.multiLiteral.write cs ++ rest =
        '\x27' :: '\x27' :: '\x27' :: '\n' :: (cs ++ '\x27' :: '\x27' :: '\x27' :: rest) := by
      simp [Style.write]
    have hread := readMultiLiteral_append (Nat.zero_le 2) h.1 h.2 happostrophe
    rw [List.replicate_zero, List.nil_append, List.nil_append] at hread
    rw [htext]
    change (readMultiLiteral (cs ++ _)).map _ = _
    rw [hread]
    rfl

/-- A text reads back as it is written. -/
theorem readText_writeText (text : String) (hrest : StopsText rest) :
    readText ((writeText text).toList ++ rest) = some (text, rest) := by
  rw [writeText, String.toList_ofList, readText_write (keeps_styleFor text.toList) hrest,
    String.ofList_toList]

/-- A text that is written starts with a quote. -/
theorem exists_writeText_eq_cons (text : String) :
    ∃ q cs, (writeText text).toList = q :: cs ∧ (q = '"' ∨ q = '\x27') := by
  rw [writeText, String.toList_ofList]
  cases styleFor text.toList with
  | basic | multiBasic => exact ⟨_, _, rfl, .inl rfl⟩
  | literal | multiLiteral => exact ⟨_, _, rfl, .inr rfl⟩

end AutoImport.Toml
