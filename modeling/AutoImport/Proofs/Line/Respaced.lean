import AutoImport.Proofs.Line.Grammar

/-!
# Lines with other blanks

Four places look at the blanks of a line: the blanks around it are taken away, the patterns of the
two statements take runs of blanks, and each segment of a list of names is divided into words. They
mean the same by a blank, and none of them counts blanks. So a line can be written with other blanks
(`Respaced`): more or fewer of them, of whatever kind, as long as there are some where there were
some before, and none where there were none.

* `Respaced.of_words_eq`: texts that have the same words, and no blanks around them, are written
  like this;
* `Respaced.exists_word`, `Respaced.exists_gap`: whatever stands at the front of a text, a part
  without blanks or a run of them, stands at the front of the other text;
* `Respaced.derivesLine`: so a derivation can be carried over, part by part, and stands for the same
  bindings.

The parts of a derivation alternate. A run of blanks is one part of it, never two, as what is before
it and behind it is not blank; this is why each run may be replaced on its own.
-/

namespace AutoImport

open Text

variable {cs ds gap : List Char}

/-- Two texts of the same characters, in the same order, but for the blanks in them. There are
    blanks in the same places, however many there are in each. -/
inductive Respaced : List Char → List Char → Prop
  | nil : Respaced [] []
  /-- A character that is not blank is kept. -/
  | keep {c cs ds} : isBlank c = false → Respaced cs ds → Respaced (c :: cs) (c :: ds)
  /-- A run of blanks, from its first to its last, is replaced by another one. -/
  | gap {gap gap' cs ds} :
    Blanks gap → gap ≠ [] → Blanks gap' → gap' ≠ [] → (∀ c ∈ cs.head?, isBlank c = false) →
    Respaced cs ds → Respaced (gap ++ cs) (gap' ++ ds)

namespace Respaced

theorem append_word {word : List Char} (hword : ∀ c ∈ word, isBlank c = false)
    (h : Respaced cs ds) : Respaced (word ++ cs) (word ++ ds) := by
  induction word with
  | nil => exact h
  | cons c word ih =>
    obtain ⟨hc, hword⟩ := List.forall_mem_cons.1 hword
    exact .keep hc (ih hword)

/-- Texts with the same words, and without blanks around them, differ in nothing but blanks. -/
theorem of_words_eq {ws : List (List Char)} (hcs : IsTrimmed cs) (hds : IsTrimmed ds)
    (h : words cs = ws) (h' : words ds = ws) : Respaced cs ds := by
  -- The induction is on the words, which both texts have.
  induction ws generalizing cs ds with
  | nil =>
    rw [hcs.eq_nil h, hds.eq_nil h']
    exact .nil
  | cons w ws ih =>
    obtain ⟨word, gap, rest, hfirst⟩ := hcs.exists_firstWord (by rintro rfl; cases h)
    obtain ⟨word', gap', rest', hfirst'⟩ := hds.exists_firstWord (by rintro rfl; cases h')
    obtain ⟨rfl, hrest⟩ := List.cons_eq_cons.1 (hfirst.words.symm.trans h)
    obtain ⟨rfl, hrest'⟩ := List.cons_eq_cons.1 (hfirst'.words.symm.trans h')
    have hrespaced := ih hfirst.isTrimmed hfirst'.isTrimmed hrest hrest'
    -- Both texts go on with blanks if there are more words, and with nothing else.
    have hgaps : gap = [] ↔ gap' = [] := by
      rw [hfirst.gap_eq_nil_iff_words, hfirst'.gap_eq_nil_iff_words, hrest, hrest']
    rw [hfirst.eq, hfirst'.eq, List.append_assoc, List.append_assoc]
    refine append_word hfirst.word_not_blank ?_
    by_cases hgap : gap = []
    · rwa [hgap, hgaps.1 hgap]
    · exact .gap hfirst.gap_blank hgap hfirst'.gap_blank (mt hgaps.2 hgap) hfirst.isTrimmed.head?
        hrespaced

/-! ## What stands at the front -/

/-- A text that does not start with a blank keeps its first character. -/
theorem head?_eq (h : Respaced cs ds) (hhead : ∀ c ∈ cs.head?, isBlank c = false) :
    cs.head? = ds.head? := by
  cases h with
  | nil => rfl
  | keep => rfl
  | @gap gap _ _ _ hgap hne =>
    obtain ⟨c, gap, rfl⟩ := List.exists_cons_of_ne_nil hne
    have hc := hhead c rfl
    rw [hgap c List.mem_cons_self] at hc
    cases hc

theorem eq_nil (h : Respaced [] ds) : ds = [] :=
  List.head?_eq_none_iff.1 (h.head?_eq (by simp)).symm

/-- A part without blanks is found again as it is. -/
theorem exists_word {word : List Char} (hword : ∀ c ∈ word, isBlank c = false)
    (h : Respaced (word ++ cs) ds) : ∃ ds', ds = word ++ ds' ∧ Respaced cs ds' := by
  induction word generalizing ds with
  | nil => exact ⟨ds, rfl, h⟩
  | cons c word ih =>
    obtain ⟨hc, hword⟩ := List.forall_mem_cons.1 hword
    generalize htext : c :: word ++ cs = text at h
    cases h with
    | nil => cases htext
    | keep _ h =>
      obtain ⟨rfl, rfl⟩ := List.cons_eq_cons.1 htext
      obtain ⟨ds', rfl, hrest⟩ := ih hword h
      exact ⟨ds', rfl, hrest⟩
    | @gap gap _ _ _ hgap hne =>
      obtain ⟨d, gap, rfl⟩ := List.exists_cons_of_ne_nil hne
      obtain ⟨rfl, -⟩ := List.cons_eq_cons.1 htext
      rw [hgap c List.mem_cons_self] at hc
      cases hc

/-- A run of blanks is found again as a run of blanks, and no blanks as none. -/
theorem exists_gap (hgap : Blanks gap) (hcs : ∀ c ∈ cs.head?, isBlank c = false)
    (h : Respaced (gap ++ cs) ds) :
    ∃ gap' ds', ds = gap' ++ ds' ∧ Blanks gap' ∧ (gap ≠ [] → gap' ≠ []) ∧ Respaced cs ds' := by
  by_cases hnil : gap = []
  · subst hnil
    exact ⟨[], ds, rfl, blanks_nil, id, h⟩
  · generalize htext : gap ++ cs = text at h
    cases h with
    | nil => exact absurd (List.append_eq_nil_iff.1 htext).1 hnil
    | keep hc =>
      obtain ⟨d, gap, rfl⟩ := List.exists_cons_of_ne_nil hnil
      obtain ⟨rfl, -⟩ := List.cons_eq_cons.1 htext
      rw [hgap d List.mem_cons_self] at hc
      cases hc
    | @gap gap₁ gap' cs₁ ds' hgap₁ _ hgap' hne' hcs₁ h =>
      -- The two runs end where the first character is that is not blank.
      obtain ⟨rfl, rfl⟩ := append_inj_of_forall htext hgap hgap₁ hcs hcs₁
      exact ⟨gap', ds', rfl, hgap', fun _ => hne', h⟩

/-! ## Derivations -/

variable {module : String} {text rest : List Char} {b : Binding} {bs : List Binding}

/-- The text of a name is found again as a text of the same name. -/
theorem exists_name (hb : DerivesName module text b) (h : Respaced (text ++ rest) ds) :
    ∃ text' rest', ds = text' ++ rest' ∧ DerivesName module text' b ∧ Respaced rest rest' := by
  cases hb with
  | plain hname =>
    obtain ⟨rest', rfl, hrest⟩ := h.exists_word (isBlank_of_mem_identifier hname)
    exact ⟨text, rest', rfl, .plain hname, hrest⟩
  | @renamed name before after localName hname hlocal hbefore hbefore' hafter hafter' =>
    simp only [List.append_assoc] at h
    have hlocal' := isBlank_of_mem_identifier hlocal
    obtain ⟨_, rfl, h₁⟩ := h.exists_word (isBlank_of_mem_identifier hname)
    obtain ⟨gap, _, rfl, hgap, hgapne, h₂⟩ := h₁.exists_gap hbefore (by simp [isBlank])
    obtain ⟨_, rfl, h₃⟩ := h₂.exists_word (by simp [isBlank])
    obtain ⟨gap', _, rfl, hgap', hgapne', h₄⟩ := h₃.exists_gap hafter
      (isBlank_of_mem_head?_append (ne_nil_of_isIdentifier hlocal) hlocal' rest)
    obtain ⟨rest', rfl, hrest⟩ := h₄.exists_word hlocal'
    refine ⟨_, rest', ?_, .renamed hname hlocal hgap (hgapne hbefore') hgap' (hgapne' hafter'),
      hrest⟩
    simp only [List.append_assoc]

/-- A list of names is found again as a list of the same names. -/
theorem derivesNames (hbs : DerivesNames module text bs) (h : Respaced text ds) :
    DerivesNames module ds bs := by
  induction hbs generalizing ds with
  | @last text b hb =>
    rw [← List.append_nil text] at h
    obtain ⟨text', _, rfl, hb', hrest⟩ := exists_name hb h
    rw [hrest.eq_nil, List.append_nil]
    exact .last hb'
  | @more text b before after rest bs hb hbefore hafter hrest ih =>
    simp only [List.append_assoc] at h
    obtain ⟨text', _, rfl, hb', h₁⟩ := exists_name hb h
    obtain ⟨gap, _, rfl, hgap, -, h₂⟩ := h₁.exists_gap hbefore (by simp [isBlank])
    obtain ⟨_, rfl, h₃⟩ := h₂.exists_word (by simp [isBlank])
    obtain ⟨gap', rest', rfl, hgap', -, h₄⟩ := h₃.exists_gap hafter hrest.isBlank_of_mem_head?
    have hmore := DerivesNames.more hb' hgap hgap' (ih h₄)
    simpa only [List.append_assoc] using hmore

/-- A line with other blanks stands for the same bindings. -/
theorem derivesLine (hline : DerivesLine cs bs) (h : Respaced cs ds) : DerivesLine ds bs := by
  cases hline with
  | @importStatement blanks names _ hblanks hnames =>
    simp only [List.append_assoc] at h
    obtain ⟨_, rfl, h₁⟩ := h.exists_word (by simp [isBlank])
    obtain ⟨blanks', names', rfl, hblanks', -, h₂⟩ :=
      h₁.exists_gap hblanks hnames.isBlank_of_mem_head?
    have hderives := DerivesLine.importStatement hblanks' (derivesNames hnames h₂)
    simpa only [List.append_assoc] using hderives
  | @fromStatement before module between after names _ hbefore hmodule hbetween hne hafter hnames =>
    simp only [List.append_assoc] at h
    obtain ⟨_, rfl, h₁⟩ := h.exists_word (by simp [isBlank])
    obtain ⟨before', _, rfl, hbefore', -, h₂⟩ :=
      h₁.exists_gap hbefore (isBlank_of_mem_head? hmodule _)
    obtain ⟨_, rfl, h₃⟩ := h₂.exists_word (isBlank_of_mem_module hmodule)
    obtain ⟨between', _, rfl, hbetween', hne', h₄⟩ := h₃.exists_gap hbetween (by simp [isBlank])
    obtain ⟨_, rfl, h₅⟩ := h₄.exists_word (by simp [isBlank])
    obtain ⟨after', names', rfl, hafter', -, h₆⟩ :=
      h₅.exists_gap hafter hnames.isBlank_of_mem_head?
    have hderives := DerivesLine.fromStatement hbefore' hmodule hbetween' (hne' hne) hafter'
      (derivesNames hnames h₆)
    simpa only [List.append_assoc] using hderives

end Respaced

end AutoImport
