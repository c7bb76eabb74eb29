import AutoImport.Proofs.Line.Segments
import AutoImport.Proofs.Text.Pattern

/-!
# The reader of lines and the grammar

A line is read in two steps that know little of each other: a pattern says whether it is a statement
and which part of it is the list of names, and the list is then divided at its commas and blanks.
The grammar is a relation (`DerivesLine`). Here the three are brought together:

* each pattern matches what its part of the grammar derives (`matches_namesPattern`,
  `matches_importPattern`, `matches_fromPattern`), and no line matches both patterns
  (`not_isSome_groups?_both`);
* a line that derives is read, and the names that are read are those of the derivation, with nothing
  skipped (`readLine?_of_derives`);
* a line that is read derives, with the bindings that are read (`derives_of_readLine?`).

Keywords are identifiers too, so a text may seem to be readable in several ways, as `from . import
a` or `importas as as`; that all derivations of a line stand for the same bindings rests on the
blanks: they separate the words, and they are no characters of words.
-/

namespace AutoImport

open Text Text.Pattern

variable {cs : List Char} {kept : List (List Char)} {module : String}

/-! ## Words and blanks -/

theorem matches_identifierPattern :
    identifierPattern.Matches cs kept ↔ isIdentifier cs ∧ kept = [] := by
  rw [identifierPattern, matches_one_run]
  refine and_congr_left fun _ => ?_
  cases cs with
  | nil => simp [isIdentifier]
  | cons c cs => simp [isIdentifier]

theorem matches_modulePattern : modulePattern.Matches cs kept ↔ isModule cs ∧ kept = [] := by
  rw [modulePattern, matches_one_run]
  refine and_congr_left fun _ => ?_
  cases cs with
  | nil => simp [isModule]
  | cons c cs => simp [isModule]

theorem matches_blanksPattern : blanksPattern.Matches cs kept ↔ Blanks cs ∧ kept = [] :=
  matches_run

theorem matches_gapPattern :
    gapPattern.Matches cs kept ↔ (Blanks cs ∧ cs ≠ []) ∧ kept = [] := by
  rw [gapPattern, matches_one_run]
  refine and_congr_left fun _ => ?_
  cases cs with
  | nil => simp
  | cons c cs => simp [Blanks]

/-! ## Names -/

/-- One name is matched exactly if it derives. -/
theorem matches_namePattern (module : String) :
    namePattern.Matches cs kept ↔ (∃ b, DerivesName module cs b) ∧ kept = [] := by
  rw [namePattern, matches_seq_silent matches_identifierPattern]
  simp only [matches_option, matches_seq_silent matches_gapPattern,
    matches_seq_silent matches_literal, matches_identifierPattern]
  constructor
  · rintro ⟨name, _, hname, ⟨before, _, ⟨hb, hb'⟩, ⟨_, _, rfl, ⟨after, localName, ⟨ha, ha'⟩,
      ⟨hlocal, rfl⟩, rfl⟩, rfl⟩, rfl⟩ | ⟨rfl, rfl⟩, rfl⟩
    · have hderives : DerivesName module _ ⟨module, .ofList name, .ofList localName⟩ :=
        .renamed hname hlocal hb hb' ha ha'
      exact ⟨⟨_, by simpa using hderives⟩, rfl⟩
    · exact ⟨⟨_, by simpa using DerivesName.plain hname⟩, rfl⟩
  · rintro ⟨⟨b, h⟩, rfl⟩
    cases h with
    | plain hname => exact ⟨cs, [], hname, .inr ⟨rfl, rfl⟩, by simp⟩
    | @renamed name before after localName hname hlocal hb hb' ha ha' =>
      exact ⟨name, _, hname, .inl ⟨before, _, ⟨hb, hb'⟩, ⟨_, _, rfl, ⟨after, localName, ⟨ha, ha'⟩,
        ⟨hlocal, rfl⟩, rfl⟩, rfl⟩, rfl⟩, by simp⟩

/-- A further name is matched exactly if it is a comma among blanks and a name that derives. -/
theorem matches_furtherNamePattern (module : String) : furtherNamePattern.Matches cs kept ↔
    (∃ before after text b, Blanks before ∧ Blanks after ∧ DerivesName module text b ∧
      cs = before ++ [','] ++ after ++ text) ∧ kept = [] := by
  rw [furtherNamePattern, matches_seq_silent matches_blanksPattern]
  simp only [matches_seq_silent matches_literal, matches_seq_silent matches_blanksPattern,
    matches_namePattern module]
  constructor
  · rintro ⟨before, _, hb, ⟨_, _, rfl, ⟨after, text, ha, ⟨⟨b, h⟩, rfl⟩, rfl⟩, rfl⟩, rfl⟩
    exact ⟨⟨before, after, text, b, hb, ha, h, by simp⟩, rfl⟩
  · rintro ⟨⟨before, after, text, b, hb, ha, h, rfl⟩, rfl⟩
    exact ⟨before, _, hb, ⟨_, _, rfl, ⟨after, text, ha, ⟨⟨b, h⟩, rfl⟩, rfl⟩, rfl⟩, by simp⟩

/-- A name and a repetition of further names are a list of names. -/
theorem derivesNames_append {head tail : List Char} {b : Binding}
    (hhead : DerivesName module head b) (htail : (many furtherNamePattern).Matches tail kept) :
    (∃ bs, DerivesNames module (head ++ tail) bs) ∧ kept = [] := by
  -- The induction is on the repetition; the name before it changes from step to step.
  refine Matches.many_induction (motive := fun tail kept => ∀ {head b}, DerivesName module head b →
    (∃ bs, DerivesNames module (head ++ tail) bs) ∧ kept = []) ?_ ?_ htail hhead
  · intro head b hhead
    exact ⟨⟨[b], by simpa using DerivesNames.last hhead⟩, rfl⟩
  · intro front keptFront back keptBack hfront _ ih head b hhead
    obtain ⟨⟨before, after, text, b', hb, ha, h, rfl⟩, rfl⟩ :=
      (matches_furtherNamePattern module).1 hfront
    obtain ⟨⟨bs, hbs⟩, rfl⟩ := ih h
    exact ⟨⟨b :: bs, by simpa using DerivesNames.more hhead hb ha hbs⟩, rfl⟩

/-- A list of names is matched exactly if it derives. -/
theorem matches_namesPattern (module : String) :
    namesPattern.Matches cs kept ↔ (∃ bs, DerivesNames module cs bs) ∧ kept = [] := by
  rw [namesPattern, matches_seq]
  constructor
  · rintro ⟨head, tail, _, _, hhead, htail, rfl, rfl⟩
    obtain ⟨⟨b, hb⟩, rfl⟩ := (matches_namePattern module).1 hhead
    obtain ⟨hbs, rfl⟩ := derivesNames_append hb htail
    exact ⟨hbs, rfl⟩
  · rintro ⟨⟨bs, h⟩, rfl⟩
    induction h with
    | @last text b hb =>
      exact ⟨text, [], [], [], (matches_namePattern module).2 ⟨⟨b, hb⟩, rfl⟩, .stop, by simp, rfl⟩
    | @more text b before after rest bs hb hbefore hafter _ ih =>
      obtain ⟨head, tail, keptHead, keptTail, hhead, htail, rfl, hkept⟩ := ih
      obtain ⟨⟨b', hb'⟩, rfl⟩ := (matches_namePattern module).1 hhead
      have hfront : furtherNamePattern.Matches (before ++ [','] ++ after ++ head) [] :=
        (matches_furtherNamePattern module).2
          ⟨⟨before, after, head, b', hbefore, hafter, hb', rfl⟩, rfl⟩
      refine ⟨text, before ++ [','] ++ after ++ head ++ tail, [], _,
        (matches_namePattern module).2 ⟨⟨b, hb⟩, rfl⟩, .again hfront (by simp) htail, by simp, ?_⟩
      simpa using hkept

/-! ## Statements -/

/-- An `import` statement is matched exactly if it derives, and its names are kept. -/
theorem matches_importPattern : importPattern.Matches cs kept ↔
    ∃ blanks names bs, Blanks blanks ∧ DerivesNames "" names bs ∧
      cs = "import".toList ++ blanks ++ names ∧ kept = [names] := by
  rw [importPattern, matches_seq_silent matches_literal]
  simp only [matches_seq_silent matches_blanksPattern, matches_group, matches_namesPattern ""]
  constructor
  · rintro ⟨_, _, rfl, ⟨blanks, names, hblanks, ⟨_, ⟨⟨bs, h⟩, rfl⟩, rfl⟩, rfl⟩, rfl⟩
    exact ⟨blanks, names, bs, hblanks, h, by simp, rfl⟩
  · rintro ⟨blanks, names, bs, hblanks, h, rfl, rfl⟩
    exact ⟨_, _, rfl, ⟨blanks, names, hblanks, ⟨_, ⟨⟨bs, h⟩, rfl⟩, rfl⟩, rfl⟩, by simp⟩

/-- A text as the parts of a `from` statement. -/
structure FromParts (cs before module between after names : List Char) : Prop where
  before_blanks : Blanks before
  isModule : isModule module
  between_blanks : Blanks between
  between_ne_nil : between ≠ []
  after_blanks : Blanks after
  eq : cs = "from".toList ++ before ++ module ++ between ++ "import".toList ++ after ++ names

/-- A `from` statement is matched exactly if it derives, and its module and names are kept. -/
theorem matches_fromPattern : fromPattern.Matches cs kept ↔
    ∃ before module between after names bs, FromParts cs before module between after names ∧
      DerivesNames (.ofList module) names bs ∧ kept = [module, names] := by
  rw [fromPattern, matches_seq_silent matches_literal]
  simp only [matches_seq_silent matches_literal, matches_seq_silent matches_blanksPattern,
    matches_seq_silent matches_gapPattern, matches_seq, matches_group, matches_modulePattern]
  constructor
  · rintro ⟨_, _, rfl, ⟨before, _, hbefore, ⟨module, _, _, _, ⟨_, ⟨hmodule, rfl⟩, rfl⟩,
      ⟨between, _, ⟨hbetween, hne⟩, ⟨_, _, rfl, ⟨after, names, hafter, ⟨_, hnames, rfl⟩, rfl⟩, rfl⟩,
      rfl⟩, rfl, rfl⟩, rfl⟩, rfl⟩
    obtain ⟨⟨bs, h⟩, rfl⟩ := (matches_namesPattern (.ofList module)).1 hnames
    exact ⟨before, module, between, after, names, bs,
      ⟨hbefore, hmodule, hbetween, hne, hafter, by simp⟩, h, rfl⟩
  · rintro ⟨before, module, between, after, names, bs,
      ⟨hbefore, hmodule, hbetween, hne, hafter, rfl⟩, h, rfl⟩
    have hnames : namesPattern.Matches names [] := (matches_namesPattern _).2 ⟨⟨bs, h⟩, rfl⟩
    exact ⟨_, _, rfl, ⟨before, _, hbefore, ⟨module, _, _, _, ⟨_, ⟨hmodule, rfl⟩, rfl⟩,
      ⟨between, _, ⟨hbetween, hne⟩, ⟨_, _, rfl, ⟨after, names, hafter, ⟨_, hnames, rfl⟩, rfl⟩, rfl⟩,
      rfl⟩, rfl, rfl⟩, rfl⟩, by simp⟩

/-- What an `import` statement matches and what a `from` statement matches start with different
    letters, so that it does not matter which is tried first. -/
theorem not_isSome_groups?_both :
    ¬((importPattern.groups? cs).isSome ∧ (fromPattern.groups? cs).isSome) := by
  rintro ⟨hi, hf⟩
  obtain ⟨_, hi⟩ := isSome_groups?_iff.1 hi
  obtain ⟨_, hf⟩ := isSome_groups?_iff.1 hf
  obtain ⟨_, _, _, _, _, hi, _⟩ := matches_importPattern.1 hi
  obtain ⟨_, _, _, _, _, _, hf, _⟩ := matches_fromPattern.1 hf
  have heq := hi.symm.trans hf.eq
  simp at heq

/-! ## Where the parts of a statement end -/

/-- A text is divided in one way only into a part all of whose characters have a property and a rest
    that does not start with such a character. -/
theorem append_inj_of_forall {p : Char → Bool} {front front' back back' : List Char}
    (h : front ++ back = front' ++ back') (hf : ∀ c ∈ front, p c) (hf' : ∀ c ∈ front', p c)
    (hb : ∀ c ∈ back.head?, p c = false) (hb' : ∀ c ∈ back'.head?, p c = false) :
    front = front' ∧ back = back' := by
  have takeWhile_eq : ∀ {front back : List Char}, (∀ c ∈ front, p c) →
      (∀ c ∈ back.head?, p c = false) → (front ++ back).takeWhile p = front := by
    intro front back hf hb
    rw [List.takeWhile_append_of_pos hf]
    cases back with
    | nil => simp
    | cons c back => simp [hb c rfl]
  have hfront : front = front' := by
    rw [← takeWhile_eq hf hb, h, takeWhile_eq hf' hb']
  subst hfront
  exact ⟨rfl, List.append_cancel_left h⟩

/-- A module does not start with a blank. -/
theorem isBlank_of_mem_head? {module : List Char} (h : isModule module) (rest : List Char) :
    ∀ c ∈ (module ++ rest).head?, isBlank c = false :=
  isBlank_of_mem_head?_append (ne_nil_of_isModule h) (isBlank_of_mem_module h) rest

/-- Blanks do not start with a character of modules. -/
theorem isModuleChar_of_mem_head? {gap : List Char} (h : Blanks gap) (hne : gap ≠ [])
    (rest : List Char) : ∀ c ∈ (gap ++ rest).head?, isModuleChar c = false := by
  intro c hc
  obtain ⟨d, ds, rfl⟩ := List.exists_cons_of_ne_nil hne
  obtain rfl : d = c := by simpa using hc
  refine Bool.eq_false_iff.2 fun hd => ?_
  have := h d List.mem_cons_self
  rw [isBlank_of_isModuleChar hd] at this
  cases this

/-- A text has the parts of a `from` statement in one way only, up to the blanks before the
    names. -/
theorem FromParts.unique {before module between after names : List Char}
    {before' module' between' after' names' : List Char}
    (h : FromParts cs before module between after names)
    (h' : FromParts cs before' module' between' after' names') :
    module = module' ∧ after ++ names = after' ++ names' := by
  have heq := h.eq.symm.trans h'.eq
  simp only [List.append_assoc] at heq
  -- The blanks end where the module starts, the module where the next blanks start, and those
  -- where `import` starts.
  obtain ⟨-, hmodule⟩ := append_inj_of_forall (List.append_cancel_left heq) h.before_blanks
    h'.before_blanks (isBlank_of_mem_head? h.isModule _) (isBlank_of_mem_head? h'.isModule _)
  obtain ⟨rfl, hbetween⟩ := append_inj_of_forall hmodule
    (fun _ hc => isModuleChar_of_mem h.isModule hc) (fun _ hc => isModuleChar_of_mem h'.isModule hc)
    (isModuleChar_of_mem_head? h.between_blanks h.between_ne_nil _)
    (isModuleChar_of_mem_head? h'.between_blanks h'.between_ne_nil _)
  have hkeyword : ∀ rest : List Char, ∀ c ∈ ("import".toList ++ rest).head?, isBlank c = false := by
    intro rest c hc
    obtain rfl : 'i' = c := by simpa using hc
    decide
  obtain ⟨-, himport⟩ := append_inj_of_forall hbetween h.between_blanks h'.between_blanks
    (hkeyword _) (hkeyword _)
  exact ⟨rfl, List.append_cancel_left himport⟩

/-! ## Lines -/

variable {line : String} {bs bs' : List Binding} {names : Names}

/-- A line that derives is read, and binds what its derivation stands for, with nothing skipped. -/
theorem readLine?_of_derives (h : DerivesLine line.toList bs) :
    ∃ names, readLine? line = some names ∧ names.drain = (bs, []) := by
  generalize hcs : line.toList = cs at h
  cases h with
  | @importStatement blanks text bs hblanks h =>
    have hmatch : (importPattern.groups? line.toList).isSome :=
      isSome_groups?_iff.2 ⟨_, matches_importPattern.2 ⟨_, _, _, hblanks, h, hcs, rfl⟩⟩
    obtain ⟨kept, hkept⟩ := Option.isSome_iff_exists.1 hmatch
    -- The search may have found another match, but its names have the same bindings.
    obtain ⟨blanks', text', bs', hblanks', h', hcs', rfl⟩ :=
      matches_importPattern.1 (matches_of_groups? hkept)
    have heq : blanks ++ text = blanks' ++ text' := by
      have := hcs.symm.trans hcs'
      simpa using this
    obtain rfl := h.unique h' hblanks hblanks' heq
    exact ⟨_, by rw [readLine?, hkept]; rfl, by rw [Names.drain_eq, h'.bindings, h'.skipped]⟩
  | @fromStatement before module between after text bs hbefore hmodule hbetween hne hafter h =>
    have hparts : FromParts line.toList before module between after text :=
      ⟨hbefore, hmodule, hbetween, hne, hafter, hcs⟩
    have hmatch : (fromPattern.groups? line.toList).isSome :=
      isSome_groups?_iff.2 ⟨_, matches_fromPattern.2 ⟨_, _, _, _, _, _, hparts, h, rfl⟩⟩
    have hnot : importPattern.groups? line.toList = none :=
      Option.not_isSome_iff_eq_none.1 fun hi => not_isSome_groups?_both ⟨hi, hmatch⟩
    obtain ⟨kept, hkept⟩ := Option.isSome_iff_exists.1 hmatch
    obtain ⟨before', module', between', after', text', bs', hparts', h', rfl⟩ :=
      matches_fromPattern.1 (matches_of_groups? hkept)
    obtain ⟨rfl, heq⟩ := hparts.unique hparts'
    obtain rfl := h.unique h' hparts.after_blanks hparts'.after_blanks heq
    exact ⟨_, by rw [readLine?, hnot, hkept]; rfl, by rw [Names.drain_eq, h'.bindings, h'.skipped]⟩

/-- A line that is read derives, with the bindings that are read. -/
theorem derives_of_readLine? (h : readLine? line = some names) :
    DerivesLine line.toList names.bindings := by
  rw [readLine?] at h
  split at h
  · rename_i kept hkept
    obtain ⟨blanks, text, bs, hblanks, hbs, hcs, rfl⟩ :=
      matches_importPattern.1 (matches_of_groups? hkept)
    cases h
    rw [hcs, hbs.bindings]
    exact .importStatement hblanks hbs
  · obtain ⟨kept, hkept, h⟩ := Option.bind_eq_some_iff.1 h
    obtain ⟨before, module, between, after, text, bs, hparts, hbs, rfl⟩ :=
      matches_fromPattern.1 (matches_of_groups? hkept)
    cases h
    rw [hparts.eq, hbs.bindings]
    exact .fromStatement hparts.before_blanks hparts.isModule hparts.between_blanks
      hparts.between_ne_nil hparts.after_blanks hbs

/-! ## What is read from a line -/

theorem DerivesNames.ne_nil {text : List Char} (h : DerivesNames module text bs) : bs ≠ [] := by
  cases h <;> exact List.cons_ne_nil _ _

theorem DerivesLine.ne_nil (h : DerivesLine cs bs) : bs ≠ [] := by
  cases h with
  | importStatement _ h => exact h.ne_nil
  | fromStatement _ _ _ _ _ h => exact h.ne_nil

/-- A line that is read binds at least one name. -/
theorem bindings_ne_nil_of_readLine? (h : readLine? line = some names) : names.bindings ≠ [] :=
  (derives_of_readLine? h).ne_nil

/-- A line that is read has no segment to skip. -/
theorem skipped_of_readLine? (h : readLine? line = some names) : names.skipped = [] := by
  obtain ⟨names', h', hdrain⟩ := readLine?_of_derives (derives_of_readLine? h)
  obtain rfl := Option.some.inj (h.symm.trans h')
  rw [Names.drain_eq] at hdrain
  exact (Prod.mk.inj hdrain).2

theorem DerivesName.isGrammatical {text : List Char} {b : Binding} (h : DerivesName module text b)
    (hmodule : module = "" ∨ isModule module.toList) : b.IsGrammatical := by
  cases h with
  | plain hname => exact ⟨by simpa [Binding.plain], by simpa [Binding.plain], hmodule⟩
  | renamed hname hlocal _ _ _ _ => exact ⟨by simpa, by simpa, hmodule⟩

theorem DerivesNames.isGrammatical {text : List Char} (h : DerivesNames module text bs)
    (hmodule : module = "" ∨ isModule module.toList) : ∀ b ∈ bs, b.IsGrammatical := by
  induction h with
  | last hb => simpa using hb.isGrammatical hmodule
  | more hb _ _ _ ih => simpa using ⟨hb.isGrammatical hmodule, ih⟩

/-- The bindings of a derivation can be written down in the grammar. -/
theorem DerivesLine.isGrammatical (h : DerivesLine cs bs) : ∀ b ∈ bs, b.IsGrammatical := by
  cases h with
  | importStatement _ h => exact h.isGrammatical (.inl rfl)
  | fromStatement _ hmodule _ _ _ h => exact h.isGrammatical (.inr (by simpa using hmodule))

/-- The bindings that are read from a line can be written down in the grammar. -/
theorem isGrammatical_of_readLine? (h : readLine? line = some names) :
    ∀ b ∈ names.bindings, b.IsGrammatical :=
  (derives_of_readLine? h).isGrammatical

/-- Reading decides the grammar: a line is read exactly if it derives, and then, whatever the
    derivation, the bindings that come one after the other are those the derivation stands for,
    with nothing skipped on the way. So all derivations of a line stand for the same bindings; and
    no line matches the patterns of both statements. -/
theorem readLine?_decides_grammar (line : String) :
    ((readLine? line).isSome ↔ ∃ bs, DerivesLine line.toList bs) ∧
    (∀ bs, DerivesLine line.toList bs →
      ∃ names, readLine? line = some names ∧ names.drain = (bs, [])) ∧
    (∀ bs bs', DerivesLine line.toList bs → DerivesLine line.toList bs' → bs = bs') ∧
    ¬((importPattern.groups? line.toList).isSome ∧ (fromPattern.groups? line.toList).isSome) := by
  refine ⟨⟨fun h => ?_, fun ⟨bs, h⟩ => ?_⟩, fun bs h => readLine?_of_derives h,
    fun bs bs' h h' => ?_, not_isSome_groups?_both⟩
  · obtain ⟨names, h⟩ := Option.isSome_iff_exists.1 h
    exact ⟨names.bindings, derives_of_readLine? h⟩
  · obtain ⟨names, h, -⟩ := readLine?_of_derives h
    exact Option.isSome_iff_exists.2 ⟨names, h⟩
  · -- Both derivations stand for what the line is read as.
    obtain ⟨names, hread, hdrain⟩ := readLine?_of_derives h
    obtain ⟨names', hread', hdrain'⟩ := readLine?_of_derives h'
    obtain rfl := Option.some.inj (hread.symm.trans hread')
    exact (Prod.mk.inj (hdrain.symm.trans hdrain')).1

/-- A line of keywords is read as the statement it derives as. -/
theorem readLine?_decides_grammar_keywords :
    DerivesLine "from import importas as as".toList [⟨"import", "as", "as"⟩] ∧
    ∃ names, readLine? "from import importas as as" = some names ∧
      names.drain = ([⟨"import", "as", "as"⟩], []) := by
  have has : isIdentifier ['a', 's'] := by decide
  have hname : DerivesName (.ofList "import".toList)
      (['a', 's'] ++ [' '] ++ ['a', 's'] ++ [' '] ++ ['a', 's']) ⟨"import", "as", "as"⟩ :=
    .renamed has has blanks_space (by simp) blanks_space (by simp)
  have h : DerivesLine ("from".toList ++ [' '] ++ "import".toList ++ [' '] ++ "import".toList ++
      [] ++ (['a', 's'] ++ [' '] ++ ['a', 's'] ++ [' '] ++ ['a', 's']))
      [⟨"import", "as", "as"⟩] :=
    .fromStatement blanks_space (by decide) blanks_space (by simp) blanks_nil (.last hname)
  exact ⟨h, (readLine?_decides_grammar _).2.1 _ h⟩

end AutoImport
