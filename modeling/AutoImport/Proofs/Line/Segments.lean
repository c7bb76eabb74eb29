import AutoImport.Line
import AutoImport.Proofs.Names
import Mathlib.Data.List.TakeWhile

/-!
# What the segments of a list of names say

The grammar says which texts are lists of names, and which bindings they stand for; the reader of
such lists (`Names`) knows nothing of it, and only divides a text at its commas and each segment at
its blanks. Where a text derives from the grammar the two agree, whatever the derivation:

* `readSegment_of_derives`: the text of a bound name, with blanks around it, is read as the binding
  that the derivation stands for;
* `readings_of_derives`: so is, segment by segment, the text of a list of names;
* `DerivesNames.unique`: a text has therefore no two derivations that stand for different bindings,
  even if blanks before it count as part of it in different ways.
-/

namespace AutoImport

open Text

/-! ## Blanks -/

theorem blanks_nil : Blanks [] :=
  fun _ hc => absurd hc List.not_mem_nil

/-- One space is a run of blanks. -/
theorem blanks_space : Blanks [' '] := by
  intro c hc
  rw [List.mem_singleton.1 hc]
  decide

/-! ## Characters of words -/

/-- The characters of identifiers, by number. -/
theorem isIdentifierRest_iff {c : Char} : isIdentifierRest c ↔
    (((65 ≤ c.toNat ∧ c.toNat ≤ 90) ∨ (97 ≤ c.toNat ∧ c.toNat ≤ 122)) ∨
      (48 ≤ c.toNat ∧ c.toNat ≤ 57)) ∨ c.toNat = 95 := by
  delta isIdentifierRest Char.isAlphanum Char.isAlpha Char.isUpper Char.isLower Char.isDigit
  simp [UInt32.le_iff_toNat_le, ← Char.toNat_inj]

/-- The characters of modules, by number. -/
theorem isModuleChar_iff {c : Char} : isModuleChar c ↔ isIdentifierRest c ∨ c.toNat = 46 := by
  simp [isModuleChar, ← Char.toNat_inj]

theorem isModuleChar_of_isIdentifierRest {c : Char} (h : isIdentifierRest c) : isModuleChar c :=
  isModuleChar_iff.2 (.inl h)

theorem isIdentifierRest_of_isIdentifierStart {c : Char} (h : isIdentifierStart c) :
    isIdentifierRest c := by
  simp only [isIdentifierStart, isIdentifierRest, Char.isAlphanum, Bool.or_eq_true] at h ⊢
  tauto

/-- No character of a module, and so none of an identifier, is blank. -/
theorem isBlank_of_isModuleChar {c : Char} (h : isModuleChar c) : isBlank c = false := by
  refine Bool.eq_false_iff.2 fun hb => ?_
  rw [isModuleChar_iff, isIdentifierRest_iff] at h
  rw [isBlank_iff] at hb
  omega

theorem isBlank_of_isIdentifierRest {c : Char} (h : isIdentifierRest c) : isBlank c = false :=
  isBlank_of_isModuleChar (isModuleChar_of_isIdentifierRest h)

variable {cs name localName before after gap gap' : List Char}

theorem ne_nil_of_isIdentifier (h : isIdentifier cs) : cs ≠ [] := by
  rintro rfl
  cases h

theorem isIdentifierRest_of_mem (h : isIdentifier cs) {c : Char} (hc : c ∈ cs) :
    isIdentifierRest c := by
  cases cs with
  | nil => cases hc
  | cons d cs =>
    obtain ⟨hd, hcs⟩ := Bool.and_eq_true_iff.1 h
    rcases List.mem_cons.1 hc with rfl | hc
    · exact isIdentifierRest_of_isIdentifierStart hd
    · exact List.all_eq_true.1 hcs c hc

theorem ne_nil_of_isModule (h : isModule cs) : cs ≠ [] := by
  rintro rfl
  cases h

theorem isModuleChar_of_mem (h : isModule cs) {c : Char} (hc : c ∈ cs) : isModuleChar c := by
  cases cs with
  | nil => cases hc
  | cons d cs =>
    obtain ⟨hd, hcs⟩ := Bool.and_eq_true_iff.1 h
    rcases List.mem_cons.1 hc with rfl | hc
    · rcases Bool.or_eq_true_iff.1 hd with hd | hd
      · exact isModuleChar_of_isIdentifierRest (isIdentifierRest_of_isIdentifierStart hd)
      · exact Bool.or_eq_true_iff.2 (.inr hd)
    · exact List.all_eq_true.1 hcs c hc

/-- An identifier could also be a module. -/
theorem isModule_of_isIdentifier (h : isIdentifier cs) : isModule cs := by
  cases cs with
  | nil => cases h
  | cons c cs =>
    simp only [isIdentifier, isModule, Bool.and_eq_true, Bool.or_eq_true, List.all_eq_true] at h ⊢
    exact ⟨.inl h.1, fun d hd => isModuleChar_of_isIdentifierRest (h.2 d hd)⟩

theorem isBlank_of_mem_identifier (h : isIdentifier cs) : ∀ c ∈ cs, isBlank c = false :=
  fun _ hc => isBlank_of_isIdentifierRest (isIdentifierRest_of_mem h hc)

theorem isBlank_of_mem_module (h : isModule cs) : ∀ c ∈ cs, isBlank c = false :=
  fun _ hc => isBlank_of_isModuleChar (isModuleChar_of_mem h hc)

/-! ## Segments -/

/-- An identifier is one word. -/
theorem words_of_isIdentifier (h : isIdentifier cs) : words cs = [cs] :=
  words_of_word (ne_nil_of_isIdentifier h) (isBlank_of_mem_identifier h)

/-- A renamed identifier is three words. -/
theorem words_renamed (hname : isIdentifier name) (hlocal : isIdentifier localName)
    (hb : Blanks before) (hb' : before ≠ []) (ha : Blanks after) (ha' : after ≠ []) :
    words (name ++ before ++ ['a', 's'] ++ after ++ localName) = [name, ['a', 's'], localName] := by
  have has : words ['a', 's'] = [['a', 's']] := rfl
  rw [words_append_gap ha ha', words_append_gap hb hb', words_of_isIdentifier hname,
    words_of_isIdentifier hlocal, has]
  rfl

/-- The text of a bound name, with blanks around it, is read as the binding it stands for. -/
theorem readSegment_of_derives {module : String} {text : List Char} {b : Binding}
    (h : DerivesName module text b) (hgap : Blanks gap) (hgap' : Blanks gap') :
    readSegment module (gap ++ text ++ gap') = .binds b := by
  have hwords : words (gap ++ text ++ gap') = words text := by
    rw [words_append_blanks hgap', words_blanks_append hgap]
  rw [readSegment, hwords]
  cases h with
  | plain hname => rw [words_of_isIdentifier hname]
  | renamed hname hlocal hb hb' ha ha' =>
    rw [words_renamed hname hlocal hb hb' ha ha']
    rfl

/-! ## Commas -/

/-- No blank is a comma. -/
theorem comma_not_mem_of_blanks (h : Blanks gap) : ',' ∉ gap := fun hc =>
  absurd (h _ hc) (by decide)

theorem comma_not_mem_of_isIdentifier (h : isIdentifier cs) : ',' ∉ cs := fun hc =>
  absurd (isIdentifierRest_of_mem h hc) (by decide)

/-- There is no comma in the text of one name. -/
theorem DerivesName.comma_not_mem {module : String} {text : List Char} {b : Binding}
    (h : DerivesName module text b) : ',' ∉ text := by
  cases h with
  | plain hname => exact comma_not_mem_of_isIdentifier hname
  | renamed hname hlocal hb _ ha _ =>
    simp only [List.mem_append, not_or]
    exact ⟨⟨⟨⟨comma_not_mem_of_isIdentifier hname, comma_not_mem_of_blanks hb⟩, by decide⟩,
      comma_not_mem_of_blanks ha⟩, comma_not_mem_of_isIdentifier hlocal⟩

/-! ## Lists of names -/

variable {module : String} {text text' : List Char} {bs bs' : List Binding}

/-- The text of a name does not start with a blank. -/
theorem DerivesName.isBlank_of_mem_head? {b : Binding} (h : DerivesName module text b)
    (rest : List Char) : ∀ c ∈ (text ++ rest).head?, isBlank c = false := by
  cases h with
  | plain hname =>
    exact isBlank_of_mem_head?_append (ne_nil_of_isIdentifier hname)
      (isBlank_of_mem_identifier hname) rest
  | renamed hname =>
    simp only [List.append_assoc]
    exact isBlank_of_mem_head?_append (ne_nil_of_isIdentifier hname)
      (isBlank_of_mem_identifier hname) _

/-- A list of names starts with a name. -/
theorem DerivesNames.isBlank_of_mem_head? (h : DerivesNames module text bs) :
    ∀ c ∈ text.head?, isBlank c = false := by
  cases h with
  | last hb => simpa using hb.isBlank_of_mem_head? []
  | more hb =>
    simp only [List.append_assoc]
    exact hb.isBlank_of_mem_head? _

/-- The segments of a list of names, with blanks before it, are read as the bindings that a
    derivation of the list stands for. -/
theorem readings_of_derives (h : DerivesNames module text bs) (hgap : Blanks gap) :
    ((gap ++ text).splitOn ',').map (readSegment module) = bs.map .binds := by
  induction h generalizing gap with
  | @last text b hb =>
    have hcomma : ',' ∉ gap ++ text := by
      simpa using ⟨comma_not_mem_of_blanks hgap, hb.comma_not_mem⟩
    have hread := readSegment_of_derives hb hgap blanks_nil
    rw [List.append_nil] at hread
    rw [List.splitOn_eq_singleton hcomma, List.map_singleton, hread]
    rfl
  | @more text b before after rest bs hb hbefore hafter _ ih =>
    -- The first comma is the one behind the first name; what follows it is a list of names again,
    -- with blanks before it.
    have hcomma : ',' ∉ gap ++ text ++ before := by
      simpa using ⟨comma_not_mem_of_blanks hgap, hb.comma_not_mem, comma_not_mem_of_blanks hbefore⟩
    have hsplit : gap ++ (text ++ before ++ [','] ++ after ++ rest) =
        (gap ++ text ++ before) ++ ',' :: (after ++ rest) := by simp
    rw [hsplit, List.splitOn_append_cons_self_of_not_mem hcomma, List.map_cons, ih hafter,
      readSegment_of_derives hb hgap hbefore]
    rfl

/-- A list of names says what a derivation of it stands for, and nothing else. -/
theorem DerivesNames.readings (h : DerivesNames module text bs) :
    (Names.ofText module (.ofList text)).readings = bs.map .binds := by
  rw [Names.readings, Names.ofText, String.toList_ofList]
  exact readings_of_derives h blanks_nil

/-- A list of names binds what a derivation of it stands for. -/
theorem DerivesNames.bindings (h : DerivesNames module text bs) :
    (Names.ofText module (.ofList text)).bindings = bs := by
  rw [Names.bindings, h.readings, List.filterMap_map]
  exact List.filterMap_some

/-- A list of names skips nothing. -/
theorem DerivesNames.skipped (h : DerivesNames module text bs) :
    (Names.ofText module (.ofList text)).skipped = [] := by
  rw [Names.skipped, h.readings, List.filterMap_map, List.filterMap_eq_nil_iff]
  exact fun _ _ => rfl

/-- However a text is divided into blanks and a list of names, and however the list is derived, it
    stands for the same bindings. -/
theorem DerivesNames.unique (h : DerivesNames module text bs) (h' : DerivesNames module text' bs')
    (hgap : Blanks gap) (hgap' : Blanks gap') (heq : gap ++ text = gap' ++ text') : bs = bs' := by
  have := (readings_of_derives h hgap).symm.trans (heq ▸ readings_of_derives h' hgap')
  exact List.map_injective_iff.2 (fun _ _ e => SegmentReading.binds.inj e) this

end AutoImport
