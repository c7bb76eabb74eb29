import AutoImport.Proofs.Load.Delete
import AutoImport.Proofs.Text.Separated

/-!
# Labels that are read back

Whoever follows a load is shown the labels of what it binds, each in a line. A label is a name, then
`as` and the local name where that is another one, then `from` and the module where there is one. No
word tells by itself what it is, for names may be called `as` and `from` as well; but its place and
the number of words tell (`Binding.ofLabelWords?`).

So bindings of the grammar are read back from their labels, however many there are
(`Binding.readLabels_labelText`), and what a load has shown, once it has come to the end of the
file, tells what it has registered, in order (`Load.registrations_of_fileRead`).
-/

namespace AutoImport

namespace Binding

/-- The labels of some bindings, each ended by a line feed. -/
def labelText (bs : List Binding) : String :=
  .join (bs.map (·.label ++ "\n"))

/-- The words of the label of a binding. -/
def labelWords (b : Binding) : List (List Char) :=
  b.name.toList :: (if b.renames then [['a', 's'], b.localName.toList] else []) ++
    if b.isTopLevel then [] else [['f', 'r', 'o', 'm'], b.module.toList]

/-- The binding whose label has some words. -/
def ofLabelWords? : List (List Char) → Option Binding
  | [name] => some (.plain "" (.ofList name))
  | [name, ['a', 's'], localName] => some ⟨"", .ofList name, .ofList localName⟩
  | [name, ['f', 'r', 'o', 'm'], module] => some (.plain (.ofList module) (.ofList name))
  | [name, ['a', 's'], localName, ['f', 'r', 'o', 'm'], module] =>
    some ⟨.ofList module, .ofList name, .ofList localName⟩
  | _ => none

/-- The bindings whose labels are the lines of a text. -/
def readLabels (text : String) : List Binding :=
  (text.toList.splitOn '\n').filterMap fun line => ofLabelWords? (Text.words line)

theorem toList_label (b : Binding) : b.label.toList = [' '].intercalate b.labelWords := by
  rw [label, asClause, labelWords]
  by_cases hr : b.renames <;> by_cases htop : b.isTopLevel <;>
    simp [hr, htop, List.intercalate_cons_cons]

namespace IsGrammatical

variable {b : Binding}

/-- Each word of a label could be a module. -/
theorem isModule_of_mem_labelWords (h : b.IsGrammatical) {word : List Char}
    (hword : word ∈ b.labelWords) : isModule word := by
  obtain ⟨hname, hlocal, hmodule⟩ := id h
  simp only [labelWords, List.cons_append, List.mem_cons, List.mem_append] at hword
  rcases hword with rfl | hword | hword
  · exact isModule_of_isIdentifier hname
  · split at hword
    · rcases List.mem_pair.1 hword with rfl | rfl
      · decide
      · exact isModule_of_isIdentifier hlocal
    · cases hword
  · split at hword
    · cases hword
    · rename_i htop
      rcases List.mem_pair.1 hword with rfl | rfl
      · decide
      · exact hmodule.resolve_left fun hempty => htop (beq_iff_eq.2 hempty)

theorem words_label (h : b.IsGrammatical) : Text.words b.label.toList = b.labelWords := by
  rw [toList_label]
  refine Text.words_intercalate fun word hword => ?_
  have hmodule := h.isModule_of_mem_labelWords hword
  exact ⟨ne_nil_of_isModule hmodule, isBlank_of_mem_module hmodule⟩

/-- A label is one line. -/
theorem lineFeed_not_mem_label (h : b.IsGrammatical) : '\n' ∉ b.label.toList := by
  intro hmem
  rw [toList_label] at hmem
  rcases mem_intercalate hmem with heq | ⟨word, hword, hc⟩
  · cases heq
  · exact absurd (isModuleChar_of_mem (h.isModule_of_mem_labelWords hword) hc) (by decide)

/-- A binding is read back from the words of its label: of the parts that are left out, the local
    name is the name, and the module is none. -/
theorem ofLabelWords?_labelWords (h : b.IsGrammatical) : ofLabelWords? b.labelWords = some b := by
  by_cases hr : b.renames
  · obtain ⟨module, name, localName⟩ := b
    rcases eq_or_ne module "" with rfl | hmodule
    · simp [labelWords, hr, isTopLevel, ofLabelWords?]
    · simp [labelWords, hr, isTopLevel, hmodule, ofLabelWords?]
  · rw [h.eq_plain hr]
    rcases eq_or_ne b.module "" with htop | hmodule
    · simp [labelWords, plain, renames, isTopLevel, htop, ofLabelWords?]
    · simp [labelWords, plain, renames, isTopLevel, hmodule, ofLabelWords?]

end IsGrammatical

/-- Bindings of the grammar are read back from their labels. -/
theorem readLabels_labelText {bs : List Binding} (h : ∀ b ∈ bs, b.IsGrammatical) :
    readLabels (labelText bs) = bs := by
  have htext : labelText bs = .join ((bs.map label).map (· ++ "\n")) := by
    rw [labelText, List.map_map]
    rfl
  have hlineFeed : ∀ line ∈ bs.map label, '\n' ∉ line.toList :=
    List.forall_mem_map.2 fun b hb => (h b hb).lineFeed_not_mem_label
  have hread : ∀ b ∈ bs, ofLabelWords? (Text.words b.label.toList) = some b := fun b hb => by
    rw [(h b hb).words_label, (h b hb).ofLabelWords?_labelWords]
  have hnothing : [([] : List Char)].filterMap (fun line => ofLabelWords? (Text.words line)) = [] :=
    rfl
  rw [readLabels, htext, splitOn_join_lines hlineFeed, List.filterMap_append, hnothing,
    List.append_nil, List.filterMap_map, List.filterMap_map]
  exact (List.filterMap_congr hread).trans List.filterMap_some

/-- A binding comes from a line that is read. -/
def IsRead (b : Binding) : Prop :=
  ∃ line names, readLine? line = some names ∧ b ∈ names.drain.1

theorem IsRead.isGrammatical {b : Binding} (h : b.IsRead) : b.IsGrammatical := by
  obtain ⟨line, names, hread, hb⟩ := h
  rw [Names.drain_eq] at hb
  exact isGrammatical_of_readLine? hread b hb

end Binding

/-! ## Loads that are followed -/

namespace Load

variable {path : String} {opened : Opened}

/-- A load that comes to the end of its file has registered what is read back from what it has
    shown. -/
theorem registrations_of_fileRead (h : (ofOpened path opened).report.fileRead = true) :
    (ofOpened path opened).registrations =
      (Binding.readLabels ((ofOpened path opened).diagnostics true)).flatMap (·.registrations) := by
  have hgrammatical : ∀ b ∈ opened.bindings, b.IsGrammatical :=
    fun b hb => isGrammatical_of_mem_declared ((declared_singleton path opened).symm ▸ hb)
  rw [registrations_ofOpened, diagnostics_of_fileRead h, ← Binding.labelText,
    Binding.readLabels_labelText hgrammatical]

end Load

/-- No two sequences of bindings that are read from lines have the same labels. And what a load that
    comes to the end of its file has shown tells what it has registered, in order: it is read back
    from there, so loads that have shown the same have registered the same. -/
theorem labels_determine_bindings :
    (∀ bs bs' : List Binding, (∀ b ∈ bs, b.IsRead) → (∀ b ∈ bs', b.IsRead) →
      Binding.labelText bs = Binding.labelText bs' → bs = bs') ∧
    (∀ (path : String) (opened : Opened),
      let load := Load.ofOpened path opened
      load.report.fileRead = true →
        load.registrations =
          (Binding.readLabels (load.diagnostics true)).flatMap (·.registrations)) ∧
    ∀ (path path' : String) (opened opened' : Opened),
      let load := Load.ofOpened path opened
      let load' := Load.ofOpened path' opened'
      load.report.fileRead = true → load'.report.fileRead = true →
        load.diagnostics true = load'.diagnostics true →
          load.registrations = load'.registrations := by
  refine ⟨fun bs bs' hbs hbs' heq => ?_, fun _ _ => Load.registrations_of_fileRead, ?_⟩
  · rw [← Binding.readLabels_labelText fun b hb => (hbs b hb).isGrammatical, heq,
      Binding.readLabels_labelText fun b hb => (hbs' b hb).isGrammatical]
  · intro path path' opened opened' load load' hread hread' heq
    rw [Load.registrations_of_fileRead hread, Load.registrations_of_fileRead hread']
    exact congrArg (fun text => (Binding.readLabels text).flatMap (·.registrations)) heq

/-- Names that are called `as` and `from`. -/
def keywordNames : Opened :=
  .content "from from import as, from as as\nimport as as from\n".toUTF8.data.toList

/-- The same names in lines of their own, and a line that binds nothing. -/
def looseKeywordNames : Opened :=
  .content ("from from import as\r\nfrom from import\tfrom as as\n" ++
    "# as\nimport as as from").toUTF8.data.toList

/-- The labels of two names `as`, one from a module `from` and one renamed to `from`, are not the
    same; and the two files register the same five things. -/
theorem labels_determine_bindings_keywordNames :
    Binding.labelText [.plain "from" "as"] ≠ Binding.labelText [⟨"", "as", "from"⟩] ∧
    (Load.ofOpened "imports" keywordNames).registrations =
      [.name "as" "from", .name "from" "from", .rename "as" "from", .name "as" "",
        .rename "from" "as"] ∧
    (Load.ofOpened "loose" looseKeywordNames).registrations =
      (Load.ofOpened "imports" keywordNames).registrations := by
  obtain ⟨hinj, hloads, hsame⟩ := labels_determine_bindings
  have hmodule : (Binding.plain "from" "as").IsRead :=
    ⟨"from from import as", .ofText "from" "as", by decide +kernel, by
      rw [Names.drain_eq]
      decide +kernel⟩
  have hrenamed : (Binding.mk "" "as" "from").IsRead :=
    ⟨"import as as from", .ofText "" "as as from", by decide +kernel, by
      rw [Names.drain_eq]
      decide +kernel⟩
  have hread : (Load.ofOpened "imports" keywordNames).report.fileRead = true := by decide +kernel
  have hread' : (Load.ofOpened "loose" looseKeywordNames).report.fileRead = true := by
    decide +kernel
  have hbindings : looseKeywordNames.bindings = keywordNames.bindings := by decide +kernel
  refine ⟨fun heq => ?_, ?_, ?_⟩
  · have heq' := hinj _ _ (List.forall_mem_singleton.2 hmodule)
      (List.forall_mem_singleton.2 hrenamed) heq
    exact absurd heq' (by decide)
  · exact (hloads _ _ hread).trans (by decide +kernel)
  · refine hsame _ _ _ _ hread' hread ?_
    rw [Load.diagnostics_of_fileRead hread', Load.diagnostics_of_fileRead hread, hbindings]

end AutoImport
