import AutoImport.Proofs.Line.Respaced
import AutoImport.Proofs.Load.Delete

/-!
# Loads and words

A load looks at the lines of a content one by one, and at a line as the words it is made of: how the
line is indented, how it is ended and how its words are kept apart does not matter.

* `LineMeaning.alike_ofLine`: lines of the same words mean the same (`LineMeaning.Alike`), but for
  the text that is kept of a line outside the grammar, which has the same words;
* `bindings_eq_of_words_eq`, `Effect.inWords_join_ofLines`: so many lines bind the same, one line
  after the other, and those outside the grammar are in the same places;
* `Load.tellsLike_of_sameWords`: so contents of the same words (`SameWords`) are loaded alike.

Where one line ends and the next begins does matter, and so a line feed is the one blank that cannot
be replaced.
-/

namespace AutoImport

open Text

/-- The words of a line. -/
def lineWords (line : String) : List (List Char) :=
  words line.toList

theorem toList_trimmed (line : String) : (trimmed line).toList = trim line.toList :=
  String.toList_ofList

/-- The blanks around a line are no part of its words. -/
theorem lineWords_trimmed (line : String) : lineWords (trimmed line) = lineWords line := by
  rw [lineWords, toList_trimmed, words_trim]
  rfl

theorem isTrimmed_trimmed (line : String) : IsTrimmed (trimmed line).toList :=
  toList_trimmed line ▸ isTrimmed_trim _

/-! ## Lines -/

namespace LineMeaning

/-- Two meanings of a line that are the same, but for blanks in a text that is kept. -/
inductive Alike : LineMeaning → LineMeaning → Prop
  | idle : Alike .idle .idle
  | unrecognized {text text'} : lineWords text = lineWords text' →
    Alike (.unrecognized text) (.unrecognized text')
  | statement {names names'} : names.bindings = names'.bindings →
    Alike (.statement names) (.statement names')

theorem Alike.bindings_eq {meaning meaning' : LineMeaning} (h : Alike meaning meaning') :
    meaning.bindings = meaning'.bindings := by
  cases h with
  | idle => rfl
  | unrecognized => rfl
  | statement hbindings => exact hbindings

variable {line line' : String}

/-- Lines of the same words are the same without the blanks around them, but for the blanks in
    them. -/
theorem respaced_trimmed (h : lineWords line = lineWords line') :
    Respaced (trimmed line).toList (trimmed line').toList := by
  rw [← lineWords_trimmed line, ← lineWords_trimmed line'] at h
  exact .of_words_eq (isTrimmed_trimmed line) (isTrimmed_trimmed line') rfl h.symm

/-- A line of the same words as a statement is a statement that binds the same. -/
theorem exists_readLine?_of_words_eq {names : Names} (h : lineWords line = lineWords line')
    (hread : readLine? (trimmed line) = some names) :
    ∃ names', readLine? (trimmed line') = some names' ∧ names.bindings = names'.bindings := by
  have hderives' : DerivesLine (trimmed line').toList names.bindings :=
    (respaced_trimmed h).derivesLine (derives_of_readLine? hread)
  obtain ⟨names', hread', hdrain⟩ := readLine?_of_derives hderives'
  rw [Names.drain_eq] at hdrain
  exact ⟨names', hread', (Prod.mk.inj hdrain).1.symm⟩

/-- A line of the same words as no statement is none. -/
theorem readLine?_eq_none_of_words_eq (h : lineWords line = lineWords line')
    (hread : readLine? (trimmed line) = none) : readLine? (trimmed line') = none := by
  refine Option.eq_none_iff_forall_ne_some.2 fun names' hread' => ?_
  obtain ⟨names, hsome, -⟩ := exists_readLine?_of_words_eq h.symm hread'
  cases hread.symm.trans hsome

/-- Whether a line is blank or a comment is seen from its first word. -/
theorem isIdle_iff_of_words_eq (h : lineWords line = lineWords line') :
    IsIdle (trimmed line) ↔ IsIdle (trimmed line') := by
  have hhead := (respaced_trimmed h).head?_eq (isTrimmed_trimmed line).head?
  simp only [IsIdle, ← String.toList_eq_nil_iff, ← List.head?_eq_none_iff, hhead]

/-- Lines of the same words mean the same. -/
theorem alike_ofLine (h : lineWords line = lineWords line') :
    Alike (ofLine line) (ofLine line') := by
  have hidle := isIdle_iff_of_words_eq h
  by_cases hline : IsIdle (trimmed line)
  · rw [ofLine_of_isIdle hline, ofLine_of_isIdle (hidle.1 hline)]
    exact .idle
  · cases hread : readLine? (trimmed line) with
    | some names =>
      obtain ⟨names', hread', hbindings⟩ := exists_readLine?_of_words_eq h hread
      rw [ofLine_of_readLine? hread, ofLine_of_readLine? hread']
      exact .statement hbindings
    | none =>
      have hread' := readLine?_eq_none_of_words_eq h hread
      rw [ofLine_of_isRejected ⟨hline, hread⟩, ofLine_of_isRejected ⟨mt hidle.2 hline, hread'⟩]
      exact .unrecognized (by rw [lineWords_trimmed, lineWords_trimmed, h])

end LineMeaning

/-! ## Many lines -/

/-- A line outside the grammar by its number and its words. -/
def UnrecognizedLine.inWords (line : UnrecognizedLine) : Nat × List (List Char) :=
  (line.number, lineWords line.text)

/-- Of two lines of the same words both are listed or none is, with the same words. -/
theorem Effect.inWords_ofLine {line line' : String} (h : lineWords line = lineWords line')
    (path path' : String) (number : Nat) :
    (ofLine path number line).unrecognized.map (·.inWords) =
      (ofLine path' number line').unrecognized.map (·.inWords) := by
  have halike := LineMeaning.alike_ofLine h
  rw [ofLine, ofLine]
  generalize LineMeaning.ofLine line = meaning at halike
  generalize LineMeaning.ofLine line' = meaning' at halike
  cases halike with
  | idle => rfl
  | unrecognized htext => exact congrArg (fun text => [(number, text)]) htext
  | statement => simp only [join_map_ofBinding, List.map_nil]

section Lines

variable {lines lines' : List String}
  (h : List.Forall₂ (fun line line' => lineWords line = lineWords line') lines lines')
include h

/-- Lines of the same words bind the same. -/
theorem bindings_eq_of_words_eq :
    lines.flatMap (fun line => (LineMeaning.ofLine line).bindings) =
      lines'.flatMap fun line => (LineMeaning.ofLine line).bindings := by
  induction h with
  | nil => rfl
  | cons hline _ ih =>
    rw [List.flatMap_cons, List.flatMap_cons, ih, (LineMeaning.alike_ofLine hline).bindings_eq]

/-- Of lines of the same words those in the same places are listed, with the same words. -/
theorem Effect.inWords_join_ofLines (path path' : String) (number : Nat) :
    (join (ofLines path number lines)).unrecognized.map (·.inWords) =
      (join (ofLines path' number lines')).unrecognized.map (·.inWords) := by
  simp only [join]
  induction h generalizing number with
  | nil => rfl
  | cons hline _ ih =>
    rw [ofLines_cons, ofLines_cons, List.flatMap_cons, List.flatMap_cons, List.map_append,
      List.map_append, inWords_ofLine hline path path', ih]

end Lines

/-! ## Loads -/

/-- Two contents have the same number of lines, and each line of one has the words of the line of
    the other with the same number. The lines are those that a load gets to see, which are all lines
    of a content that is UTF-8. -/
def SameWords (bytes bytes' : List UInt8) : Prop :=
  List.Forall₂ (fun line line' => lineWords line = lineWords line')
    (readable (splitLines bytes)) (readable (splitLines bytes'))

instance (bytes bytes' : List UInt8) : Decidable (SameWords bytes bytes') :=
  inferInstanceAs (Decidable (List.Forall₂ _ _ _))

/-- A load depends on each line through its words alone. The loads of two contents of the same words
    tell a keeper of names and whoever follows them the same, list the same lines as outside the
    grammar, with the same words, and get to the end of their contents. -/
theorem Load.tellsLike_of_sameWords (path path' : String) {bytes bytes' : List UInt8}
    (hread : isReadable bytes) (hread' : isReadable bytes') (hwords : SameWords bytes bytes') :
    (ofOpened path (.content bytes)).TellsLike (ofOpened path' (.content bytes')) ∧
    (ofOpened path (.content bytes)).report.unrecognized.map (·.inWords) =
      (ofOpened path' (.content bytes')).report.unrecognized.map (·.inWords) ∧
    (ofOpened path (.content bytes)).failure? = none ∧
    (ofOpened path' (.content bytes')).failure? = none := by
  obtain ⟨hend, hfailure⟩ := fileRead_ofOpened path (isReadable_of_mem_splitLines hread)
  obtain ⟨hend', hfailure'⟩ := fileRead_ofOpened path' (isReadable_of_mem_splitLines hread')
  refine ⟨?_, ?_, hfailure, hfailure'⟩
  · exact tellsLike_of_bindings_eq hend hend' (bindings_eq_of_words_eq hwords)
  · rw [ofOpened_content, ofOpened_content]
    exact Effect.inWords_join_ofLines hwords path path' 1

/-- Five lines, the last of them not ended: a comment, a statement, one line outside the grammar,
    nothing, and a statement again. -/
def neatLines : List UInt8 :=
  "# names\nfrom os import path, sep as s\n??? !\n\nimport re".toUTF8.data.toList

/-- The same words in five lines, each ended in one of two ways, with blanks of ten kinds: a space,
    a tabulator, a vertical tabulator, a form feed, a carriage return, a next line, a no-break
    space, an ideographic space, and the separators of lines and paragraphs. -/
def looseLines : List UInt8 :=
  ("  #\u00a0names\r\n" ++ "\tfrom\u3000os \r import\u2028path,\u0085 sep\x0bas\x0c s\u2029\n" ++
    " ???\t!\r\n" ++ " \n" ++ "import\r\r re\r\n").toUTF8.data.toList

/-- The two contents register the same four things, and in each of them the third line is outside
    the grammar. -/
theorem Load.tellsLike_of_sameWords_looseLines :
    isReadable neatLines ∧ isReadable looseLines ∧ SameWords neatLines looseLines ∧
    (ofOpened "imports" (.content looseLines)).registrations =
      [.name "path" "os", .name "sep" "os", .rename "s" "sep", .name "re" ""] ∧
    (ofOpened "imports" (.content looseLines)).report.unrecognized.map (·.inWords) =
      [(3, ["???".toList, "!".toList])] := by
  have hread : isReadable neatLines := by decide +kernel
  have hread' : isReadable looseLines := by decide +kernel
  have hwords : SameWords neatLines looseLines := by decide +kernel
  obtain ⟨htells, hlisted, -⟩ := tellsLike_of_sameWords "neat" "imports" hread hread' hwords
  exact ⟨hread, hread', hwords, htells.registrations.symm.trans (by decide +kernel),
    hlisted.symm.trans (by decide +kernel)⟩

end AutoImport
