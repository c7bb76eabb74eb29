import AutoImport.Binding.Json
import AutoImport.Proofs.Json.RoundTrip

/-!
# Bindings that read back

An object of texts is read as a binding exactly if it has each of the three texts of the binding
once, under its own name (`Binding.ofJsonText_write_iff`). It does not matter what other texts it
has, in which order they stand, or which blanks are between them. In particular a binding reads back
from its own object (`Binding.ofJsonText_toJson`).

The reader knows a field by its name, and takes it or passes over it. So the text of a field has to
be read in two ways, and both have to find its end: as a text (`Binding.readText_quote`) and as a
value that nobody asked for (`Json.skipValue_quote`). What is left is which texts the reader has
been told so far (`Binding.Fields.tell`).
-/

namespace AutoImport

namespace Json

variable {c : Char} {cs ws rest : List Char}

/-! ## Strings that are passed over -/

theorem skipString_escape (h : skipEscape cs = .ok (c, rest)) :
    skipString ('\\' :: cs) = skipString rest := by
  rw [skipString]
  split
  · rename_i hskip
    rw [h] at hskip
    cases hskip
  · rename_i hskip
    rw [h] at hskip
    cases hskip
    rfl

/-- The digits of a control character are passed over. -/
theorem skipEscape_hexByte (h : c < ' ') :
    skipEscape ('u' :: '0' :: '0' :: (hexByte c.toNat ++ rest)) = .ok ('u', rest) := by
  rw [skipEscape, readHexUnit_hexByte h]
  rfl

/-- A character of a string is passed over as it is written. -/
theorem skipString_escapeChar (c : Char) (rest : List Char) :
    skipString (escapeChar c ++ rest) = skipString rest := by
  rw [escapeChar]
  split_ifs with hquote hbackslash hb hf hn hr ht hcontrol
  case pos | pos | pos | pos | pos | pos | pos => exact skipString_escape rfl
  case pos => exact skipString_escape (skipEscape_hexByte hcontrol)
  case neg =>
    rw [List.singleton_append, skipString.eq_4 _ _ hquote hbackslash]
    exact if_neg hcontrol

theorem skipString_flatMap (chars rest : List Char) :
    skipString (chars.flatMap escapeChar ++ '"' :: rest) = .ok rest := by
  induction chars with
  | nil => simp [skipString]
  | cons c chars ih => rw [List.flatMap_cons, List.append_assoc, skipString_escapeChar, ih]

/-- A text in its quotes is passed over to its end. -/
theorem skipValue_quote (hws : IsBlank ws) (s : String) (rest : List Char) :
    skipValue (ws ++ (quote s ++ rest)) = .ok rest := by
  have hquote : quote s ++ rest = '"' :: (s.toList.flatMap escapeChar ++ '"' :: rest) := by
    simp [quote]
  rw [skipValue, skipValueWith, skipBlanks_append hws, hquote, skipBlanks_cons (by decide)]
  exact skipString_flatMap s.toList rest

/-! ## Objects of texts -/

/-- The object of some texts, each under its name. -/
def ofTexts (texts : List (String × String)) : Json :=
  .obj (texts.map fun t => (t.1, .str t.2))

/-- The texts under one name. -/
def textsOf (key : String) (texts : List (String × String)) : List String :=
  (texts.filter (·.1 = key)).map (·.2)

theorem textsOf_cons_self (key text : String) (texts : List (String × String)) :
    textsOf key ((key, text) :: texts) = text :: textsOf key texts := by
  simp [textsOf]

theorem textsOf_cons_of_ne {key key' : String} (h : key' ≠ key) (text : String)
    (texts : List (String × String)) :
    textsOf key ((key', text) :: texts) = textsOf key texts := by
  simp [textsOf, h]

end Json

namespace Binding

open Json

variable {ws rest : List Char} {layout : Layout} {depth fuel : Nat}
  {texts : List (String × String)} {fields : Fields} {b : Binding}

/-! ## Reading a field -/

/-- A text in its quotes is read to its end. -/
theorem readText_quote (hws : IsBlank ws) (s : String) (rest : List Char) :
    readText (ws ++ (quote s ++ rest)) = .ok (s, rest) := by
  obtain ⟨cs, hcs, hread⟩ := readString_quote s rest
  rw [readText, skipBlanks_append hws, hcs, skipBlanks_cons (by decide)]
  exact hread

/-- What is known of a text once it is told. It must not be told twice. -/
def tellOnce (known : Option String) (text : String) : Except Fault (Option String) :=
  if known.isSome then .error .mismatch else .ok (some text)

/-- What has been read once another text is told. Only those of a binding are kept. -/
def Fields.tell (fields : Fields) (t : String × String) : Except Fault Fields :=
  if t.1 = "module" then
    (tellOnce fields.module t.2).map fun text => { fields with module := text }
  else if t.1 = "name" then
    (tellOnce fields.name t.2).map fun text => { fields with name := text }
  else if t.1 = "alias" then
    (tellOnce fields.localName t.2).map fun text => { fields with localName := text }
  else .ok fields

/-- The binding that has been told, once all texts are. -/
def Fields.answer (fields : Fields) : Except Fault Binding :=
  match fields.binding? with
  | some b => .ok b
  | none => .error .mismatch

theorem readOnce_quote (hws : IsBlank ws) (known : Option String) (text : String)
    (rest : List Char) :
    readOnce known (':' :: (ws ++ (quote text ++ rest))) =
      (tellOnce known text).map fun text => (text, rest) := by
  have hcolon : expectChar ':' (':' :: (ws ++ (quote text ++ rest))) = .ok _ :=
    expectChar_cons (by decide)
  cases known with
  | some known => rfl
  | none => simp [readOnce, tellOnce, hcolon, readText_quote hws, Except.map, bind, Except.bind]

/-- The text of a field is told under its name. -/
theorem readKnown_quote (hws : IsBlank ws) (fields : Fields) (t : String × String)
    (rest : List Char) :
    readKnown t.1 fields (':' :: (ws ++ (quote t.2 ++ rest))) =
      (fields.tell t).map fun fields => (fields, rest) := by
  have hcolon : expectChar ':' (':' :: (ws ++ (quote t.2 ++ rest))) = .ok _ :=
    expectChar_cons (by decide)
  rw [readKnown, Fields.tell]
  split_ifs
  case neg => simp [hcolon, skipValue_quote hws, Except.map, bind, Except.bind]
  all_goals
    rw [readOnce_quote hws]
    cases tellOnce _ t.2 <;> rfl

/-! ## Reading an object -/

/-- The text of a field, with what stands after its colon and after the field. -/
theorem writeField_append (t : String × String) (rest : List Char) :
    writeField layout depth t.1 (.str t.2) ++ rest =
      quote t.1 ++ ':' :: (layout.afterColon ++ (quote t.2 ++ rest)) := by
  simp [writeField, write]

/-- A field that is read is told, and then the reader goes on to the next one. -/
theorem readField_bind (hlayout : layout.IsBlank) (hws : IsBlank ws) (fuel depth : Nat)
    (fields : Fields) (t : String × String) (rest : List Char) :
    (do
      let (key, cs) ← readString (← expectChar '"'
        (ws ++ (writeField layout depth t.1 (.str t.2) ++ rest)))
      let (fields, cs) ← readKnown key fields cs
      readObject fuel false fields cs) =
      fields.tell t >>= fun fields => readObject fuel false fields rest := by
  obtain ⟨ks, hks, hkey⟩ :=
    readString_quote t.1 (':' :: (layout.afterColon ++ (quote t.2 ++ rest)))
  have hquote : expectChar '"' (ws ++ (writeField layout depth t.1 (.str t.2) ++ rest)) =
      .ok ks := by
    rw [writeField_append, hks]
    exact expectChar_append hws (by decide)
  simp only [hquote, hkey, readKnown_quote hlayout.afterColon, bind, Except.bind, Except.map]
  cases fields.tell t <;> rfl

/-- The first field of an object, at which the reader starts. -/
theorem readObject_first (hlayout : layout.IsBlank) (hws : IsBlank ws) (fields : Fields)
    (t : String × String) (rest : List Char) :
    readObject (fuel + 1) true fields
        (ws ++ (writeField layout depth t.1 (.str t.2) ++ rest)) =
      fields.tell t >>= fun fields => readObject fuel false fields rest := by
  have hfield := readField_bind hlayout isBlank_nil fuel depth fields t rest
  obtain ⟨ks, hks, -⟩ := readString_quote t.1 (':' :: (layout.afterColon ++ (quote t.2 ++ rest)))
  rw [List.nil_append, writeField_append, hks] at hfield
  rw [readObject, skipBlanks_append hws, writeField_append, hks, skipBlanks_cons (by decide)]
  exact hfield

/-- A field after the first, with the comma before it. -/
theorem readObject_comma (hlayout : layout.IsBlank) (hws : IsBlank ws) (fields : Fields)
    (t : String × String) (rest : List Char) :
    readObject (fuel + 1) false fields
        (',' :: (ws ++ (writeField layout depth t.1 (.str t.2) ++ rest))) =
      fields.tell t >>= fun fields => readObject fuel false fields rest := by
  rw [readObject, skipBlanks_cons (by decide)]
  exact readField_bind hlayout hws fuel depth fields t rest

/-- At the closing brace the binding has been told, or it never will be. -/
theorem readObject_close (hws : IsBlank ws) (isFirst : Bool) (fields : Fields)
    (rest : List Char) :
    readObject (fuel + 1) isFirst fields (ws ++ '}' :: rest) =
      fields.answer.map fun b => (b, rest) := by
  rw [readObject, skipBlanks_append hws, skipBlanks_cons (by decide), Fields.answer]
  dsimp only
  cases fields.binding? <;> rfl

-- The induction is on the texts, with what has been told before: the fuel is one less for each.
/-- The fields after the first are told one after the other, up to the closing brace. -/
theorem readObject_writeFields (hlayout : layout.IsBlank) (hws : IsBlank ws)
    (texts : List (String × String)) (fields : Fields) (rest : List Char)
    (hfuel : texts.length < fuel) :
    readObject fuel false fields (writeFields layout depth (texts.map fun t => (t.1, .str t.2)) ++
        (ws ++ '}' :: rest)) =
      (texts.foldlM Fields.tell fields >>= Fields.answer).map fun b => (b, rest) := by
  obtain ⟨fuel, rfl⟩ := Nat.exists_eq_add_one_of_ne_zero (Nat.ne_zero_of_lt hfuel)
  induction texts generalizing fields fuel with
  | nil =>
    rw [List.map_nil, writeFields, List.nil_append]
    exact readObject_close hws false fields rest
  | cons t texts ih =>
    have hcons : writeFields layout depth ((t :: texts).map fun t => (t.1, .str t.2)) ++
        (ws ++ '}' :: rest) =
        ',' :: (layout.newline depth ++ (writeField layout depth t.1 (.str t.2) ++
          (writeFields layout depth (texts.map fun t => (t.1, .str t.2)) ++
            (ws ++ '}' :: rest)))) := by
      simp [writeFields]
    obtain ⟨fuel, rfl⟩ := Nat.exists_eq_add_one_of_ne_zero
      (Nat.ne_zero_of_lt (Nat.lt_of_add_lt_add_right hfuel))
    rw [hcons, readObject_comma hlayout (hlayout.newline depth), List.foldlM_cons]
    cases fields.tell t with
    | error e => rfl
    | ok fields => exact ih fields fuel (Nat.lt_of_add_lt_add_right hfuel)

/-- The text of fields has at least one character for each. -/
theorem length_le_length_writeFields (fields : List (String × Json)) :
    fields.length ≤ (writeFields layout depth fields).length := by
  induction fields with
  | nil => exact Nat.zero_le _
  | cons field fields ih =>
    obtain ⟨key, value⟩ := field
    simp only [writeFields, List.length_cons, List.length_append]
    omega

/-- The texts of an object are told one after the other. -/
theorem ofJsonText_write (hlayout : layout.IsBlank) (depth : Nat) (texts : List (String × String)) :
    ofJsonText (.ofList ((ofTexts texts).write layout depth)) =
      texts.foldlM Fields.tell {} >>= Fields.answer := by
  have hread : readJson ((ofTexts texts).write layout depth) =
      (texts.foldlM Fields.tell {} >>= Fields.answer).map fun b => (b, []) := by
    cases texts with
    | nil =>
      rw [ofTexts, List.map_nil, write]
      rfl
    | cons t texts =>
      let fields : List (String × Json) := texts.map fun t => (t.1, .str t.2)
      let cs := layout.newline (depth + 1) ++ (writeField layout (depth + 1) t.1 (.str t.2) ++
        (writeFields layout (depth + 1) fields ++ (layout.newline depth ++ ['}'])))
      have htext : (ofTexts (t :: texts)).write layout depth = '{' :: cs := by
        simp [ofTexts, write, cs, fields]
      have hfuel : texts.length < cs.length := by
        have hlength : fields.length ≤ (writeFields layout (depth + 1) fields).length :=
          length_le_length_writeFields fields
        simp only [cs, List.length_append, List.length_cons]
        rw [List.length_map] at hlength
        omega
      rw [htext, readJson, skipBlanks_cons (by decide)]
      -- The opening brace decides that it is an object.
      change readObject (cs.length + 1) true {} cs = _
      rw [readObject_first hlayout (hlayout.newline _), List.foldlM_cons]
      cases Fields.tell {} t with
      | error e => rfl
      | ok known =>
        exact readObject_writeFields hlayout (hlayout.newline depth) texts known [] hfuel
  rw [ofJsonText, String.toList_ofList, hread]
  cases texts.foldlM Fields.tell {} >>= Fields.answer <;> rfl

/-! ## What is told -/

/-- The texts of a binding are among some others: each of the three stands under its own name, and
    nothing else does. -/
structure IsAmong (b : Binding) (texts : List (String × String)) : Prop where
  module : textsOf "module" texts = [b.module]
  name : textsOf "name" texts = [b.name]
  localName : textsOf "alias" texts = [b.localName]

/-- A text that must not be told twice is told if none is known before. -/
theorem tellOnce_bind_eq_ok_iff {known : Option String} {text : String}
    {update : Option String → Fields} {next : Fields → Except Fault Fields} {told : Fields} :
    (tellOnce known text).map update >>= next = .ok told ↔
      known = none ∧ next (update (some text)) = .ok told := by
  cases known with
  | none => exact (and_iff_right rfl).symm
  | some known =>
    refine iff_of_false ?_ fun h => Option.some_ne_none _ h.1
    rintro ⟨⟩

/-- What is known of a field is one text at most. -/
theorem toList_append_cons_eq_iff {known told : Option String} {text : String}
    {others : List String} : known.toList ++ text :: others = told.toList ↔
      known = none ∧ (some text).toList ++ others = told.toList := by
  cases known with
  | none => exact (and_iff_right rfl).symm
  | some known => cases told <;> simp

/-- What has been read after some texts is what had been read before, and all texts under the name
    of each field. -/
theorem foldlM_tell_eq_ok_iff {told : Fields} : texts.foldlM Fields.tell fields = .ok told ↔
    fields.module.toList ++ textsOf "module" texts = told.module.toList ∧
    fields.name.toList ++ textsOf "name" texts = told.name.toList ∧
    fields.localName.toList ++ textsOf "alias" texts = told.localName.toList := by
  induction texts generalizing fields with
  | nil =>
    have hinj (o o' : Option String) : o.toList = o'.toList ↔ o = o' := by
      cases o <;> cases o' <;> simp
    obtain ⟨module, name, localName⟩ := fields
    obtain ⟨module', name', localName'⟩ := told
    simp [textsOf, pure, Except.pure, hinj]
  | cons t texts ih =>
    obtain ⟨key, text⟩ := t
    rw [List.foldlM_cons, Fields.tell]
    split_ifs with hmodule hname hlocalName
    · obtain rfl : key = "module" := hmodule
      rw [tellOnce_bind_eq_ok_iff, ih, textsOf_cons_self, textsOf_cons_of_ne (by decide),
        textsOf_cons_of_ne (by decide), toList_append_cons_eq_iff]
      tauto
    · obtain rfl : key = "name" := hname
      rw [tellOnce_bind_eq_ok_iff, ih, textsOf_cons_of_ne (by decide), textsOf_cons_self,
        textsOf_cons_of_ne (by decide), toList_append_cons_eq_iff]
      tauto
    · obtain rfl : key = "alias" := hlocalName
      rw [tellOnce_bind_eq_ok_iff, ih, textsOf_cons_of_ne (by decide),
        textsOf_cons_of_ne (by decide), textsOf_cons_self, toList_append_cons_eq_iff]
      tauto
    · rw [textsOf_cons_of_ne hmodule, textsOf_cons_of_ne hname, textsOf_cons_of_ne hlocalName]
      exact ih

/-- An object of texts is read as a binding exactly if the texts of the binding are among them. -/
theorem ofJsonText_write_iff (hlayout : layout.IsBlank) :
    ofJsonText (.ofList ((ofTexts texts).write layout depth)) = .ok b ↔ b.IsAmong texts := by
  let told : Fields := ⟨some b.module, some b.name, some b.localName⟩
  have hanswer (known : Fields) : known.answer = .ok b ↔ known = told := by
    obtain ⟨module, name, localName⟩ := known
    obtain ⟨module', name', localName'⟩ := b
    rw [Fields.answer]
    cases module <;> cases name <;> cases localName <;> simp [Fields.binding?, told]
  rw [ofJsonText_write hlayout, bind_eq_ok_iff]
  constructor
  · rintro ⟨known, htold, hknown⟩
    obtain rfl := (hanswer known).1 hknown
    obtain ⟨hmodule, hname, hlocalName⟩ := foldlM_tell_eq_ok_iff.1 htold
    exact ⟨hmodule, hname, hlocalName⟩
  · rintro ⟨hmodule, hname, hlocalName⟩
    exact ⟨told, foldlM_tell_eq_ok_iff.2 ⟨hmodule, hname, hlocalName⟩, (hanswer told).2 rfl⟩

/-- The order of the texts does not matter. -/
theorem IsAmong.perm {texts' : List (String × String)} (h : b.IsAmong texts)
    (hperm : texts'.Perm texts) : b.IsAmong texts' := by
  have hof (key : String) : (textsOf key texts').Perm (textsOf key texts) :=
    (hperm.filter _).map _
  exact ⟨List.perm_singleton.1 (h.module ▸ hof "module"),
    List.perm_singleton.1 (h.name ▸ hof "name"),
    List.perm_singleton.1 (h.localName ▸ hof "alias")⟩

/-- The texts of a binding, under their names. -/
def toTexts (b : Binding) : List (String × String) :=
  [("module", b.module), ("name", b.name), ("alias", b.localName)]

theorem toJson_eq_ofTexts (b : Binding) : b.toJson = .ofTexts b.toTexts :=
  rfl

/-- A binding reads back from its object. -/
theorem ofJsonText_toJson (b : Binding) (hlayout : layout.IsBlank) (depth : Nat) :
    ofJsonText (.ofList (b.toJson.write layout depth)) = .ok b := by
  rw [toJson_eq_ofTexts]
  exact (ofJsonText_write_iff hlayout).2 ⟨rfl, rfl, rfl⟩

end Binding

end AutoImport
