import AutoImport.Proofs.Json.Number
import Mathlib.Data.List.DropRight

/-!
# Reading part by part

What each reader gives, from what the readers of the parts give: a text in quotes reads back
(`readString_quote`), a value without parts is read by its first character (`readValue_scalar`,
`readValue_number`), and an array or an object is read as its first part and the others
(`readValue_arr`, `readItems_comma`, `readValue_obj`, `readFields_comma`).

Blanks before a part do not matter. The readers skip them, and so it is enough to look at them where
a part starts.
-/

namespace AutoImport.Json

variable {c : Char} {cs ws rest : List Char} {fuel : Nat}

/-! ## Blanks -/

/-- Nothing but blanks. -/
def IsBlank (ws : List Char) : Prop :=
  ∀ c ∈ ws, isJsonBlank c

theorem isBlank_nil : IsBlank [] :=
  fun _ hc => absurd hc List.not_mem_nil

theorem skipBlanks_cons (hc : ¬isJsonBlank c) : skipBlanks (c :: cs) = c :: cs :=
  List.dropWhile_cons_of_neg hc

theorem skipBlanks_append (hws : IsBlank ws) : skipBlanks (ws ++ cs) = skipBlanks cs :=
  List.dropWhile_append_of_pos hws

theorem skipBlanks_skipBlanks (cs : List Char) : skipBlanks (skipBlanks cs) = skipBlanks cs :=
  List.dropWhile_idempotent isJsonBlank cs

theorem expectChar_append (hws : IsBlank ws) (hc : ¬isJsonBlank c) :
    expectChar c (ws ++ c :: cs) = .ok cs := by
  rw [expectChar, skipBlanks_append hws, skipBlanks_cons hc]
  exact if_pos rfl

theorem expectChar_cons (hc : ¬isJsonBlank c) : expectChar c (c :: cs) = .ok cs :=
  expectChar_append isBlank_nil hc

/-! ## Strings -/

theorem hexDigit?_digitChar : ∀ n < 16, Text.hexDigit? (Nat.digitChar n) = some n := by
  decide

/-- The digits of a control character are those of its number. -/
theorem readHexUnit_hexByte (h : c < ' ') :
    readHexUnit ('0' :: '0' :: (hexByte c.toNat ++ rest)) = .ok (c.toNat, rest) := by
  have hlt : c.toNat < 32 := h
  have hhigh := hexDigit?_digitChar (c.toNat / 16) (by omega)
  have hlow := hexDigit?_digitChar (c.toNat % 16) (by omega)
  have hzero : Text.hexDigit? '0' = some 0 := rfl
  have hvalue : ((0 * 16 + 0) * 16 + c.toNat / 16) * 16 + c.toNat % 16 = c.toNat := by omega
  simp only [hexByte, List.cons_append, List.nil_append, readHexUnit, hzero, hhigh, hlow, hvalue]

/-- A control character is read from its digits. -/
theorem readEscape_hexByte (h : c < ' ') :
    readEscape ('u' :: '0' :: '0' :: (hexByte c.toNat ++ rest)) = .ok (c, rest) := by
  have hlt : c.toNat < 32 := h
  have hlow : (0xDC00 ≤ c.toNat && c.toNat ≤ 0xDFFF) = false := by simp; omega
  have hhigh : (0xD800 ≤ c.toNat && c.toNat ≤ 0xDBFF) = false := by simp; omega
  have hrun : readEscape ('u' :: '0' :: '0' :: (hexByte c.toNat ++ rest)) =
      readHexUnit ('0' :: '0' :: (hexByte c.toNat ++ rest)) >>= fun r =>
        if 0xDC00 ≤ r.1 && r.1 ≤ 0xDFFF then .error .malformed
        else if 0xD800 ≤ r.1 && r.1 ≤ 0xDBFF then readLowSurrogate r.1 r.2
        else .ok (.ofNat r.1, r.2) := rfl
  rw [hrun, readHexUnit_hexByte h]
  change (if (0xDC00 ≤ c.toNat && c.toNat ≤ 0xDFFF) = true then _
    else if (0xD800 ≤ c.toNat && c.toNat ≤ 0xDBFF) = true then _ else _) = _
  rw [hlow, hhigh, if_neg Bool.false_ne_true, if_neg Bool.false_ne_true, Char.ofNat_toNat]

theorem readChars_escape {done : List Char} (h : readEscape cs = .ok (c, rest)) :
    readChars done ('\\' :: cs) = readChars (c :: done) rest := by
  rw [readChars]
  split
  · rename_i hread
    rw [h] at hread
    cases hread
  · rename_i hread
    rw [h] at hread
    cases hread
    rfl

/-- A character of a string is read as it is written. -/
theorem readChars_escapeChar (done : List Char) (c : Char) (rest : List Char) :
    readChars done (escapeChar c ++ rest) = readChars (c :: done) rest := by
  rw [escapeChar]
  split_ifs with hquote hbackslash hb hf hn hr ht hcontrol
  case pos | pos | pos | pos | pos | pos | pos => subst c; exact readChars_escape rfl
  case pos => exact readChars_escape (readEscape_hexByte hcontrol)
  case neg =>
    rw [List.singleton_append, readChars.eq_4 _ _ _ hquote hbackslash]
    exact if_neg hcontrol

theorem readChars_flatMap (done chars rest : List Char) :
    readChars done (chars.flatMap escapeChar ++ '"' :: rest) =
      .ok (.ofList (done.reverse ++ chars), rest) := by
  induction chars generalizing done with
  | nil => simp [readChars]
  | cons c chars ih =>
    rw [List.flatMap_cons, List.append_assoc, readChars_escapeChar, ih, List.reverse_cons,
      List.append_assoc, List.singleton_append]

/-- A text reads back from its quotes. -/
theorem readString_quote (s : String) (rest : List Char) :
    ∃ cs, quote s ++ rest = '"' :: cs ∧ readString cs = .ok (s, rest) := by
  refine ⟨s.toList.flatMap escapeChar ++ '"' :: rest, by simp [quote], ?_⟩
  rw [readString, readChars_flatMap, List.reverse_nil, List.nil_append, String.ofList_toList]

/-! ## Values without parts -/

theorem readValue_scalar (hws : IsBlank ws) (hc : ¬isJsonBlank c) (harr : c ≠ '[')
    (hobj : c ≠ '{') : readValue (fuel + 1) (ws ++ c :: cs) = readScalar (c :: cs) := by
  rw [readValue, skipBlanks_append hws, skipBlanks_cons hc]
  split
  · rename_i h
    exact absurd (List.cons_eq_cons.1 h).1 harr
  · rename_i h
    exact absurd (List.cons_eq_cons.1 h).1 hobj
  · rfl

theorem exists_cons_of_readDigits {missing : Fault} {r : List Char × List Char}
    (h : readDigits missing cs = .ok r) : ∃ c cs', cs = c :: cs' ∧ c.isDigit := by
  cases cs with
  | nil => cases h
  | cons c cs =>
    refine ⟨c, cs, rfl, ?_⟩
    by_contra hc
    rw [readDigits, List.span_eq_takeWhile_dropWhile, List.takeWhile_cons_of_neg hc,
      List.dropWhile_cons_of_neg hc] at h
    cases h

/-- A number starts with a sign or a digit. -/
theorem exists_cons_of_readNumber {r : Json × List Char} (h : readNumber cs = .ok r) :
    ∃ c cs', cs = c :: cs' ∧ (c = '-' ∨ c.isDigit) := by
  by_cases hminus : ∃ cs', cs = '-' :: cs'
  · obtain ⟨cs', rfl⟩ := hminus
    exact ⟨'-', cs', rfl, .inl rfl⟩
  · by_cases hzero : ∃ cs', cs = '0' :: cs'
    · obtain ⟨cs', rfl⟩ := hzero
      exact ⟨'0', cs', rfl, .inr rfl⟩
    · rw [readNumber] at h
      · rw [readWhole.eq_2 _ _ fun cs' hcs' => hzero ⟨cs', hcs'⟩] at h
        cases hdigits : readDigits .truncated cs with
        | error e =>
          rw [hdigits] at h
          cases h
        | ok r =>
          obtain ⟨c, cs', hcs, hc⟩ := exists_cons_of_readDigits hdigits
          exact ⟨c, cs', hcs, .inr hc⟩
      · exact fun cs' hcs' => hminus ⟨cs', hcs'⟩

theorem readValue_number {j : Json} (hws : IsBlank ws) (h : readNumber cs = .ok (j, rest)) :
    readValue (fuel + 1) (ws ++ cs) = .ok (j, rest) := by
  obtain ⟨c, cs, rfl, hc⟩ := exists_cons_of_readNumber h
  have hne (c' : Char) (hc' : ¬(c' = '-' ∨ c'.isDigit)) : c ≠ c' := by
    rintro rfl
    exact hc' hc
  have hblank : ¬isJsonBlank c := by
    simp [isJsonBlank, hne ' ' (by decide), hne '\n' (by decide), hne '\t' (by decide),
      hne '\r' (by decide)]
  rw [readValue_scalar hws hblank (hne '[' (by decide)) (hne '{' (by decide)),
    readScalar.eq_6 _ _ (hne 'n' (by decide)) (hne 't' (by decide)) (hne 'f' (by decide))
      (hne '"' (by decide)), if_pos (by simpa using hc), h]

/-! ## Values with parts -/

/-- A value is not a closing bracket. -/
theorem skipBlanks_of_readValue {r : Json × List Char} (h : readValue fuel cs = .ok r) :
    skipBlanks cs ≠ [] ∧ ∀ cs', skipBlanks cs ≠ ']' :: cs' := by
  cases fuel with
  | zero => cases h
  | succ fuel =>
    constructor
    · intro hcs
      rw [readValue, hcs] at h
      cases h
    · intro cs' hcs
      rw [readValue, hcs] at h
      cases h

theorem readValue_skipBlanks (fuel : Nat) (cs : List Char) :
    readValue fuel (skipBlanks cs) = readValue fuel cs := by
  cases fuel with
  | zero => rfl
  | succ fuel => rw [readValue, readValue, skipBlanks_skipBlanks]

/-- Brackets with nothing between them. -/
theorem readValue_empty_arr (hws : IsBlank ws) :
    readValue (fuel + 1) (ws ++ '[' :: ']' :: rest) = .ok (.arr [], rest) := by
  rw [readValue, skipBlanks_append hws, skipBlanks_cons (by decide)]
  rfl

variable {cs' : List Char} {j : Json} {items : List Json} {field : String × Json}
  {fields : List (String × Json)}

theorem readValue_arr (hws : IsBlank ws) (hitem : readValue fuel cs = .ok (j, cs'))
    (hitems : readItems fuel cs' = .ok (items, rest)) :
    readValue (fuel + 1) (ws ++ '[' :: cs) = .ok (.arr (j :: items), rest) := by
  obtain ⟨hne, hclose⟩ := skipBlanks_of_readValue hitem
  rw [readValue, skipBlanks_append hws, skipBlanks_cons (by decide)]
  split
  · rename_i hcs
    obtain rfl := (List.cons_eq_cons.1 hcs).2
    split
    · exact absurd ‹_› (hclose _)
    · exact absurd ‹_› hne
    · rw [readValue_skipBlanks, hitem]
      change (readItems fuel cs' >>= _) = _
      rw [hitems]
      rfl
  · rename_i hcs
    exact absurd (List.cons_eq_cons.1 hcs).1 (by decide)
  · rename_i hother _
    exact absurd rfl (hother _)

theorem readItems_comma (hitem : readValue fuel cs = .ok (j, cs'))
    (hitems : readItems fuel cs' = .ok (items, rest)) :
    readItems (fuel + 1) (',' :: cs) = .ok (j :: items, rest) := by
  rw [readItems, skipBlanks_cons (by decide)]
  change (readValue fuel cs >>= _) = _
  rw [hitem]
  change (readItems fuel cs' >>= _) = _
  rw [hitems]
  rfl

theorem readItems_close (hws : IsBlank ws) :
    readItems (fuel + 1) (ws ++ ']' :: rest) = .ok ([], rest) := by
  rw [readItems, skipBlanks_append hws, skipBlanks_cons (by decide)]
  rfl

/-- Braces with nothing between them. -/
theorem readValue_empty_obj (hws : IsBlank ws) :
    readValue (fuel + 1) (ws ++ '{' :: '}' :: rest) = .ok (.obj [], rest) := by
  rw [readValue, skipBlanks_append hws, skipBlanks_cons (by decide)]
  rfl

/-- A field is not a closing brace. -/
theorem skipBlanks_of_readField {r : (String × Json) × List Char} (h : readField fuel cs = .ok r)
    (cs' : List Char) : skipBlanks cs ≠ '}' :: cs' := by
  intro hcs
  cases fuel with
  | zero => cases h
  | succ fuel =>
    rw [readField, expectChar, hcs] at h
    cases h

theorem readField_skipBlanks (fuel : Nat) (cs : List Char) :
    readField fuel (skipBlanks cs) = readField fuel cs := by
  cases fuel with
  | zero => rfl
  | succ fuel => rw [readField, readField, expectChar, expectChar, skipBlanks_skipBlanks]

theorem readField_append {key : String} {ks : List Char} (hws : IsBlank ws)
    (hkey : readString ks = .ok (key, ':' :: cs)) (hvalue : readValue fuel cs = .ok (j, rest)) :
    readField (fuel + 1) (ws ++ '"' :: ks) = .ok ((key, j), rest) := by
  have hcolon : expectChar ':' (':' :: cs) = .ok cs := expectChar_cons (by decide)
  rw [readField, expectChar_append hws (by decide)]
  simp only [bind, Except.bind, hkey, hcolon, hvalue]

theorem readValue_obj (hws : IsBlank ws) (hfield : readField fuel cs = .ok (field, cs'))
    (hfields : readFields fuel cs' = .ok (fields, rest)) :
    readValue (fuel + 1) (ws ++ '{' :: cs) = .ok (.obj (field :: fields), rest) := by
  rw [readValue, skipBlanks_append hws, skipBlanks_cons (by decide)]
  split
  · rename_i hcs
    exact absurd (List.cons_eq_cons.1 hcs).1 (by decide)
  · rename_i hcs
    obtain rfl := (List.cons_eq_cons.1 hcs).2
    split
    · exact absurd ‹_› (skipBlanks_of_readField hfield _)
    · rw [readField_skipBlanks, hfield]
      change (readFields fuel cs' >>= _) = _
      rw [hfields]
      rfl
  · rename_i hother
    exact absurd rfl (hother _)

theorem readFields_comma (hfield : readField fuel cs = .ok (field, cs'))
    (hfields : readFields fuel cs' = .ok (fields, rest)) :
    readFields (fuel + 1) (',' :: cs) = .ok (field :: fields, rest) := by
  rw [readFields, skipBlanks_cons (by decide)]
  change (readField fuel cs >>= _) = _
  rw [hfield]
  change (readFields fuel cs' >>= _) = _
  rw [hfields]
  rfl

theorem readFields_close (hws : IsBlank ws) :
    readFields (fuel + 1) (ws ++ '}' :: rest) = .ok ([], rest) := by
  rw [readFields, skipBlanks_append hws, skipBlanks_cons (by decide)]
  rfl

end AutoImport.Json
