import AutoImport.Proofs.Except
import AutoImport.Proofs.Json.Reader

/-!
# Values that read back

A value reads back from its text in any layout, just if its whole numbers are in the range of 64
bits (`parse_write_iff`). Beyond it a whole number is a floating-point number for the reader, so
that no other values are read (`fits_of_parse`).

What a layout puts between the parts of a value has to be blanks (`Layout.IsBlank`). The reader
skips them, and after a number they end it, as commas and closing brackets do. So it does not matter
either what follows the text of a value, as long as it is not more of a number (`readValue_write`).
-/

namespace AutoImport.Json

variable {c : Char} {cs ws rest : List Char} {j : Json}

/-! ## Layouts -/

/-- What a layout puts between the parts of a value is blank. -/
structure Layout.IsBlank (layout : Layout) : Prop where
  newline : ∀ depth, Json.IsBlank (layout.newline depth)
  afterColon : Json.IsBlank layout.afterColon

theorem Layout.isBlank_compact : Layout.compact.IsBlank :=
  ⟨fun _ => isBlank_nil, isBlank_nil⟩

theorem Layout.isBlank_pretty : Layout.pretty.IsBlank where
  newline depth c hc := by
    rcases List.mem_cons.1 hc with rfl | hc
    · rfl
    · rw [List.eq_of_mem_replicate hc]
      rfl
  afterColon c hc := by
    rw [List.mem_singleton.1 hc]
    rfl

/-! ## Values that fit -/

mutual

/-- A value fits if its whole numbers are in the range of 64 bits, signed or not. -/
def fits : Json → Bool
  | int n => -0x8000000000000000 ≤ n && n < 0x10000000000000000
  | arr items => itemsFit items
  | obj fields => fieldsFit fields
  | _ => true

/-- All items fit. -/
def itemsFit : List Json → Bool
  | [] => true
  | item :: items => item.fits && itemsFit items

/-- The values of all fields fit. -/
def fieldsFit : List (String × Json) → Bool
  | [] => true
  | (_, value) :: fields => value.fits && fieldsFit fields

end

theorem itemsFit_eq_all (items : List Json) : itemsFit items = items.all fits := by
  induction items with
  | nil => simp [itemsFit]
  | cons item items ih => simp [itemsFit, ih]

/-! ## Written values -/

theorem StopsNumber.append (hws : IsBlank ws) (h : StopsNumber cs) : StopsNumber (ws ++ cs) := by
  cases ws with
  | nil => exact h
  | cons c ws =>
    refine stopsNumber_cons ?_
    have hc := hws c List.mem_cons_self
    simp only [isJsonBlank, Bool.or_eq_true, beq_iff_eq] at hc
    rcases hc with ((rfl | rfl) | rfl) | rfl <;> decide

variable {layout : Layout} {depth : Nat}

theorem StopsNumber.writeItems (h : StopsNumber cs) (items : List Json) :
    StopsNumber (writeItems layout depth items ++ cs) := by
  cases items with
  | nil => simpa [Json.writeItems] using h
  | cons item items =>
    rw [Json.writeItems]
    exact stopsNumber_cons (c := ',') (by decide)

theorem StopsNumber.writeFields (h : StopsNumber cs) (fields : List (String × Json)) :
    StopsNumber (writeFields layout depth fields ++ cs) := by
  cases fields with
  | nil => simpa [Json.writeFields] using h
  | cons field fields =>
    rw [Json.writeFields]
    exact stopsNumber_cons (c := ',') (by decide)

/-- Before a bracket that closes, a number ends. -/
theorem stopsNumber_close (hlayout : layout.IsBlank) (depth : Nat) (hc : c = ']' ∨ c = '}') :
    StopsNumber (layout.newline depth ++ c :: rest) := by
  refine .append (hlayout.newline depth) (stopsNumber_cons ?_)
  rcases hc with rfl | rfl <;> decide

-- The induction is on the fuel, as in the readers: each of them hands on one less than it has, and
-- a part of a value has a shorter text than the value.
mutual

/-- A value reads back. -/
theorem readValue_write (hlayout : layout.IsBlank) : (fuel : Nat) →
    ∀ ⦃depth ws rest⦄ ⦃j : Json⦄, j.fits → IsBlank ws → StopsNumber rest →
      (j.write layout depth).length < fuel →
      readValue fuel (ws ++ (j.write layout depth ++ rest)) = .ok (j, rest)
  | 0 => by intros; omega
  | fuel + 1 => by
    intro depth ws rest j hfits hws hrest hfuel
    match j with
    | .null =>
      rw [write]
      exact readValue_scalar (c := 'n') hws (by decide) (by decide) (by decide)
    | .bool true =>
      rw [write]
      exact readValue_scalar (c := 't') hws (by decide) (by decide) (by decide)
    | .bool false =>
      rw [write]
      exact readValue_scalar (c := 'f') hws (by decide) (by decide) (by decide)
    | .int n =>
      obtain ⟨hmin, hmax⟩ : -0x8000000000000000 ≤ n ∧ n < 0x10000000000000000 := by
        simpa [fits] using hfits
      rw [write]
      exact readValue_number hws (readNumber_writeInt hmin hmax hrest)
    | .float x =>
      rw [write]
      exact readValue_number hws (readNumber_writeFloat x hrest)
    | .str s =>
      obtain ⟨cs, hcs, hread⟩ := readString_quote s rest
      rw [write, hcs, readValue_scalar hws (by decide) (by decide) (by decide), readScalar, hread]
      rfl
    | .arr [] =>
      rw [write]
      exact readValue_empty_arr hws
    | .arr (item :: items) =>
      obtain ⟨hitem, hitems⟩ : item.fits ∧ itemsFit items := by
        simpa only [fits, itemsFit, Bool.and_eq_true] using hfits
      simp only [write, List.length_append, List.length_cons] at hfuel
      have hfirst : readValue fuel (layout.newline (depth + 1) ++
          (item.write layout (depth + 1) ++ (writeItems layout (depth + 1) items ++
            (layout.newline depth ++ ']' :: rest)))) = .ok (item, _) :=
        readValue_write hlayout fuel hitem (hlayout.newline (depth + 1))
          ((stopsNumber_close hlayout depth (.inl rfl)).writeItems items) (by omega)
      have hothers : readItems fuel (writeItems layout (depth + 1) items ++
          (layout.newline depth ++ ']' :: rest)) = .ok (items, rest) :=
        readItems_writeItems hlayout fuel hitems (hlayout.newline depth) (by omega)
      simpa [write] using readValue_arr hws hfirst hothers
    | .obj [] =>
      rw [write]
      exact readValue_empty_obj hws
    | .obj ((key, value) :: fields) =>
      obtain ⟨hvalue, hfields⟩ : value.fits ∧ fieldsFit fields := by
        simpa only [fits, fieldsFit, Bool.and_eq_true] using hfits
      simp only [write, List.length_append, List.length_cons] at hfuel
      have hfirst : readField fuel (layout.newline (depth + 1) ++
          (writeField layout (depth + 1) key value ++ (writeFields layout (depth + 1) fields ++
            (layout.newline depth ++ '}' :: rest)))) = .ok ((key, value), _) :=
        readField_writeField hlayout fuel hvalue (hlayout.newline (depth + 1))
          ((stopsNumber_close hlayout depth (.inr rfl)).writeFields fields) (by omega)
      have hothers : readFields fuel (writeFields layout (depth + 1) fields ++
          (layout.newline depth ++ '}' :: rest)) = .ok (fields, rest) :=
        readFields_writeFields hlayout fuel hfields (hlayout.newline depth) (by omega)
      simpa [write] using readValue_obj hws hfirst hothers

/-- The items after the first read back, with the closing bracket. -/
theorem readItems_writeItems (hlayout : layout.IsBlank) : (fuel : Nat) →
    ∀ ⦃depth ws rest items⦄, itemsFit items → IsBlank ws →
      (writeItems layout depth items).length < fuel →
      readItems fuel (writeItems layout depth items ++ (ws ++ ']' :: rest)) = .ok (items, rest)
  | 0 => by intros; omega
  | fuel + 1 => by
    intro depth ws rest items hfits hws hfuel
    match items with
    | [] =>
      rw [writeItems]
      exact readItems_close hws
    | item :: items =>
      obtain ⟨hitem, hitems⟩ : item.fits ∧ itemsFit items := by
        simpa only [itemsFit, Bool.and_eq_true] using hfits
      simp only [writeItems, List.length_append, List.length_cons] at hfuel
      have hfirst : readValue fuel (layout.newline depth ++ (item.write layout depth ++
          (writeItems layout depth items ++ (ws ++ ']' :: rest)))) = .ok (item, _) :=
        readValue_write hlayout fuel hitem (hlayout.newline depth)
          ((StopsNumber.append hws (stopsNumber_cons (by decide))).writeItems items) (by omega)
      have hothers : readItems fuel (writeItems layout depth items ++ (ws ++ ']' :: rest)) =
          .ok (items, rest) :=
        readItems_writeItems hlayout fuel hitems hws (by omega)
      simpa [writeItems] using readItems_comma hfirst hothers

/-- A field reads back. -/
theorem readField_writeField (hlayout : layout.IsBlank) : (fuel : Nat) →
    ∀ ⦃depth ws rest key⦄ ⦃value : Json⦄, value.fits → IsBlank ws → StopsNumber rest →
      (writeField layout depth key value).length < fuel →
      readField fuel (ws ++ (writeField layout depth key value ++ rest)) = .ok ((key, value), rest)
  | 0 => by intros; omega
  | fuel + 1 => by
    intro depth ws rest key value hfits hws hrest hfuel
    simp only [writeField, List.length_append, List.length_cons] at hfuel
    obtain ⟨ks, hks, hkey⟩ := readString_quote key
      (':' :: (layout.afterColon ++ (value.write layout depth ++ rest)))
    have hvalue : readValue fuel (layout.afterColon ++ (value.write layout depth ++ rest)) =
        .ok (value, rest) :=
      readValue_write hlayout fuel hfits hlayout.afterColon hrest (by omega)
    have htext : writeField layout depth key value ++ rest = '"' :: ks := by
      simpa [writeField] using hks
    rw [htext]
    exact readField_append hws hkey hvalue

/-- The fields after the first read back, with the closing brace. -/
theorem readFields_writeFields (hlayout : layout.IsBlank) : (fuel : Nat) →
    ∀ ⦃depth ws rest fields⦄, fieldsFit fields → IsBlank ws →
      (writeFields layout depth fields).length < fuel →
      readFields fuel (writeFields layout depth fields ++ (ws ++ '}' :: rest)) = .ok (fields, rest)
  | 0 => by intros; omega
  | fuel + 1 => by
    intro depth ws rest fields hfits hws hfuel
    match fields with
    | [] =>
      rw [writeFields]
      exact readFields_close hws
    | (key, value) :: fields =>
      obtain ⟨hvalue, hfields⟩ : value.fits ∧ fieldsFit fields := by
        simpa only [fieldsFit, Bool.and_eq_true] using hfits
      simp only [writeFields, List.length_append, List.length_cons] at hfuel
      have hfirst : readField fuel (layout.newline depth ++ (writeField layout depth key value ++
          (writeFields layout depth fields ++ (ws ++ '}' :: rest)))) = .ok ((key, value), _) :=
        readField_writeField hlayout fuel hvalue (hlayout.newline depth)
          ((StopsNumber.append hws (stopsNumber_cons (by decide))).writeFields fields) (by omega)
      have hothers : readFields fuel (writeFields layout depth fields ++ (ws ++ '}' :: rest)) =
          .ok (fields, rest) :=
        readFields_writeFields hlayout fuel hfields hws (by omega)
      simpa [writeFields] using readFields_comma hfirst hothers

end

/-! ## Values that are read -/

/-- What is read as a number is a whole number only if that is in the range of 64 bits. -/
theorem fits_of_numberOfParts {negative : Bool} {whole fraction : List Char}
    {exponent : Option Int} (h : numberOfParts negative whole fraction exponent = .ok j) :
    j.fits := by
  rw [numberOfParts] at h
  split_ifs at h with hpositive hnegative
  · cases h
    simp only [Bool.and_eq_true, decide_eq_true_eq] at hpositive
    simp only [fits, Bool.and_eq_true, decide_eq_true_eq]
    omega
  · cases h
    simp only [Bool.and_eq_true, decide_eq_true_eq] at hnegative
    simp only [fits, Bool.and_eq_true, decide_eq_true_eq]
    omega
  · dsimp only at h
    split at h
    · cases h
      simp [fits]
    · cases h

theorem fits_of_readNumber (h : readNumber cs = .ok (j, rest)) : j.fits := by
  obtain ⟨⟨whole, cs'⟩, -, h⟩ := exists_of_bind_eq_ok h
  obtain ⟨⟨fraction, cs'⟩, -, h⟩ := exists_of_bind_eq_ok h
  obtain ⟨⟨exponent, cs'⟩, -, h⟩ := exists_of_bind_eq_ok h
  obtain ⟨value, hvalue, h⟩ := exists_of_bind_eq_ok h
  cases h
  exact fits_of_numberOfParts hvalue

theorem fits_of_map {α : Type} {x : Except Fault α} {f : α → Json × List Char}
    (h : x.map f = .ok (j, rest)) (hfits : ∀ a, (f a).1.fits) : j.fits := by
  cases x with
  | error e => cases h
  | ok a =>
    obtain rfl : (f a).1 = j := congrArg Prod.fst (Except.ok.inj h)
    exact hfits a

theorem fits_of_readScalar (h : readScalar cs = .ok (j, rest)) : j.fits := by
  unfold readScalar at h
  split at h
  · cases h
  · exact fits_of_map h fun _ => by simp [fits]
  · exact fits_of_map h fun _ => by simp [fits]
  · exact fits_of_map h fun _ => by simp [fits]
  · exact fits_of_map h fun _ => by simp [fits]
  · split_ifs at h
    exact fits_of_readNumber h

mutual

theorem fits_of_readValue : (fuel : Nat) → ∀ ⦃cs rest j⦄, readValue fuel cs = .ok (j, rest) → j.fits
  | 0 => fun _ _ _ h => by cases h
  | fuel + 1 => by
    intro cs rest j h
    rw [readValue] at h
    split at h
    · split at h
      · cases h
        simp [fits, itemsFit]
      · cases h
      · obtain ⟨⟨item, cs'⟩, hitem, h⟩ := exists_of_bind_eq_ok h
        obtain ⟨⟨items, cs'⟩, hitems, h⟩ := exists_of_bind_eq_ok h
        cases h
        simp only [fits, itemsFit, fits_of_readValue fuel hitem, fits_of_readItems fuel hitems,
          Bool.and_self]
    · split at h
      · cases h
        simp [fits, fieldsFit]
      · obtain ⟨⟨⟨key, value⟩, cs'⟩, hfield, h⟩ := exists_of_bind_eq_ok h
        obtain ⟨⟨fields, cs'⟩, hfields, h⟩ := exists_of_bind_eq_ok h
        cases h
        simp only [fits, fieldsFit, fits_of_readField fuel hfield, fits_of_readFields fuel hfields,
          Bool.and_self]
    · exact fits_of_readScalar h

theorem fits_of_readItems : (fuel : Nat) → ∀ ⦃cs rest items⦄,
    readItems fuel cs = .ok (items, rest) → itemsFit items
  | 0 => fun _ _ _ h => by cases h
  | fuel + 1 => by
    intro cs rest items h
    rw [readItems] at h
    split at h
    · cases h
    · cases h
      simp [itemsFit]
    · obtain ⟨⟨item, cs'⟩, hitem, h⟩ := exists_of_bind_eq_ok h
      obtain ⟨⟨items, cs'⟩, hitems, h⟩ := exists_of_bind_eq_ok h
      cases h
      simp only [itemsFit, fits_of_readValue fuel hitem, fits_of_readItems fuel hitems,
        Bool.and_self]
    · cases h

theorem fits_of_readField : (fuel : Nat) → ∀ ⦃cs rest key value⦄,
    readField fuel cs = .ok ((key, value), rest) → value.fits
  | 0 => fun _ _ _ _ h => by cases h
  | fuel + 1 => by
    intro cs rest key value h
    rw [readField] at h
    obtain ⟨_, -, h⟩ := exists_of_bind_eq_ok h
    obtain ⟨_, -, h⟩ := exists_of_bind_eq_ok h
    obtain ⟨_, -, h⟩ := exists_of_bind_eq_ok h
    obtain ⟨⟨value', cs'⟩, hvalue, h⟩ := exists_of_bind_eq_ok h
    cases h
    exact fits_of_readValue fuel hvalue

theorem fits_of_readFields : (fuel : Nat) → ∀ ⦃cs rest fields⦄,
    readFields fuel cs = .ok (fields, rest) → fieldsFit fields
  | 0 => fun _ _ _ h => by cases h
  | fuel + 1 => by
    intro cs rest fields h
    rw [readFields] at h
    split at h
    · cases h
    · cases h
      simp [fieldsFit]
    · obtain ⟨⟨⟨key, value⟩, cs'⟩, hfield, h⟩ := exists_of_bind_eq_ok h
      obtain ⟨⟨fields, cs'⟩, hfields, h⟩ := exists_of_bind_eq_ok h
      cases h
      simp only [fieldsFit, fits_of_readField fuel hfield, fits_of_readFields fuel hfields,
        Bool.and_self]
    · cases h

end

/-- Whatever is read fits. -/
theorem fits_of_parse {text : String} (h : parse text = .ok j) : j.fits := by
  obtain ⟨⟨value, rest⟩, hvalue, h⟩ := exists_of_bind_eq_ok h
  obtain ⟨-, -, h⟩ := exists_of_bind_eq_ok h
  cases h
  exact fits_of_readValue _ hvalue

/-! ## Whole texts -/

/-- A value reads back from its whole text, in any layout, just if it fits. -/
theorem parse_write_iff (hlayout : layout.IsBlank) :
    parse (.ofList (j.write layout depth)) = .ok j ↔ j.fits := by
  refine ⟨fits_of_parse, fun h => ?_⟩
  have hread : readValue (2 * (j.write layout depth).length + 2) (j.write layout depth ++ []) =
      .ok (j, []) :=
    readValue_write hlayout _ h isBlank_nil stopsNumber_nil (by omega)
  rw [List.append_nil] at hread
  rw [parse, String.toList_ofList, hread]
  rfl

theorem parse_pretty (h : j.fits) : parse j.pretty = .ok j :=
  (parse_write_iff Layout.isBlank_pretty).2 h

end AutoImport.Json
