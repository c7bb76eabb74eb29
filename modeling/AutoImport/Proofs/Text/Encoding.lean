import Mathlib.Data.List.Basic

/-!
# Texts as bytes

The bytes of a text in UTF-8 (`encode`), put together from those of its characters. Decoding gives
the text back (`fromUTF8?_encode`), and whatever can be decoded are the bytes of a text
(`exists_eq_encode`).

A character below 128 is one byte, its number, and this byte is no part of any other character
(`ofNat_mem_encode_iff`). So a line feed can be looked for in the bytes as well as in the text. And
the order of texts can be told from their bytes (`encode_lt_encode`).
-/

namespace AutoImport.Text

variable {c : Char} {cs : List Char}

/-- The bytes of a text. -/
def encode (cs : List Char) : List UInt8 :=
  cs.flatMap String.utf8EncodeChar

@[simp] theorem encode_append (cs ds : List Char) : encode (cs ++ ds) = encode cs ++ encode ds :=
  List.flatMap_append

/-- What is encoded are the bytes of a string. -/
theorem toList_data_toUTF8 (s : String) : s.toUTF8.data.toList = encode s.toList := by
  rw [String.toUTF8_eq_toByteArray, ← String.utf8Encode_toList, List.utf8Encode,
    List.data_toByteArray]
  rfl

/-! ## Decoding -/

/-- The bytes of a text are decoded to the text. -/
theorem fromUTF8?_encode (cs : List Char) :
    String.fromUTF8? ⟨(encode cs).toArray⟩ = some (.ofList cs) := by
  have hbytes : (⟨(encode cs).toArray⟩ : ByteArray) = (String.ofList cs).toByteArray := by
    rw [String.toByteArray_ofList, List.utf8Encode]
    exact ByteArray.ext (List.data_toByteArray).symm
  rw [hbytes, String.fromUTF8?, dif_pos (String.isValidUTF8 _)]
  rfl

/-- Bytes that can be decoded are those of a text. -/
theorem exists_eq_encode {bytes : List UInt8}
    (h : (String.fromUTF8? ⟨bytes.toArray⟩).isSome) : ∃ cs, bytes = encode cs := by
  rw [String.fromUTF8?] at h
  split at h
  · rename_i hvalid
    obtain ⟨cs, hcs⟩ := hvalid
    refine ⟨cs, ?_⟩
    have hdata := congrArg (fun b : ByteArray => b.data.toList) hcs
    rw [List.utf8Encode] at hdata
    rwa [List.data_toByteArray, List.toList_toArray] at hdata
  · cases h

/-! ## Characters of one byte -/

/-- A byte below 128 belongs to no character but the one that has it as its number. -/
theorem utf8EncodeChar_of_mem {b : UInt8} (hb : b.toNat < 128) (h : b ∈ String.utf8EncodeChar c) :
    c.toNat = b.toNat ∧ String.utf8EncodeChar c = [b] := by
  rw [String.utf8EncodeChar] at h ⊢
  split at h
  · rename_i hc
    obtain rfl := List.mem_singleton.1 h
    rw [if_pos hc]
    refine ⟨?_, rfl⟩
    rw [UInt8.toNat_ofNat', Nat.mod_eq_of_lt (by omega)]
    rfl
  · -- Every byte of a longer character has its highest bit set.
    exfalso
    split_ifs at h <;>
      simp only [List.mem_cons, List.not_mem_nil, or_false, ← UInt8.toNat_inj,
        UInt8.toNat_ofNat'] at h <;>
      omega

/-- A character below 128 is encoded as its number. -/
theorem utf8EncodeChar_of_lt (hc : c.toNat < 128) :
    String.utf8EncodeChar c = [.ofNat c.toNat] := by
  rw [String.utf8EncodeChar]
  exact if_pos (Nat.le_of_lt_succ hc)

/-- The byte of a character below 128 is found where the character is. -/
theorem ofNat_mem_encode_iff (hc : c.toNat < 128) : .ofNat c.toNat ∈ encode cs ↔ c ∈ cs := by
  have hb : (UInt8.ofNat c.toNat).toNat = c.toNat := by
    rw [UInt8.toNat_ofNat', Nat.mod_eq_of_lt (by omega)]
  rw [encode, List.mem_flatMap]
  constructor
  · rintro ⟨d, hd, hmem⟩
    obtain ⟨hnumber, -⟩ := utf8EncodeChar_of_mem (by rwa [hb]) hmem
    rwa [← Char.toNat_inj.1 (hnumber.trans hb)]
  · intro hmem
    exact ⟨c, hmem, by simp [utf8EncodeChar_of_lt hc]⟩

/-- Line feeds of a text and of its bytes are the same. -/
theorem lineFeed_mem_encode_iff : 10 ∈ encode cs ↔ '\n' ∈ cs :=
  ofNat_mem_encode_iff (c := '\n') (by decide)

/-- Carriage returns of a text and of its bytes are the same. -/
theorem carriageReturn_mem_encode_iff : 13 ∈ encode cs ↔ '\r' ∈ cs :=
  ofNat_mem_encode_iff (c := '\r') (by decide)

/-! ## Order -/

/-- A character with a lower number has lower bytes, whatever follows them. -/
theorem utf8EncodeChar_append_lt {c d : Char} (h : c < d) (bytes bytes' : List UInt8) :
    String.utf8EncodeChar c ++ bytes < String.utf8EncodeChar d ++ bytes' := by
  have hlt : c.val.toNat < d.val.toNat := h
  have hd : d.val.toNat < 0x110000 := by
    have := d.valid
    rw [UInt32.isValidChar, Nat.isValidChar] at this
    omega
  -- The bytes of a character are the digits of its number to the base 64.
  have hdigits (n : Nat) : n / 4096 = n / 64 / 64 ∧ n / 262144 = n / 64 / 64 / 64 := by omega
  rw [String.utf8EncodeChar, String.utf8EncodeChar]
  split_ifs <;>
    simp only [List.cons_append, List.nil_append, List.cons_lt_cons_iff, UInt8.lt_iff_toNat_lt,
      ← UInt8.toNat_inj, UInt8.toNat_ofNat', hdigits] <;>
    omega

/-- The order of texts is that of their bytes. -/
theorem encode_lt_encode {ds : List Char} (h : cs < ds) : encode cs < encode ds := by
  induction h with
  | nil =>
    rename_i d ds
    have hne : encode (d :: ds) ≠ [] := by simp [encode, String.utf8EncodeChar_ne_nil]
    obtain ⟨byte, bytes, hbytes⟩ := List.exists_cons_of_ne_nil hne
    exact hbytes ▸ List.nil_lt_cons byte bytes
  | rel h => exact utf8EncodeChar_append_lt h _ _
  | cons _ ih => exact List.append_left_lt ih

/-- The order of strings is that of their bytes. -/
theorem toList_data_toUTF8_lt {s t : String} (h : s < t) :
    s.toUTF8.data.toList < t.toUTF8.data.toList := by
  rw [toList_data_toUTF8, toList_data_toUTF8]
  exact encode_lt_encode (String.lt_iff.1 h)

end AutoImport.Text
