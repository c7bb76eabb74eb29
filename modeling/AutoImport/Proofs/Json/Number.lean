import AutoImport.Json.Reader
import AutoImport.Proofs.Number.Binary64

/-!
# Numbers that read back

A number reads back as it is written: a whole number if it is in the range of 64 bits
(`readNumber_writeInt`), and a floating-point number always (`readNumber_writeFloat`). What follows
it must not go on with it (`StopsNumber`).

The reader takes a number apart into digits before the point, digits after it and an exponent, and
forgets how they were written (`readNumber_append`). A floating-point number is written in one of
two forms, and in both these parts stand for the shortest decimal of the number
(`readNumber_positional_of_nonneg`, `readNumber_positional_of_neg`, `readNumber_scientific`), which
reads as the number.
-/

namespace AutoImport.Json

variable {missing : Fault} {digits whole fraction cs rest : List Char} {negative : Bool}

/-- A text after which the digits before it do not go on. -/
def StopsDigits (rest : List Char) : Prop :=
  ∀ c ∈ rest.head?, ¬c.isDigit

/-- A text after which a number does not go on. -/
def StopsNumber (rest : List Char) : Prop :=
  ∀ c ∈ rest.head?, ¬c.isDigit ∧ c ≠ '.' ∧ c ≠ 'e' ∧ c ≠ 'E'

/-- Digits of a whole number: there are some, and the first is a zero only if it is the last. -/
structure IsWhole (digits : List Char) : Prop where
  isDigit : ∀ c ∈ digits, c.isDigit
  ne_nil : digits ≠ []
  zero : digits.head? = some '0' → digits = ['0']

/-- The sign of a number, if it has one. -/
def signChars (negative : Bool) : List Char :=
  if negative then ['-'] else []

/-! ## What ends a number -/

theorem StopsNumber.stopsDigits (h : StopsNumber rest) : StopsDigits rest :=
  fun c hc => (h c hc).1

theorem stopsDigits_cons {c : Char} (hc : ¬c.isDigit) (cs : List Char) : StopsDigits (c :: cs) := by
  intro c' hc'
  obtain rfl : c = c' := by simpa using hc'
  exact hc

theorem stopsNumber_nil : StopsNumber [] := by
  simp [StopsNumber]

theorem stopsNumber_cons {c : Char} (hc : ¬c.isDigit ∧ c ≠ '.' ∧ c ≠ 'e' ∧ c ≠ 'E') :
    StopsNumber (c :: cs) := by
  intro c' hc'
  obtain rfl : c = c' := by simpa using hc'
  exact hc

/-! ## Parts of a number -/

theorem isDigit_of_mem_digits {n : Nat} {c : Char} (hc : c ∈ Nat.toDigits 10 n) : c.isDigit :=
  Nat.isDigit_of_mem_toDigits (by decide) le_rfl hc

theorem span_digits (hdigits : ∀ c ∈ digits, c.isDigit) (hrest : StopsDigits rest) :
    (digits ++ rest).span Char.isDigit = (digits, rest) := by
  rw [List.span_eq_takeWhile_dropWhile, List.takeWhile_append_of_pos hdigits,
    List.dropWhile_append_of_pos hdigits]
  cases rest with
  | nil => simp
  | cons c rest =>
    have hc : ¬c.isDigit := hrest c rfl
    rw [List.takeWhile_cons_of_neg hc, List.dropWhile_cons_of_neg hc, List.append_nil]

theorem readDigits_append (hne : digits ≠ []) (hdigits : ∀ c ∈ digits, c.isDigit)
    (hrest : StopsDigits rest) : readDigits missing (digits ++ rest) = .ok (digits, rest) := by
  rw [readDigits, span_digits hdigits hrest]
  cases digits with
  | nil => exact absurd rfl hne
  | cons c digits => rfl

theorem readWhole_append (h : IsWhole digits) (hrest : StopsDigits rest) :
    readWhole missing (digits ++ rest) = .ok (digits, rest) := by
  obtain ⟨c, ds, rfl⟩ := List.exists_cons_of_ne_nil h.ne_nil
  by_cases hc : c = '0'
  · -- A zero stands alone.
    obtain rfl : ds = [] := by simpa [hc] using h.zero (congrArg some hc)
    have hstop : ¬rest.head?.any Char.isDigit = true := by
      cases rest with
      | nil => simp
      | cons c rest => simpa using hrest c rfl
    rw [hc]
    exact if_neg hstop
  · rw [List.cons_append, readWhole.eq_2 _ _ fun rest hzero => hc (List.cons_eq_cons.1 hzero).1,
      ← List.cons_append]
    exact readDigits_append h.ne_nil h.isDigit hrest

theorem readFraction_of_stops (hrest : StopsNumber rest) :
    readFraction missing rest = .ok ([], rest) :=
  readFraction.eq_2 _ _ fun cs hcs => (hrest '.' (by simp [hcs])).2.1 rfl

theorem readExponent_of_stops (hrest : StopsNumber rest) :
    readExponent missing rest = .ok (none, rest) := by
  cases rest with
  | nil => rfl
  | cons c rest =>
    obtain ⟨-, -, he, hE⟩ := hrest c rfl
    simp [readExponent, he, hE]

/-- An exponent that is written with its sign is read. -/
theorem readExponent_append (exponent : Int) (hrest : StopsDigits rest) :
    readExponent missing ('e' :: (if exponent < 0 then '-' else '+') ::
      (Nat.toDigits 10 exponent.natAbs ++ rest)) = .ok (some exponent, rest) := by
  have hdigits : readDigits missing (Nat.toDigits 10 exponent.natAbs ++ rest) = _ :=
    readDigits_append Nat.toDigits_ne_nil (fun _ hc => isDigit_of_mem_digits hc) hrest
  have hvalue : Nat.ofDigitChars 10 (Nat.toDigits 10 exponent.natAbs) 0 = exponent.natAbs :=
    Nat.ofDigitChars_ten_toDigits
  by_cases h : exponent < 0
  · have hrun (cs : List Char) : readExponent missing ('e' :: '-' :: cs) =
        readDigits missing cs >>= fun r =>
          .ok (some (-(Nat.ofDigitChars 10 r.1 0 : Int)), r.2) := rfl
    have hexponent : -(exponent.natAbs : Int) = exponent := by omega
    rw [if_pos h, hrun, hdigits]
    change Except.ok _ = _
    rw [hvalue, hexponent]
  · have hrun (cs : List Char) : readExponent missing ('e' :: '+' :: cs) =
        readDigits missing cs >>= fun r =>
          .ok (some (Nat.ofDigitChars 10 r.1 0 : Int), r.2) := rfl
    have hexponent : (exponent.natAbs : Int) = exponent := by omega
    rw [if_neg h, hrun, hdigits]
    change Except.ok _ = _
    rw [hvalue, hexponent]

/-- A number is read part by part. -/
theorem readNumber_append {exponent : Option Int} (hwhole : IsWhole whole) (hcs : StopsDigits cs)
    {cs' : List Char} (hfraction : readFraction .truncated cs = .ok (fraction, cs'))
    (hexponent : readExponent .truncated cs' = .ok (exponent, rest)) (negative : Bool) :
    readNumber (signChars negative ++ (whole ++ cs)) =
      (numberOfParts negative whole fraction exponent).map (·, rest) := by
  have hread : readWhole .truncated (whole ++ cs) = .ok (whole, cs) := readWhole_append hwhole hcs
  cases negative with
  | true =>
    have hsigned : signChars true ++ (whole ++ cs) = '-' :: (whole ++ cs) := rfl
    rw [hsigned, readNumber]
    simp only [bind, Except.bind, hread, hfraction, hexponent]
    cases numberOfParts true whole fraction exponent <;> rfl
  | false =>
    obtain ⟨c, ds, rfl⟩ := List.exists_cons_of_ne_nil hwhole.ne_nil
    have hc : c ≠ '-' := by
      rintro rfl
      exact absurd (hwhole.isDigit '-' List.mem_cons_self) (by decide)
    have hunsigned : signChars false ++ (c :: ds ++ cs) = c :: ds ++ cs := rfl
    rw [hunsigned, readNumber]
    · simp only [bind, Except.bind, hread, hfraction, hexponent]
      cases numberOfParts false (c :: ds) fraction exponent <;> rfl
    · exact fun _ h => hc (List.cons_eq_cons.1 h).1

/-! ## Written numbers -/

theorem isWhole_toDigits (n : Nat) : IsWhole (Nat.toDigits 10 n) where
  isDigit _ hc := isDigit_of_mem_digits hc
  ne_nil := Nat.toDigits_ne_nil
  zero := by
    induction n using Nat.strongRecOn with
    | ind n ih =>
      by_cases hn : n < 10
      · intro hhead
        rw [Nat.toDigits_of_lt_base hn] at hhead ⊢
        simpa using hhead
      · -- The first digit is that of a tenth of the number, which is not zero.
        rw [Nat.toDigits_of_base_le (by decide) (by omega),
          List.head?_append_of_ne_nil _ Nat.toDigits_ne_nil]
        intro hhead
        have hzero := ih (n / 10) (by omega) hhead
        have hvalue := congrArg (Nat.ofDigitChars 10 · 0) hzero
        rw [Nat.ofDigitChars_ten_toDigits] at hvalue
        have hten : n / 10 = 0 := hvalue
        omega

/-- A whole number that fits in 64 bits is read as it is written. -/
theorem readNumber_writeInt {n : Int} (hmin : -0x8000000000000000 ≤ n)
    (hmax : n < 0x10000000000000000) (hrest : StopsNumber rest) :
    readNumber (writeInt n ++ rest) = .ok (.int n, rest) := by
  have hread := readNumber_append (isWhole_toDigits n.natAbs) hrest.stopsDigits
    (readFraction_of_stops hrest) (readExponent_of_stops hrest)
  have hvalue : Nat.ofDigitChars 10 (Nat.toDigits 10 n.natAbs) 0 = n.natAbs :=
    Nat.ofDigitChars_ten_toDigits
  rw [writeInt]
  split
  · rename_i hneg
    have hparts : numberOfParts true (Nat.toDigits 10 n.natAbs) [] none = .ok (.int n) := by
      have hn : -(n.natAbs : Int) = n := by omega
      simp only [numberOfParts, hvalue, hn]
      simp
      omega
    exact (hread true).trans (by rw [hparts]; rfl)
  · have hparts : numberOfParts false (Nat.toDigits 10 n.natAbs) [] none = .ok (.int n) := by
      have hn : (n.natAbs : Int) = n := by omega
      simp only [numberOfParts, hvalue, hn]
      simp
      omega
    exact (hread false).trans (by rw [hparts]; rfl)

/-- A number with a fraction or an exponent is the one nearest to what it says. -/
theorem numberOfParts_of_toBinary64? {exponent : Option Int} {x : Binary64}
    (hparts : fraction ≠ [] ∨ exponent ≠ none)
    (h : (Decimal.mk negative (Nat.ofDigitChars 10 (whole ++ fraction) 0)
      (exponent.getD 0 - fraction.length)).toBinary64? = some x) :
    numberOfParts negative whole fraction exponent = .ok (.float x) := by
  have hnot : (fraction.isEmpty && exponent.isNone) = false := by
    rcases hparts with h | h
    · rw [List.isEmpty_eq_false_iff.2 h, Bool.false_and]
    · rw [Option.isNone_eq_false_iff.2 (Option.isSome_iff_ne_none.2 h), Bool.and_false]
  simp only [numberOfParts, hnot, Bool.false_and, Bool.false_eq_true, if_false, h]

/-- Zeros after a number other than zero, or none after zero. -/
theorem isWhole_append_replicate {n k : Nat} (h : n = 0 → k = 0) :
    IsWhole (Nat.toDigits 10 n ++ List.replicate k '0') where
  isDigit c hc := by
    rcases List.mem_append.1 hc with hc | hc
    · exact isDigit_of_mem_digits hc
    · rw [List.eq_of_mem_replicate hc]
      rfl
  ne_nil := by simp
  zero hhead := by
    rw [List.head?_append_of_ne_nil _ Nat.toDigits_ne_nil] at hhead
    have hdigits := (isWhole_toDigits n).zero hhead
    have hn : n = 0 := by
      have hvalue := congrArg (Nat.ofDigitChars 10 · 0) hdigits
      rw [Nat.ofDigitChars_ten_toDigits] at hvalue
      exact hvalue
    rw [hdigits, h hn]
    rfl

theorem IsWhole.take {k : Nat} (h : IsWhole digits) (hk : 0 < k) : IsWhole (digits.take k) where
  isDigit c hc := h.isDigit c (List.mem_of_mem_take hc)
  ne_nil := by
    have := List.length_pos_iff.2 h.ne_nil
    rw [← List.length_pos_iff, List.length_take]
    omega
  zero hhead := by
    rw [List.head?_take, if_neg hk.ne'] at hhead
    rw [h.zero hhead, List.take_of_length_le hk]

/-- The digits of a number with so many zeros before them that there are more than `places`. -/
def paddedDigits (n places : Nat) : List Char :=
  List.replicate (places + 1 - (Nat.toDigits 10 n).length) '0' ++ Nat.toDigits 10 n

theorem isDigit_of_mem_paddedDigits {n places : Nat} {c : Char} (hc : c ∈ paddedDigits n places) :
    c.isDigit := by
  rcases List.mem_append.1 hc with hc | hc
  · rw [List.eq_of_mem_replicate hc]
    rfl
  · exact isDigit_of_mem_digits hc

theorem ofDigitChars_paddedDigits (n places : Nat) :
    Nat.ofDigitChars 10 (paddedDigits n places) 0 = n := by
  rw [paddedDigits, Nat.ofDigitChars_append, Nat.ofDigitChars_replicate_zero, mul_zero,
    Nat.ofDigitChars_ten_toDigits]

theorem lt_length_paddedDigits (n places : Nat) : places < (paddedDigits n places).length := by
  simp [paddedDigits]
  omega

/-- The digits before the point are those of a whole number. -/
theorem isWhole_take_paddedDigits (n places : Nat) :
    IsWhole ((paddedDigits n places).take ((paddedDigits n places).length - places)) := by
  by_cases h : (Nat.toDigits 10 n).length ≤ places
  · -- There is a zero before the point.
    obtain ⟨k, hk⟩ := Nat.exists_eq_add_of_le h
    have hpadded : paddedDigits n places = '0' :: (List.replicate k '0' ++ Nat.toDigits 10 n) := by
      rw [← List.cons_append, ← List.replicate_succ]
      exact congrArg (List.replicate · '0' ++ _) (by omega)
    have hone : (paddedDigits n places).length - places = 1 := by
      rw [hpadded]
      simp
      omega
    rw [hone, hpadded]
    exact ⟨by simp, by simp, fun _ => rfl⟩
  · have hpadded : paddedDigits n places = Nat.toDigits 10 n := by
      have hk : places + 1 - (Nat.toDigits 10 n).length = 0 := by omega
      exact congrArg (List.replicate · '0' ++ _) hk
    rw [hpadded]
    exact (isWhole_toDigits n).take (by omega)

/-! ## Written floating-point numbers -/

/-- A number with a point is the one nearest to what it says. -/
theorem readNumber_pointed {exponent : Option Int} {x : Binary64} (hwhole : IsWhole whole)
    (hne : fraction ≠ []) (hfraction : ∀ c ∈ fraction, c.isDigit) (hcs : StopsDigits cs)
    (hexponent : readExponent .truncated cs = .ok (exponent, rest))
    (h : (Decimal.mk negative (Nat.ofDigitChars 10 (whole ++ fraction) 0)
      (exponent.getD 0 - fraction.length)).toBinary64? = some x) :
    readNumber (signChars negative ++ (whole ++ '.' :: (fraction ++ cs))) =
      .ok (.float x, rest) := by
  have hpoint : readFraction .truncated ('.' :: (fraction ++ cs)) = .ok (fraction, cs) :=
    readDigits_append hne hfraction hcs
  rw [readNumber_append hwhole (stopsDigits_cons (by decide) _) hpoint hexponent,
    numberOfParts_of_toBinary64? (.inl hne) h]
  rfl

/-- So is a number with an exponent and no point. -/
theorem readNumber_unpointed {exponent : Int} {x : Binary64} (hwhole : IsWhole whole)
    (hrest : StopsDigits rest) (h : (Decimal.mk negative (Nat.ofDigitChars 10 whole 0)
      exponent).toBinary64? = some x) :
    readNumber (signChars negative ++ (whole ++ 'e' :: (if exponent < 0 then '-' else '+') ::
      (Nat.toDigits 10 exponent.natAbs ++ rest))) = .ok (.float x, rest) := by
  have hparts : numberOfParts negative whole [] (some exponent) = .ok (.float x) :=
    numberOfParts_of_toBinary64? (.inr (by simp)) (by simpa using h)
  rw [readNumber_append hwhole (stopsDigits_cons (by decide) _) rfl
    (readExponent_append exponent hrest), hparts]
  rfl

variable {d : Decimal} {x : Binary64}

theorem toList_sign (d : Decimal) : d.sign.toList = signChars d.negative := by
  rw [Decimal.sign, signChars]
  split <;> rfl

/-- A decimal without a fraction is written with its zeros, and one after the point. -/
theorem readNumber_positional_of_nonneg (h : d.toBinary64? = some x)
    (hzero : d.digits = 0 → d.exponent = 0) (hexponent : 0 ≤ d.exponent)
    (hrest : StopsNumber rest) :
    readNumber ((d.positional ".0").toList ++ rest) = .ok (.float x, rest) := by
  obtain ⟨e, he⟩ := Int.eq_ofNat_of_zero_le hexponent
  have hwhole : IsWhole (Nat.toDigits 10 d.digits ++ List.replicate e '0') :=
    isWhole_append_replicate fun hd => by have := hzero hd; omega
  have htext : (d.positional ".0").toList ++ rest = signChars d.negative ++
      ((Nat.toDigits 10 d.digits ++ List.replicate e '0') ++ '.' :: (['0'] ++ rest)) := by
    simp [Decimal.positional, he, toList_sign]
  have hvalue : Nat.ofDigitChars 10
      (Nat.toDigits 10 d.digits ++ List.replicate e '0' ++ ['0']) 0 = d.digits * 10 ^ (e + 1) := by
    rw [List.append_assoc, ← List.replicate_succ', Nat.ofDigitChars_append,
      Nat.ofDigitChars_ten_toDigits, Nat.ofDigitChars_replicate_zero, mul_comm]
  rw [htext]
  refine readNumber_pointed hwhole (by simp) (by simp) hrest.stopsDigits
    (readExponent_of_stops hrest) ?_
  rw [hvalue, Decimal.toBinary64?_mul_pow, ← h]
  congr 2
  simp [he]

/-- A decimal with a fraction is written with its point, and zeros before its digits. -/
theorem readNumber_positional_of_neg (h : d.toBinary64? = some x) (hexponent : d.exponent < 0)
    (hrest : StopsNumber rest) :
    readNumber ((d.positional ".0").toList ++ rest) = .ok (.float x, rest) := by
  obtain ⟨places, hplaces⟩ : ∃ places : Nat, d.exponent = -places :=
    ⟨d.exponent.natAbs, by omega⟩
  have hwhole := isWhole_take_paddedDigits d.digits places
  have hvalue := ofDigitChars_paddedDigits d.digits places
  have hlength := lt_length_paddedDigits d.digits places
  have hdigits : ∀ c ∈ paddedDigits d.digits places, c.isDigit :=
    fun _ hc => isDigit_of_mem_paddedDigits hc
  have htext : (d.positional ".0").toList ++ rest = signChars d.negative ++
      ((paddedDigits d.digits places).take ((paddedDigits d.digits places).length - places) ++
        '.' :: ((paddedDigits d.digits places).drop
          ((paddedDigits d.digits places).length - places) ++ rest)) := by
    rw [Decimal.positional, if_neg (by omega), hplaces, neg_neg, Int.toNat_natCast]
    simp [toList_sign, paddedDigits]
  rw [htext]
  generalize paddedDigits d.digits places = padded at hwhole hvalue hlength hdigits ⊢
  refine readNumber_pointed hwhole ?_ (fun c hc => hdigits c (List.mem_of_mem_drop hc))
    hrest.stopsDigits (readExponent_of_stops hrest) ?_
  · rw [ne_eq, List.drop_eq_nil_iff]
    omega
  · rw [List.take_append_drop, hvalue, ← h]
    congr 2
    simp [hplaces]
    omega

/-- A decimal that is written with its exponent is read as the nearest number. -/
theorem readNumber_scientific (h : d.toBinary64? = some x) (hrest : StopsNumber rest) :
    readNumber (d.scientific.toList ++ rest) = .ok (.float x, rest) := by
  have hpower : ((if d.leadingExponent < 0 then "e-" else "e+") ++
      d.leadingExponent.natAbs.repr).toList ++ rest =
        'e' :: (if d.leadingExponent < 0 then '-' else '+') ::
          (Nat.toDigits 10 d.leadingExponent.natAbs ++ rest) := by
    split <;> simp
  have hleading : d.leadingExponent = ((Nat.toDigits 10 d.digits).length : Int) - 1 + d.exponent :=
    rfl
  have hvalue : Nat.ofDigitChars 10 (Nat.toDigits 10 d.digits) 0 = d.digits :=
    Nat.ofDigitChars_ten_toDigits
  have hwhole := isWhole_toDigits d.digits
  rw [Decimal.scientific]
  generalize (if d.leadingExponent < 0 then "e-" else "e+") ++ d.leadingExponent.natAbs.repr = power
    at hpower ⊢
  generalize Nat.toDigits 10 d.digits = digits at hvalue hleading hwhole ⊢
  split
  · rename_i first second others
    have htext : (d.sign ++ .ofList [first, '.'] ++ .ofList (second :: others) ++ power).toList ++
        rest = signChars d.negative ++
          ([first] ++ '.' :: ((second :: others) ++ (power.toList ++ rest))) := by
      simp [toList_sign]
    obtain ⟨hfirst, hothers⟩ := List.forall_mem_cons.1 hwhole.isDigit
    rw [htext, hpower]
    refine readNumber_pointed ⟨by simpa using hfirst, by simp, by simp⟩ (by simp) hothers
      (stopsDigits_cons (by decide) _) (readExponent_append _ hrest.stopsDigits) ?_
    rw [List.singleton_append, hvalue, ← h]
    congr 2
    simp [hleading]
  · rename_i hshort
    -- There is one digit, and no point.
    have hone : digits.length = 1 := by
      obtain ⟨c, ds, rfl⟩ := List.exists_cons_of_ne_nil hwhole.ne_nil
      cases ds with
      | nil => rfl
      | cons c' ds => exact absurd rfl (hshort c c' ds)
    have htext : (d.sign ++ .ofList digits ++ power).toList ++ rest =
        signChars d.negative ++ (digits ++ (power.toList ++ rest)) := by
      simp [toList_sign]
    rw [htext, hpower]
    refine readNumber_unpointed hwhole hrest.stopsDigits ?_
    rw [hvalue, ← h]
    congr 2
    simp [hleading, hone]

/-- A floating-point number is read as it is written. -/
theorem readNumber_writeFloat (x : Binary64) (hrest : StopsNumber rest) :
    readNumber (writeFloat x ++ rest) = .ok (.float x, rest) := by
  have hread := x.toBinary64?_shortest
  rw [writeFloat]
  split
  · by_cases hexponent : 0 ≤ x.shortest.exponent
    · exact readNumber_positional_of_nonneg hread Binary64.exponent_shortest_of_digits_eq_zero
        hexponent hrest
    · exact readNumber_positional_of_neg hread (not_le.1 hexponent) hrest
  · exact readNumber_scientific hread hrest

end AutoImport.Json
