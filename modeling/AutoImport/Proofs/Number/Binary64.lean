import AutoImport.Number.Binary64
import Mathlib.Algebra.Order.Field.Rat
import Mathlib.Data.Int.Log
import Mathlib.Data.Rat.Floor
import Mathlib.Tactic.FieldSimp
import Mathlib.Tactic.Linarith
import Mathlib.Tactic.NormNum
import Mathlib.Tactic.Positivity
import Mathlib.Tactic.Ring

/-!
# Decimals that read back

The shortest decimal of a number reads as that number (`Binary64.toBinary64?_shortest`). Most of the
decimals that are tried are found by reading them; the one that stands behind them is exact, and has
to be read rightly for a reason.

What a decimal reads as is computed on quotients of natural numbers, which grow and shrink by powers
of two and ten on the way. It depends on the value of the quotient alone
(`Binary64.ofRatio?_congr`), which is where rational numbers come in.

* `scaleRatio_eq`, `roundHalfEven_congr`, `Binary64.leadingBit_eq_log`: what each step of the
  computation says of the value;
* `Binary64.ofRatio?_of_eq`: a quotient with the value of a number is rounded to that number;
* `Binary64.toBinary64?_exactDecimal`: so the exact decimal reads as the number, as it is neither
  too large nor too small to be looked at;
* `Decimal.toBinary64?_normalize`: zeros at the end make no difference.
-/

namespace AutoImport

/-! ## Quotients -/

section Quotients

variable {base num den num' den' : Nat}

theorem scaleRatio_den_pos (hbase : 0 < base) (hden : 0 < den) (power : Int) :
    0 < (scaleRatio base num den power).2 := by
  rw [scaleRatio]
  split
  · exact hden
  · exact Nat.mul_pos hden (Nat.pow_pos hbase)

/-- A quotient that is scaled is multiplied by the power. -/
theorem scaleRatio_eq (hbase : 0 < base) (num den : Nat) (power : Int) :
    ((scaleRatio base num den power).1 : ℚ) / (scaleRatio base num den power).2 =
      num / den * (base : ℚ) ^ power := by
  have hne : (base : ℚ) ≠ 0 := by exact_mod_cast hbase.ne'
  rw [scaleRatio]
  split
  · rename_i hpower
    obtain ⟨p, rfl⟩ := Int.eq_ofNat_of_zero_le hpower
    simp [Nat.pow_eq]
    ring
  · rename_i hpower
    obtain ⟨p, rfl⟩ : ∃ p : Nat, power = -p := ⟨power.natAbs, by omega⟩
    simp [Nat.pow_eq, zpow_neg, div_eq_mul_inv]
    ring

/-- A whole number is not rounded. -/
theorem roundHalfEven_one (n : Nat) : roundHalfEven n 1 = n := by
  simp [roundHalfEven, Nat.mod_one]

/-- Rounding does not look at a common factor. -/
theorem roundHalfEven_mul {c : Nat} (hc : 0 < c) (num den : Nat) :
    roundHalfEven (num * c) (den * c) = roundHalfEven num den := by
  have hdiv : num * c / (den * c) = num / den := Nat.mul_div_mul_right _ _ hc
  have hmod : num * c % (den * c) = num % den * c := Nat.mul_mod_mul_right _ _ _
  rw [roundHalfEven, roundHalfEven, hdiv, hmod]
  have hlt : 2 * (num % den * c) < den * c ↔ 2 * (num % den) < den := by
    rw [← mul_assoc, Nat.mul_lt_mul_right hc]
  have heq : 2 * (num % den * c) = den * c ↔ 2 * (num % den) = den := by
    rw [← mul_assoc, Nat.mul_left_inj hc.ne']
  simp [hlt, heq]

/-- Equal quotients are rounded to the same number. -/
theorem roundHalfEven_congr (hden : 0 < den) (hden' : 0 < den')
    (h : (num : ℚ) / den = num' / den') : roundHalfEven num den = roundHalfEven num' den' := by
  have hcross : num * den' = num' * den := by
    have hne : (den : ℚ) ≠ 0 := by exact_mod_cast hden.ne'
    have hne' : (den' : ℚ) ≠ 0 := by exact_mod_cast hden'.ne'
    rw [div_eq_div_iff hne hne'] at h
    exact_mod_cast h
  calc roundHalfEven num den = roundHalfEven (num * den') (den * den') :=
        (roundHalfEven_mul hden' num den).symm
    _ = roundHalfEven (num' * den) (den' * den) := by rw [hcross, mul_comm den]
    _ = roundHalfEven num' den' := roundHalfEven_mul hden num' den'

end Quotients

/-! ## Nearest numbers -/

namespace Binary64

variable {num den num' den' : Nat}

/-- A quotient is above the power of two before that of the difference of its leading bits. -/
theorem zpow_log2_sub_lt_div (hnum : 0 < num) (hden : 0 < den) :
    (2 : ℚ) ^ ((num.log2 : Int) - den.log2 - 1) < num / den := by
  have hden' : (0 : ℚ) < den := by exact_mod_cast hden
  have hn : (2 : ℚ) ^ (num.log2 : Int) ≤ num := by
    rw [zpow_natCast]
    exact_mod_cast Nat.log2_self_le hnum.ne'
  have hd : (den : ℚ) < 2 ^ ((den.log2 : Int) + 1) := by
    rw [← Nat.cast_succ, zpow_natCast]
    exact_mod_cast Nat.lt_log2_self
  rw [sub_sub, zpow_sub₀ two_ne_zero]
  exact div_lt_div₀' hn hd (by positivity) hden'

/-- It is below the power after that. -/
theorem div_lt_zpow_log2_sub (num : Nat) (hden : 0 < den) :
    (num : ℚ) / den < 2 ^ ((num.log2 : Int) - den.log2 + 1) := by
  have hn : (num : ℚ) < 2 ^ ((num.log2 : Int) + 1) := by
    rw [← Nat.cast_succ, zpow_natCast]
    exact_mod_cast Nat.lt_log2_self
  have hd : (2 : ℚ) ^ (den.log2 : Int) ≤ den := by
    rw [zpow_natCast]
    exact_mod_cast Nat.log2_self_le hden.ne'
  rw [sub_add_eq_add_sub, zpow_sub₀ two_ne_zero]
  exact div_lt_div₀ hn hd (zpow_pos two_pos _).le (zpow_pos two_pos _)

/-- The leading bit is told by the quotient. -/
theorem leadingBit_eq_log (hnum : 0 < num) (hden : 0 < den) :
    leadingBit num den = Int.log 2 ((num : ℚ) / den) := by
  have hpos : (0 : ℚ) < num / den := by
    have hden' : (0 : ℚ) < den := by exact_mod_cast hden
    positivity
  have hlower := zpow_log2_sub_lt_div hnum hden
  have hupper := div_lt_zpow_log2_sub num hden
  -- Of the two exponents that are left, the test finds the right one.
  rw [leadingBit]
  generalize (num.log2 : Int) - den.log2 = k at hlower hupper ⊢
  have htest : (scaleRatio 2 num den (-k)).2 ≤ (scaleRatio 2 num den (-k)).1 ↔
      (2 : ℚ) ^ k ≤ num / den := by
    have hscale := scaleRatio_eq two_pos num den (-k)
    have hpos' : (0 : ℚ) < (scaleRatio 2 num den (-k)).2 := by
      exact_mod_cast scaleRatio_den_pos two_pos hden _
    rw [← Nat.cast_le (α := ℚ), ← one_le_div hpos', hscale, Nat.cast_two, zpow_neg,
      ← div_eq_mul_inv, one_le_div (zpow_pos two_pos _)]
  dsimp only
  refine le_antisymm ((Int.zpow_le_iff_le_log one_lt_two hpos).1 ?_)
    (Int.lt_add_one_iff.1 ((Int.lt_zpow_iff_log_lt one_lt_two hpos).1 ?_))
  · split
    · exact htest.1 ‹_›
    · exact hlower.le
  · split
    · exact hupper
    · rw [sub_add_cancel]
      exact not_le.1 (htest.not.1 ‹_›)

/-- The nearest number to a quotient is told by the quotient. -/
theorem ofRatio?_congr (hden : 0 < den) (hden' : 0 < den') (h : (num : ℚ) / den = num' / den')
    (negative : Bool) : ofRatio? negative num den = ofRatio? negative num' den' := by
  have hzero : num = 0 ↔ num' = 0 := by
    have hne : (den : ℚ) ≠ 0 := by exact_mod_cast hden.ne'
    have hne' : (den' : ℚ) ≠ 0 := by exact_mod_cast hden'.ne'
    have hq : (num : ℚ) / den = 0 ↔ (num' : ℚ) / den' = 0 := by rw [h]
    simpa [hne, hne'] using hq
  rw [ofRatio?, ofRatio?]
  by_cases hnum : num = 0
  · rw [if_pos hnum, if_pos (hzero.1 hnum)]
  · have hleading : leadingBit num den = leadingBit num' den' := by
      rw [leadingBit_eq_log (by omega) hden, leadingBit_eq_log (by omega) hden', h]
    rw [if_neg hnum, if_neg (hzero.not.1 hnum), hleading]
    dsimp only
    rw [roundHalfEven_congr (scaleRatio_den_pos two_pos hden _)
      (scaleRatio_den_pos two_pos hden' _)
      ((scaleRatio_eq two_pos num den _).trans
        ((congrArg (· * _) h).trans (scaleRatio_eq two_pos num' den' _).symm))]

end Binary64

/-! ## Decimals -/

/-- A number has at most as many digits as the power of ten that it is below. -/
theorem decimalLength_le_iff {n k : Nat} (hk : 0 < k) : decimalLength n ≤ k ↔ n < 10 ^ k :=
  Nat.length_toDigits_le_iff (by decide) hk

theorem decimalLength_pos (n : Nat) : 0 < decimalLength n :=
  Nat.length_toDigits_pos

theorem decimalLength_mul_pow {n : Nat} (hn : n ≠ 0) (k : Nat) :
    decimalLength (n * 10 ^ k) = decimalLength n + k := by
  refine le_antisymm ?_ ?_
  · have hlt : n < 10 ^ decimalLength n := (decimalLength_le_iff (decimalLength_pos n)).1 le_rfl
    rw [decimalLength_le_iff (by have := decimalLength_pos n; omega), Nat.pow_add]
    exact Nat.mul_lt_mul_of_pos_right hlt (by positivity)
  · have hlt : n * 10 ^ k < 10 ^ decimalLength (n * 10 ^ k) :=
      (decimalLength_le_iff (decimalLength_pos _)).1 le_rfl
    -- The zeros alone take less than all the digits.
    have hk : 10 ^ k < 10 ^ decimalLength (n * 10 ^ k) :=
      (Nat.le_mul_of_pos_left _ (Nat.pos_of_ne_zero hn)).trans_lt hlt
    obtain ⟨j, hj⟩ := Nat.exists_eq_add_of_lt ((Nat.pow_lt_pow_iff_right (by decide)).1 hk)
    rw [hj, add_assoc, add_comm k, Nat.pow_add] at hlt
    have hle := (decimalLength_le_iff (Nat.succ_pos j)).2 (Nat.lt_of_mul_lt_mul_right hlt)
    omega

namespace Decimal

/-- Zeros at the end of the digits count like the exponent. -/
theorem toBinary64?_mul_pow (negative : Bool) (digits : Nat) (exponent : Int) (k : Nat) :
    toBinary64? ⟨negative, digits * 10 ^ k, exponent⟩ =
      toBinary64? ⟨negative, digits, exponent + k⟩ := by
  by_cases hzero : digits = 0
  · simp [toBinary64?, hzero]
  · have hne : digits * 10 ^ k ≠ 0 := by positivity
    have hmagnitude : ((decimalLength digits + k : Nat) : Int) + exponent =
        decimalLength digits + (exponent + k) := by omega
    have hvalue : (((scaleRatio 10 (digits * 10 ^ k) 1 exponent).1 : ℚ) /
        (scaleRatio 10 (digits * 10 ^ k) 1 exponent).2) =
        (scaleRatio 10 digits 1 (exponent + k)).1 / (scaleRatio 10 digits 1 (exponent + k)).2 := by
      rw [scaleRatio_eq (by decide), scaleRatio_eq (by decide)]
      push_cast
      rw [zpow_add₀ (by norm_num), zpow_natCast]
      ring
    simp only [toBinary64?, decimalLength_mul_pow hzero, hmagnitude, hzero, hne]
    rw [Binary64.ofRatio?_congr (scaleRatio_den_pos (by decide) one_pos _)
      (scaleRatio_den_pos (by decide) one_pos _) hvalue]

/-- A decimal without the zeros at its end is nearest to the same number. -/
theorem toBinary64?_normalize (d : Decimal) : d.normalize.toBinary64? = d.toBinary64? := by
  have hgo (fuel digits : Nat) (exponent : Int) :
      (normalize.go d fuel digits exponent).toBinary64? =
        toBinary64? ⟨d.negative, digits, exponent⟩ := by
    induction fuel generalizing digits exponent with
    | zero => rfl
    | succ fuel ih =>
      rw [normalize.go]
      split
      · rename_i h
        obtain ⟨-, hmod⟩ : digits ≠ 0 ∧ digits % 10 = 0 := by simpa using h
        have hdigits : digits / 10 * 10 ^ 1 = digits := by omega
        rw [ih, ← Nat.cast_one, ← toBinary64?_mul_pow, hdigits]
      · rfl
  exact hgo _ d.digits d.exponent

end Decimal

namespace Binary64

/-- The value of a number other than zero. -/
theorem value_pos {x : Binary64} (hx : x.significand ≠ 0) :
    (0 : ℚ) < x.significand * 2 ^ x.exponent :=
  mul_pos (by exact_mod_cast Nat.pos_of_ne_zero hx) (zpow_pos two_pos _)

/-- The exponent of a number is found from its leading bit: it uses at most 53 bits, and 53 unless
    the exponent is the smallest. -/
theorem max_leadingBit_of_eq {x : Binary64} (hx : x.significand ≠ 0) {num den : Nat}
    (hnum : 0 < num) (hden : 0 < den) (h : (num : ℚ) / den = x.significand * 2 ^ x.exponent) :
    max (leadingBit num den - 52) (-1074) = x.exponent := by
  have hlt : x.significand < 2 ^ 53 := x.canonical.1
  have hmin : -1074 ≤ x.exponent := x.canonical.2.1
  have hpos : (0 : ℚ) < num / den := by
    rw [h]
    exact value_pos hx
  rw [leadingBit_eq_log hnum hden]
  have hupper : Int.log 2 ((num : ℚ) / den) < x.exponent + 53 := by
    refine (Int.lt_zpow_iff_log_lt one_lt_two hpos).1 ?_
    rw [h, Nat.cast_two, zpow_add₀ two_ne_zero, mul_comm]
    exact mul_lt_mul_of_pos_left (by exact_mod_cast hlt) (zpow_pos two_pos _)
  rcases x.canonical.2.2.2 with hm | hsmallest
  · have hlower : x.exponent + 52 ≤ Int.log 2 ((num : ℚ) / den) := by
      refine (Int.zpow_le_iff_le_log one_lt_two hpos).1 ?_
      rw [h, Nat.cast_two, zpow_add₀ two_ne_zero, mul_comm (x.significand : ℚ)]
      exact mul_le_mul_of_nonneg_left (by exact_mod_cast hm) (zpow_pos two_pos _).le
    omega
  · omega

/-- The nearest number to a number is that number. -/
theorem ofRatio?_of_eq (x : Binary64) (hx : x.significand ≠ 0) {num den : Nat} (hden : 0 < den)
    (h : (num : ℚ) / den = x.significand * 2 ^ x.exponent) :
    ofRatio? x.negative num den = some x := by
  have hnum : num ≠ 0 := by
    rintro rfl
    have hpos := value_pos hx
    simp [← h] at hpos
  have hexponent := max_leadingBit_of_eq hx (Nat.pos_of_ne_zero hnum) hden h
  have hsignificand : roundHalfEven (scaleRatio 2 num den (-x.exponent)).1
      (scaleRatio 2 num den (-x.exponent)).2 = x.significand := by
    refine (roundHalfEven_congr (scaleRatio_den_pos two_pos hden _) one_pos ?_).trans
      (roundHalfEven_one x.significand)
    rw [scaleRatio_eq two_pos, h, mul_assoc, Nat.cast_two, ← zpow_add₀ two_ne_zero]
    simp
  rw [ofRatio?, if_neg hnum]
  dsimp only
  rw [hexponent, hsignificand,
    if_neg (show x.significand ≠ Nat.pow 2 53 from Nat.ne_of_lt x.canonical.1)]
  exact dif_pos x.canonical

/-- A decimal with the value of a number, and of a magnitude that is tried, reads as it. -/
theorem toBinary64?_of_eq (x : Binary64) (hx : x.significand ≠ 0) {digits : Nat} {exponent : Int}
    (h : (digits : ℚ) * 10 ^ exponent = x.significand * 2 ^ x.exponent)
    (hlower : -330 ≤ (decimalLength digits : Int) + exponent)
    (hupper : (decimalLength digits : Int) + exponent ≤ 310) :
    (Decimal.mk x.negative digits exponent).toBinary64? = some x := by
  have hdigits : digits ≠ 0 := by
    rintro rfl
    have hpos := value_pos hx
    simp [← h] at hpos
  have hsmall : ¬(decide (digits = 0) ||
      decide ((decimalLength digits : Int) + exponent < -330)) = true := by
    simp [hdigits, hlower]
  rw [Decimal.toBinary64?]
  dsimp only
  rw [if_neg hsmall, if_neg (by omega)]
  refine ofRatio?_of_eq x hx (scaleRatio_den_pos (by decide) one_pos _) ?_
  rw [scaleRatio_eq (by decide), ← h]
  simp

/-- A whole number of the format has few enough digits to be looked at. -/
theorem decimalLength_mul_two_pow_le {m q : Nat} (hm : m < 2 ^ 53) (hq : q ≤ 971) :
    decimalLength (m * 2 ^ q) ≤ 310 := by
  rw [decimalLength_le_iff (by decide)]
  calc m * 2 ^ q < 2 ^ 53 * 2 ^ q := by gcongr
    _ ≤ 2 ^ 53 * 2 ^ 971 := by gcongr; decide
    _ < 10 ^ 310 := by decide +kernel

theorem decimalLength_mul_five_pow_le {m : Nat} (hm : m < 2 ^ 53) (p : Nat) :
    decimalLength (m * 5 ^ p) ≤ 16 + p := by
  rw [decimalLength_le_iff (by omega)]
  calc m * 5 ^ p < 2 ^ 53 * 5 ^ p := by gcongr
    _ ≤ 10 ^ 16 * 10 ^ p := Nat.mul_le_mul (by decide) (Nat.pow_le_pow_left (by decide) p)
    _ = 10 ^ (16 + p) := (Nat.pow_add 10 16 p).symm

/-- A number of the smallest exponent has enough digits to be looked at. -/
theorem le_decimalLength_mul_five_pow {m p : Nat} (hm : 0 < m) (hp : p ≤ 1074) :
    p ≤ decimalLength (m * 5 ^ p) + 330 := by
  by_contra hshort
  have hfive : 5 ^ p < 10 ^ decimalLength (m * 5 ^ p) :=
    (Nat.le_mul_of_pos_left _ hm).trans_lt ((decimalLength_le_iff (decimalLength_pos _)).1 le_rfl)
  generalize decimalLength (m * 5 ^ p) = l at hshort hfive
  -- The power of five would leave too much of the power of ten to that of two.
  have htwo (k : Nat) (hk : l + k ≤ p) : 10 ^ k < 2 ^ p := by
    refine Nat.lt_of_mul_lt_mul_left (a := 10 ^ l) ?_
    calc 10 ^ l * 10 ^ k = 10 ^ (l + k) := (Nat.pow_add 10 l k).symm
      _ ≤ 10 ^ p := Nat.pow_le_pow_right (by decide) hk
      _ = 5 ^ p * 2 ^ p := Nat.mul_pow 5 2 p
      _ < 10 ^ l * 2 ^ p := Nat.mul_lt_mul_of_pos_right hfive (Nat.two_pow_pos p)
  have hmono (n : Nat) (hn : p ≤ n) : 2 ^ p ≤ 2 ^ n := Nat.pow_le_pow_right (by decide) hn
  exact absurd ((htwo 331 (by omega)).trans_le (hmono 1074 hp)) (by decide +kernel)

/-- The exact decimal of a number reads as it. -/
theorem toBinary64?_exactDecimal (x : Binary64) (hx : x.significand ≠ 0) :
    x.exactDecimal.toBinary64? = some x := by
  have hlt : x.significand < 2 ^ 53 := x.canonical.1
  have hmin : -1074 ≤ x.exponent := x.canonical.2.1
  have hmax : x.exponent ≤ 971 := x.canonical.2.2.1
  rw [exactDecimal]
  split
  · rename_i hexponent
    obtain ⟨q, hq⟩ := Int.eq_ofNat_of_zero_le hexponent
    have hlength := decimalLength_mul_two_pow_le hlt (show q ≤ 971 by omega)
    rw [hq, Int.toNat_natCast, Nat.pow_eq]
    refine toBinary64?_of_eq x hx ?_ (by omega) (by omega)
    rw [hq]
    simp
  · rename_i hexponent
    obtain ⟨p, hp⟩ : ∃ p : Nat, x.exponent = -p := ⟨x.exponent.natAbs, by omega⟩
    have hshort := decimalLength_mul_five_pow_le hlt p
    have hlong := le_decimalLength_mul_five_pow (Nat.pos_of_ne_zero hx) (show p ≤ 1074 by omega)
    rw [hp, neg_neg, Int.toNat_natCast, Nat.pow_eq]
    refine toBinary64?_of_eq x hx ?_ (by omega) (by omega)
    rw [hp, show (10 : ℚ) = 5 * 2 by norm_num, mul_zpow, zpow_neg, zpow_natCast, zpow_neg,
      zpow_natCast]
    push_cast
    field_simp

/-- The shortest decimal of a number reads as it. -/
theorem toBinary64?_shortest (x : Binary64) : x.shortest.toBinary64? = some x := by
  rw [shortest]
  split
  · rename_i hzero
    obtain ⟨negative, m, q, hcanonical⟩ := x
    -- There is one zero of each sign.
    obtain rfl : m = 0 := hzero
    obtain rfl : q = -1074 := hcanonical.2.2.2.resolve_left (by decide)
    rfl
  · rename_i hne
    dsimp only
    rw [Decimal.toBinary64?_normalize]
    cases hfind : ((List.range' 1 17).flatMap x.neighbours).find?
        (·.toBinary64? == some x) with
    | none => exact toBinary64?_exactDecimal x hne
    | some d =>
      have hread := List.find?_some hfind
      exact beq_iff_eq.1 hread

/-- Only zero has no digits but zero, and then the shortest decimal is that. -/
theorem exponent_shortest_of_digits_eq_zero {x : Binary64} (h : x.shortest.digits = 0) :
    x.shortest.exponent = 0 := by
  have hread := x.toBinary64?_shortest
  rw [Decimal.toBinary64?, h] at hread
  have hzero : x.significand = 0 :=
    (congrArg Binary64.significand (Option.some.inj hread)).symm
  rw [shortest, if_pos hzero]

end Binary64

end AutoImport
