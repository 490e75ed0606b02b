import Mathlib.Algebra.Order.Field.Rat
import Mathlib.Data.Nat.Cast.Field
import Mathlib.Tactic.Linarith
import Mathlib.Tactic.Ring
import SignedControl.Number.Binary

/-!
# What rounding to a format gives

Rounding to the nearest number of a format moves a number, and a number that was within some bounds
may be thought to fall out of them. It does not, if the bounds are numbers of the format themselves,
as the whole numbers of up to `precision` binary digits are.

* `Binary.value`: the rational number that a binary number stands for; `Binary.below_iff` and
  `Binary.above_iff`: the comparisons are those of rational numbers.
* `leadingPlace_le`, `lt_leadingPlace`: where the first digit of a quotient stands.
* `Format.has_of_round?`: what rounding gives is a number of the format.
* `Format.round?_le`, `Format.le_round?`: it stays on the same side of every such whole number.
  `Format.value_mem_of_round?`: so it stays between two of them.
* `Format.exists_round?`: below such a whole number there is always something to round to.
* `Format.exists_round?_natCast`: such a whole number is itself what it is rounded to.
-/

namespace SignedControl.Number

/-! ## Powers of two -/

theorem two_zpow_pos (e : Int) : (0 : Rat) < 2 ^ e := zpow_pos two_pos e

/-- How the places above and below the point make up a power of two. -/
theorem two_pow_toNat (e : Int) :
    ((Nat.pow 2 e.toNat : Nat) : Rat) = 2 ^ e * (Nat.pow 2 (-e).toNat : Nat) := by
  simp only [Nat.pow_eq, Nat.cast_pow, Nat.cast_ofNat]
  rw [← zpow_natCast, ← zpow_natCast, ← zpow_add₀ two_ne_zero]
  congr 1
  omega

theorem two_pow_pos (k : Nat) : (0 : Rat) < (Nat.pow 2 k : Nat) := by
  exact_mod_cast Nat.two_pow_pos k

/-! ## Values -/

namespace Binary

/-- The number without its sign. -/
def magnitude (x : Binary) : Rat := x.significand * 2 ^ x.exponent

/-- The number. -/
def value (x : Binary) : Rat := if x.negative then -x.magnitude else x.magnitude

theorem magnitude_nonneg (x : Binary) : 0 ≤ x.magnitude :=
  mul_nonneg (Nat.cast_nonneg _) (two_zpow_pos _).le

theorem den_cast_pos (x : Binary) : (0 : Rat) < x.den := by exact_mod_cast x.den_pos

theorem num_eq (x : Binary) : (x.num : Rat) = x.magnitude * x.den := by
  rw [num, den, Nat.cast_mul, two_pow_toNat, magnitude, mul_assoc]

theorem magnitude_eq (x : Binary) : x.magnitude = x.num / x.den := by
  rw [num_eq, mul_div_cancel_right₀ _ x.den_cast_pos.ne']

theorem num_pos_iff (x : Binary) : 0 < x.num ↔ 0 < x.magnitude := by
  rw [← Nat.cast_pos (α := Rat), num_eq, mul_pos_iff_of_pos_right x.den_cast_pos]

/-- Without its sign a number is the same, unless it is below zero. -/
theorem value_eq_magnitude {x : Binary} (h : 0 ≤ x.value) : x.value = x.magnitude := by
  have hx := x.magnitude_nonneg
  unfold value at h ⊢
  split
  · next hneg =>
    rw [if_pos hneg] at h
    linarith
  · rfl

/-- A whole number is the same without its fractional part. -/
theorem magnitude_of_isWhole {x : Binary} (h : x.isWhole = true) : x.magnitude = x.whole := by
  have hdvd : x.den ∣ x.num := Nat.dvd_of_mod_eq_zero (of_decide_eq_true h)
  rw [magnitude_eq, whole, Nat.cast_div_charZero hdvd]

theorem below_iff (x : Binary) (n : Nat) : x.below n = true ↔ x.value < n := by
  unfold below value
  split
  · have hn : (0 : Rat) ≤ n := Nat.cast_nonneg n
    have hx := x.magnitude_nonneg
    rw [decide_eq_true_iff, num_pos_iff, ← Nat.cast_pos (α := Rat)]
    constructor
    · rintro (h | h) <;> linarith
    · intro h
      by_contra hnot
      simp only [not_or, not_lt] at hnot
      linarith
  · rw [decide_eq_true_iff, ← Nat.cast_lt (α := Rat), num_eq, Nat.cast_mul,
      mul_lt_mul_iff_left₀ x.den_cast_pos]

theorem above_iff (x : Binary) (n : Nat) : x.above n = true ↔ n < x.value := by
  unfold above value
  split
  · next hneg =>
    have hn : (0 : Rat) ≤ n := Nat.cast_nonneg n
    have hx := x.magnitude_nonneg
    simp only [hneg, Bool.not_true, Bool.false_and, Bool.false_eq_true, false_iff, not_lt]
    linarith
  · next hneg =>
    rw [Bool.not_eq_true] at hneg
    rw [hneg, Bool.not_false, Bool.true_and, decide_eq_true_iff, ← Nat.cast_lt (α := Rat), num_eq,
      Nat.cast_mul, mul_lt_mul_iff_left₀ x.den_cast_pos]

end Binary

/-! ## Rounding a quotient -/

/-- Rounding does not pass a whole number. -/
theorem roundDiv_le {num den k : Nat} (h : num ≤ k * den) : roundDiv num den ≤ k := by
  rcases Nat.eq_zero_or_pos den with rfl | hden
  · simp only [Nat.mul_zero, Nat.le_zero_eq] at h
    simp [h, roundDiv]
  have hdiv := Nat.div_add_mod' num den
  unfold roundDiv
  split
  · exact Nat.div_le_of_le_mul (Nat.mul_comm k den ▸ h)
  · -- There is a rest, so the quotient is below the bound.
    refine Nat.succ_le_of_lt ((Nat.div_lt_iff_lt_mul hden).mpr (Nat.lt_of_le_of_ne h ?_))
    rintro rfl
    rw [Nat.mul_mod_left] at *
    omega

theorem le_roundDiv {num den k : Nat} (hden : 0 < den) (h : k * den ≤ num) :
    k ≤ roundDiv num den := by
  have hdiv := (Nat.le_div_iff_mul_le hden).mpr h
  unfold roundDiv
  split <;> omega

/-! ## The place of the first digit -/

section Scaled

variable {num den : Nat} (hden : 0 < den) (place : Int)
include hden

/-- A quotient beside a power of two, in whole numbers. -/
theorem mul_pow_lt_iff :
    num * Nat.pow 2 (-place).toNat < den * Nat.pow 2 place.toNat ↔ (num / den : Rat) < 2 ^ place := by
  have hden' : (0 : Rat) < den := Nat.cast_pos.mpr hden
  rw [← Nat.cast_lt (α := Rat), Nat.cast_mul, Nat.cast_mul, two_pow_toNat place, ← mul_assoc,
    mul_lt_mul_iff_left₀ (two_pow_pos _), div_lt_iff₀ hden', mul_comm (den : Rat)]

/-- A quotient below a multiple of a power of two, in whole numbers. -/
theorem mul_pow_le_iff {k : Nat} :
    num * Nat.pow 2 (-place).toNat ≤ k * (den * Nat.pow 2 place.toNat) ↔
      (num / den : Rat) ≤ k * 2 ^ place := by
  have hden' : (0 : Rat) < den := Nat.cast_pos.mpr hden
  rw [← Nat.cast_le (α := Rat), Nat.cast_mul, Nat.cast_mul, Nat.cast_mul, two_pow_toNat place,
    ← mul_assoc, ← mul_assoc, mul_le_mul_iff_left₀ (two_pow_pos _), div_le_iff₀ hden',
    mul_right_comm]

/-- A quotient above a multiple of a power of two, in whole numbers. -/
theorem le_mul_pow_iff {k : Nat} :
    k * (den * Nat.pow 2 place.toNat) ≤ num * Nat.pow 2 (-place).toNat ↔
      k * 2 ^ place ≤ (num / den : Rat) := by
  have hden' : (0 : Rat) < den := Nat.cast_pos.mpr hden
  rw [← Nat.cast_le (α := Rat), Nat.cast_mul, Nat.cast_mul, Nat.cast_mul, two_pow_toNat place,
    ← mul_assoc, ← mul_assoc, mul_le_mul_iff_left₀ (two_pow_pos _), le_div_iff₀ hden',
    mul_right_comm]

end Scaled

theorem pow_log2_le {n : Nat} (hn : 0 < n) : (2 : Rat) ^ (n.log2 : Int) ≤ n := by
  have h := Nat.log2_self_le hn.ne'
  rw [zpow_natCast]
  exact_mod_cast h

theorem lt_pow_log2 (n : Nat) : (n : Rat) < 2 ^ ((n.log2 : Int) + 1) := by
  have h := Nat.lt_log2_self (n := n)
  rw [← Nat.cast_succ, zpow_natCast]
  exact_mod_cast h

theorem leadingPlace_le {num den : Nat} (hnum : 0 < num) (hden : 0 < den) :
    (2 : Rat) ^ leadingPlace num den ≤ num / den := by
  have hden' : (0 : Rat) < den := Nat.cast_pos.mpr hden
  unfold leadingPlace
  simp only [mul_pow_lt_iff hden]
  split
  · rw [le_div_iff₀ hden']
    calc (2 : Rat) ^ ((num.log2 : Int) - den.log2 - 1) * den
        ≤ 2 ^ ((num.log2 : Int) - den.log2 - 1) * 2 ^ ((den.log2 : Int) + 1) :=
          mul_le_mul_of_nonneg_left (lt_pow_log2 den).le (two_zpow_pos _).le
      _ = 2 ^ (num.log2 : Int) := by
          rw [← zpow_add₀ two_ne_zero]
          congr 1
          omega
      _ ≤ num := pow_log2_le hnum
  · next h => exact not_lt.mp h

theorem lt_leadingPlace {num den : Nat} (hden : 0 < den) :
    (num / den : Rat) < 2 ^ (leadingPlace num den + 1) := by
  have hden' : (0 : Rat) < den := Nat.cast_pos.mpr hden
  unfold leadingPlace
  simp only [mul_pow_lt_iff hden]
  split
  · next h =>
    rw [sub_add_cancel]
    exact h
  · rw [div_lt_iff₀ hden']
    calc (num : Rat) < 2 ^ ((num.log2 : Int) + 1) := lt_pow_log2 num
      _ = 2 ^ ((num.log2 : Int) - den.log2 + 1) * 2 ^ (den.log2 : Int) := by
          rw [← zpow_add₀ two_ne_zero]
          congr 1
          omega
      _ ≤ 2 ^ ((num.log2 : Int) - den.log2 + 1) * den :=
          mul_le_mul_of_nonneg_left (pow_log2_le hden) (two_zpow_pos _).le

/-! ## Rounding to a format -/

namespace Format

/-- A format with digits on both sides of the point. -/
structure Proper (fmt : Format) : Prop where
  /-- There is at least one digit. -/
  precision_pos : 0 < fmt.precision
  /-- The last digit may stand just before the point, or lower. -/
  minExponent_le : fmt.minExponent ≤ 0
  /-- Or higher. -/
  le_maxExponent : 0 ≤ fmt.maxExponent

theorem proper_binary32 : binary32.Proper := ⟨by decide, by decide, by decide⟩

theorem proper_binary64 : binary64.Proper := ⟨by decide, by decide, by decide⟩

/-- The numbers of a format. -/
structure Has (fmt : Format) (x : Binary) : Prop where
  /-- There are not too many digits. -/
  significand_lt : x.significand < Nat.pow 2 fmt.precision
  /-- The last digit does not stand too low. -/
  minExponent_le : fmt.minExponent ≤ x.exponent
  /-- Nor too high. -/
  exponent_le : x.exponent ≤ fmt.maxExponent

/-- A number with `m` for its digits. If rounding up has made them one too many, there is a zero at
their end. -/
def carried (fmt : Format) (negative : Bool) (m : Nat) (place : Int) : Binary :=
  if m = Nat.pow 2 fmt.precision then ⟨negative, Nat.pow 2 (fmt.precision - 1), place + 1⟩
  else ⟨negative, m, place⟩

/-- The digits of a rounded quotient. -/
def significandOf (fmt : Format) (num den : Nat) : Nat :=
  roundDiv (num * Nat.pow 2 (-fmt.lastPlace num den).toNat)
    (den * Nat.pow 2 (fmt.lastPlace num den).toNat)

variable {fmt : Format} {negative : Bool} {num den : Nat} {x : Binary}

theorem round?_eq_some_iff (hnum : 0 < num) :
    fmt.round? negative num den = some x ↔
      fmt.carried negative (fmt.significandOf num den) (fmt.lastPlace num den) = x ∧
        x.exponent ≤ fmt.maxExponent := by
  rw [round?, if_neg hnum.ne']
  change (if fmt.maxExponent < (fmt.carried negative (fmt.significandOf num den)
    (fmt.lastPlace num den)).exponent then none else some _) = some x ↔ _
  split
  · next h =>
    simp only [reduceCtorEq, false_iff, not_and, not_le]
    rintro rfl
    exact h
  · next h =>
    rw [Option.some_inj]
    constructor
    · rintro rfl
      exact ⟨rfl, not_lt.mp h⟩
    · exact fun hx => hx.1

@[simp] theorem negative_carried (fmt : Format) (negative : Bool) (m : Nat) (place : Int) :
    (fmt.carried negative m place).negative = negative := by
  unfold carried
  split <;> rfl

/-- A carry does not change the number. -/
theorem magnitude_carried (hfmt : 0 < fmt.precision) (negative : Bool) (m : Nat) (place : Int) :
    (fmt.carried negative m place).magnitude = m * 2 ^ place := by
  unfold carried
  split
  · next h =>
    have hsucc : fmt.precision = fmt.precision - 1 + 1 := by omega
    rw [h, Binary.magnitude, Nat.pow_eq, Nat.pow_eq, zpow_add_one₀ two_ne_zero]
    conv => rhs; rw [hsucc]
    push_cast
    ring
  · rfl

theorem minExponent_le_lastPlace (fmt : Format) (num den : Nat) :
    fmt.minExponent ≤ fmt.lastPlace num den := le_max_left _ _

/-- Before the last place there are no more than `precision` digits. -/
theorem leadingPlace_lt (fmt : Format) (num den : Nat) :
    leadingPlace num den + 1 ≤ fmt.precision + fmt.lastPlace num den := by
  have h : leadingPlace num den - (fmt.precision - 1) ≤ fmt.lastPlace num den := le_max_right _ _
  omega

theorem significandOf_le (hden : 0 < den) {k : Nat}
    (h : (num / den : Rat) ≤ k * 2 ^ fmt.lastPlace num den) : fmt.significandOf num den ≤ k :=
  roundDiv_le ((mul_pow_le_iff hden _).mpr h)

theorem le_significandOf (hden : 0 < den) {k : Nat}
    (h : k * 2 ^ fmt.lastPlace num den ≤ (num / den : Rat)) : k ≤ fmt.significandOf num den :=
  le_roundDiv (Nat.mul_pos hden (Nat.two_pow_pos _)) ((le_mul_pow_iff hden _).mpr h)

/-- There are `precision` digits at most, or rounding up has made them one more. -/
theorem significandOf_le_pow (fmt : Format) (num : Nat) {den : Nat} (hden : 0 < den) :
    fmt.significandOf num den ≤ Nat.pow 2 fmt.precision := by
  refine significandOf_le hden ?_
  have hle := zpow_le_zpow_right₀ (one_le_two (α := Rat)) (fmt.leadingPlace_lt num den)
  calc (num / den : Rat) ≤ 2 ^ (leadingPlace num den + 1) := (lt_leadingPlace hden).le
    _ ≤ 2 ^ (fmt.precision + fmt.lastPlace num den) := hle
    _ = (Nat.pow 2 fmt.precision : Nat) * 2 ^ fmt.lastPlace num den := by
        rw [zpow_add₀ two_ne_zero, zpow_natCast, Nat.pow_eq]
        push_cast
        rfl

/-- What rounding gives is a number of the format. -/
theorem has_of_round? (hfmt : fmt.Proper) (hden : 0 < den)
    (h : fmt.round? negative num den = some x) : fmt.Has x := by
  rcases Nat.eq_zero_or_pos num with rfl | hnum
  · cases h
    exact ⟨Nat.two_pow_pos _, le_refl _, hfmt.minExponent_le.trans hfmt.le_maxExponent⟩
  · obtain ⟨rfl, hexp⟩ := (round?_eq_some_iff hnum).mp h
    have hplace := fmt.minExponent_le_lastPlace num den
    have hdigits := significandOf_le_pow fmt num hden
    refine ⟨?_, ?_, hexp⟩
    · unfold carried
      split
      · exact Nat.pow_lt_pow_right (by decide) (Nat.sub_lt hfmt.precision_pos Nat.one_pos)
      · next hne => exact Nat.lt_of_le_of_ne hdigits hne
    · unfold carried
      split
      · exact hplace.trans (Int.le_add_one (le_refl _))
      · exact hplace

/-- The number that rounding gives. -/
theorem magnitude_of_round? (hfmt : fmt.Proper) (hnum : 0 < num)
    (h : fmt.round? negative num den = some x) :
    x.magnitude = fmt.significandOf num den * 2 ^ fmt.lastPlace num den := by
  obtain ⟨rfl, -⟩ := (round?_eq_some_iff hnum).mp h
  exact magnitude_carried hfmt.precision_pos _ _ _

theorem negative_of_round? (h : fmt.round? negative num den = some x) : x.negative = negative := by
  rcases Nat.eq_zero_or_pos num with rfl | hnum
  · cases h
    rfl
  · obtain ⟨rfl, -⟩ := (round?_eq_some_iff hnum).mp h
    exact negative_carried _ _ _ _

/-- A whole number is a multiple of the last place, if that is not before the point. -/
theorem exists_mul_pow (n : Nat) {place : Int} (h : place ≤ 0) :
    ∃ k : Nat, (k : Rat) * 2 ^ place = n := by
  refine ⟨n * Nat.pow 2 (-place).toNat, ?_⟩
  have hpow := two_pow_toNat place
  rw [Int.toNat_of_nonpos h, Nat.pow_eq, pow_zero, Nat.cast_one] at hpow
  rw [Nat.cast_mul, mul_assoc, mul_comm _ ((2 : Rat) ^ place), ← hpow, mul_one]

/-- A quotient whose last place is before the point has all its digits there. -/
theorem le_div_of_lastPlace_pos (hfmt : fmt.Proper) (hnum : 0 < num) (hden : 0 < den)
    (h : 0 < fmt.lastPlace num den) :
    (Nat.pow 2 (fmt.precision - 1) : Nat) * 2 ^ fmt.lastPlace num den ≤ (num / den : Rat) := by
  have hleading : leadingPlace num den = (fmt.precision - 1 : Nat) + fmt.lastPlace num den := by
    have hpos := hfmt.precision_pos
    have hmin := hfmt.minExponent_le
    unfold lastPlace at h ⊢
    omega
  have hle := leadingPlace_le hnum hden
  rwa [hleading, zpow_add₀ two_ne_zero, zpow_natCast, ← Nat.cast_ofNat, ← Nat.cast_pow] at hle

/-- All digits there make more than any whole number of the format. -/
theorem lt_of_lastPlace_pos (hfmt : fmt.Proper) (h : 0 < fmt.lastPlace num den) {n : Nat}
    (hn : n < Nat.pow 2 fmt.precision) :
    (n : Rat) < (Nat.pow 2 (fmt.precision - 1) : Nat) * 2 ^ fmt.lastPlace num den := by
  have hpos := hfmt.precision_pos
  calc (n : Rat) < (Nat.pow 2 fmt.precision : Nat) := Nat.cast_lt.mpr hn
    _ = 2 ^ (fmt.precision : Int) := by rw [zpow_natCast, Nat.pow_eq, Nat.cast_pow, Nat.cast_ofNat]
    _ ≤ 2 ^ ((fmt.precision - 1 : Nat) + fmt.lastPlace num den) :=
        zpow_le_zpow_right₀ one_le_two (by omega)
    _ = (Nat.pow 2 (fmt.precision - 1) : Nat) * 2 ^ fmt.lastPlace num den := by
        rw [zpow_add₀ two_ne_zero, zpow_natCast, Nat.pow_eq, Nat.cast_pow, Nat.cast_ofNat]

/-- So the last place of a quotient that is at most such a number is not before the point. -/
theorem lastPlace_nonpos (hfmt : fmt.Proper) (hnum : 0 < num) (hden : 0 < den) {n : Nat}
    (hn : n < Nat.pow 2 fmt.precision) (hle : (num / den : Rat) ≤ n) :
    fmt.lastPlace num den ≤ 0 := by
  by_contra hpos
  rw [not_le] at hpos
  have hdiv := le_div_of_lastPlace_pos hfmt hnum hden hpos
  linarith [lt_of_lastPlace_pos hfmt hpos hn]

/-- There is a number of the format near a quotient that is at most such a number. -/
theorem exists_round? (hfmt : fmt.Proper) (negative : Bool) (hden : 0 < den) {n : Nat}
    (hn : n < Nat.pow 2 fmt.precision) (hle : (num / den : Rat) ≤ n) :
    ∃ x, fmt.round? negative num den = some x := by
  rcases Nat.eq_zero_or_pos num with rfl | hnum
  · exact ⟨_, rfl⟩
  · have hplace := lastPlace_nonpos hfmt hnum hden hn hle
    refine ⟨_, (round?_eq_some_iff hnum).mpr ⟨rfl, le_trans ?_ hfmt.le_maxExponent⟩⟩
    unfold carried
    split
    · next hcarry =>
      -- Just before the point there is no carry: the digits are at most `n`.
      by_contra hpos
      have hzero : fmt.lastPlace num den = 0 := by
        simp only [not_le] at hpos
        omega
      have hdigits : fmt.significandOf num den ≤ n :=
        significandOf_le hden (by rwa [hzero, zpow_zero, mul_one])
      omega
    · exact hplace

/-- Rounding does not bring a number above a whole number that it is not above. -/
theorem round?_le (hfmt : fmt.Proper) (hden : 0 < den)
    (h : fmt.round? negative num den = some x) {n : Nat} (hn : n < Nat.pow 2 fmt.precision)
    (hle : (num / den : Rat) ≤ n) : x.magnitude ≤ n := by
  rcases Nat.eq_zero_or_pos num with rfl | hnum
  · cases h
    simp [zero, Binary.magnitude]
  · obtain ⟨k, hk⟩ := exists_mul_pow n (lastPlace_nonpos hfmt hnum hden hn hle)
    rw [← hk] at hle ⊢
    rw [magnitude_of_round? hfmt hnum h]
    exact mul_le_mul_of_nonneg_right (Nat.cast_le.mpr (significandOf_le hden hle))
      (two_zpow_pos _).le

/-- Nor below one that it is not below. -/
theorem le_round? (hfmt : fmt.Proper) (hden : 0 < den)
    (h : fmt.round? negative num den = some x) {n : Nat} (hn : n < Nat.pow 2 fmt.precision)
    (hle : n ≤ (num / den : Rat)) : n ≤ x.magnitude := by
  rcases Nat.eq_zero_or_pos num with rfl | hnum
  · rw [Nat.cast_zero, zero_div] at hle
    exact hle.trans x.magnitude_nonneg
  · rw [magnitude_of_round? hfmt hnum h]
    rcases le_or_gt (fmt.lastPlace num den) 0 with hplace | hplace
    · obtain ⟨k, hk⟩ := exists_mul_pow n hplace
      rw [← hk] at hle ⊢
      exact mul_le_mul_of_nonneg_right (Nat.cast_le.mpr (le_significandOf hden hle))
        (two_zpow_pos _).le
    · have hdigits := le_significandOf hden (le_div_of_lastPlace_pos hfmt hnum hden hplace)
      exact (lt_of_lastPlace_pos hfmt hplace hn).le.trans
        (mul_le_mul_of_nonneg_right (Nat.cast_le.mpr hdigits) (two_zpow_pos _).le)

/-- Such a whole number is not changed by rounding. -/
theorem exists_round?_natCast (hfmt : fmt.Proper) (negative : Bool) {n : Nat}
    (hn : n < Nat.pow 2 fmt.precision) :
    ∃ x, fmt.round? negative n 1 = some x ∧ x.negative = negative ∧ x.magnitude = n := by
  have hquotient : ((n : Nat) / (1 : Nat) : Rat) = n := by rw [Nat.cast_one, div_one]
  obtain ⟨x, hx⟩ := exists_round? hfmt negative Nat.one_pos hn hquotient.le
  have hle := round?_le hfmt Nat.one_pos hx hn hquotient.le
  have hge := le_round? hfmt Nat.one_pos hx hn hquotient.ge
  exact ⟨x, hx, negative_of_round? hx, le_antisymm hle hge⟩

/-- A number between two such whole numbers stays between them, a negative zero among others. -/
theorem value_mem_of_round? (hfmt : fmt.Proper) {y : Binary}
    (h : fmt.round? x.negative x.num x.den = some y) {lo hi : Nat}
    (hhi : hi < Nat.pow 2 fmt.precision) (hlo : lo ≤ x.value) (hle : x.value ≤ hi) :
    lo ≤ y.value ∧ y.value ≤ hi := by
  have hnonneg : 0 ≤ x.value := le_trans (Nat.cast_nonneg lo) hlo
  have hlohi : lo ≤ hi := by exact_mod_cast hlo.trans hle
  rw [Binary.value_eq_magnitude hnonneg, Binary.magnitude_eq] at hlo hle
  have hylo := le_round? hfmt x.den_pos h (hlohi.trans_lt hhi) hlo
  have hyhi := round?_le hfmt x.den_pos h hhi hle
  suffices hy : 0 ≤ y.value by
    rw [Binary.value_eq_magnitude hy]
    exact ⟨hylo, hyhi⟩
  unfold Binary.value
  split
  · next hneg =>
    -- A number with a minus that is not below zero is zero, and so is what it is rounded to.
    have hxneg : x.negative = true := negative_of_round? h ▸ hneg
    have hx : x.magnitude ≤ (0 : Nat) := by
      rw [Binary.value, if_pos hxneg] at hnonneg
      rw [Nat.cast_zero]
      linarith
    rw [Binary.magnitude_eq] at hx
    have hzero := round?_le hfmt x.den_pos h (Nat.two_pow_pos _) hx
    rw [Nat.cast_zero] at hzero
    linarith
  · exact y.magnitude_nonneg

end Format

end SignedControl.Number
