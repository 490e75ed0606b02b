import Mathlib.Data.List.TakeWhile
import SignedControl.Number.Decimal
import SignedControl.Proofs.Number.Rounding

/-!
# Whole numbers in decimal digits

A whole number is written as its decimal digits, perhaps with zeros in front and with a minus. What
is read from such a text, however long it is, is the number rounded to the precision that there is:
the number itself if it has few enough binary digits, and an infinity if it is beyond every number
of the format.

* `ofDigits_numeral`: the digits spell the number.
* `Decimal.toExtended_eq_finite_iff`: a whole number is read as what it is rounded to.
* `Extended.ofChars?_signed`: no digits are taken for anything but a whole number.
-/

namespace SignedControl.Number

/-! ## Digits -/

/-- A whole number in decimal digits, with some zeros in front. -/
def numeral (zeros n : Nat) : List Char := List.replicate zeros '0' ++ Nat.toDigits 10 n

/-- Digits with a minus, or without one. -/
def signed (negative : Bool) (digits : List Char) : List Char :=
  if negative then '-' :: digits else digits

variable {zeros n : Nat} {negative : Bool}

theorem numeral_ne_nil (zeros n : Nat) : numeral zeros n ≠ [] := by
  simp [numeral, Nat.toDigits_ne_nil]

theorem isDigit_of_mem_numeral {c : Char} (h : c ∈ numeral zeros n) : c.isDigit = true := by
  rcases List.mem_append.mp h with h | h
  · rw [List.eq_of_mem_replicate h]
    decide
  · exact Nat.isDigit_of_mem_toDigits (by decide) (by decide) h

/-- The digits spell the number; zeros in front do not count. -/
theorem ofDigits_numeral (zeros n : Nat) : ofDigits (numeral zeros n) = n := by
  have h : Nat.ofDigitChars 10 (numeral zeros n) 0 = n := by
    rw [numeral, Nat.ofDigitChars_append, Nat.ofDigitChars_replicate_zero, Nat.mul_zero,
      Nat.ofDigitChars_ten_toDigits]
  exact h

/-! ## Reading them -/

theorem splitSign_signed (negative : Bool) (zeros n : Nat) :
    splitSign (signed negative (numeral zeros n)) = (negative, numeral zeros n) := by
  cases negative with
  | true => rfl
  | false =>
    have hdigit : ∀ c ∈ numeral zeros n, c.isDigit = true := fun _ => isDigit_of_mem_numeral
    rw [signed, if_neg Bool.false_ne_true]
    unfold splitSign
    split
    · next h => exact absurd (hdigit '-' (h ▸ List.mem_cons_self)) (by decide)
    · next h => exact absurd (hdigit '+' (h ▸ List.mem_cons_self)) (by decide)
    · rfl

theorem splitPoint_numeral (zeros n : Nat) :
    splitPoint (numeral zeros n) = (numeral zeros n, [], []) := by
  have htake : (numeral zeros n).takeWhile Char.isDigit = numeral zeros n :=
    List.takeWhile_eq_self_iff.mpr fun _ => isDigit_of_mem_numeral
  have hdrop : (numeral zeros n).dropWhile Char.isDigit = [] :=
    List.dropWhile_eq_nil_iff.mpr fun _ => isDigit_of_mem_numeral
  rw [splitPoint, htake, hdrop]

theorem Decimal.ofChars?_signed (negative : Bool) (zeros n : Nat) :
    Decimal.ofChars? (signed negative (numeral zeros n)) = some ⟨negative, n, 0⟩ := by
  have hne : (numeral zeros n).isEmpty = false :=
    List.isEmpty_eq_false_iff.mpr (numeral_ne_nil zeros n)
  simp only [Decimal.ofChars?, splitSign_signed, splitPoint_numeral, hne, Bool.false_and,
    Bool.false_eq_true, if_false, exponent?, List.append_nil, ofDigits_numeral, Option.map_some]
  rfl

theorem toLower_of_isDigit {c : Char} (h : c.isDigit = true) : c.toLower = c := by
  simp only [Char.isDigit, ge_iff_le, Bool.and_eq_true, decide_eq_true_eq] at h
  unfold Char.toLower
  split
  · next hupper => exact absurd (UInt32.le_trans hupper.1 h.2) (by decide)
  · rfl

/-- Digits are no word. -/
theorem ofList_map_toLower_ne (word : String) (hword : word.toList.any Char.isDigit = false)
    (zeros n : Nat) : String.ofList ((numeral zeros n).map Char.toLower) ≠ word := by
  have hlower : ∀ c ∈ numeral zeros n, c.toLower = c := fun _ hc =>
    toLower_of_isDigit (isDigit_of_mem_numeral hc)
  rw [List.map_congr_left hlower, List.map_id']
  rintro rfl
  obtain ⟨c, hc⟩ := List.exists_mem_of_ne_nil _ (numeral_ne_nil zeros n)
  rw [String.toList_ofList, List.any_eq_false] at hword
  exact hword c hc (isDigit_of_mem_numeral hc)

/-- Signed digits are read as the whole number that they spell, rounded. -/
theorem Extended.ofChars?_signed (negative : Bool) (zeros n : Nat) :
    Extended.ofChars? (signed negative (numeral zeros n)) =
      some (Decimal.toExtended binary64 ⟨negative, n, 0⟩) := by
  have hinf := ofList_map_toLower_ne "inf" (by decide) zeros n
  have hinfinity := ofList_map_toLower_ne "infinity" (by decide) zeros n
  have hnan := ofList_map_toLower_ne "nan" (by decide) zeros n
  simp only [Extended.ofChars?, splitSign_signed, hinf, hinfinity, hnan, or_self, if_false,
    Decimal.ofChars?_signed, Option.map_some]

/-- A whole number is read as what it is rounded to, if there is anything to round it to. -/
theorem Decimal.toExtended_eq_finite_iff {fmt : Format} {x : Binary} :
    Decimal.toExtended fmt ⟨negative, n, 0⟩ = .finite x ↔ fmt.round? negative n 1 = some x := by
  rcases Nat.eq_zero_or_pos n with rfl | hn
  · simp [Decimal.toExtended, Format.round?]
  · -- The exponent is zero, so neither of the shortcuts for far exponents is taken.
    have hsmall : ¬ ((n.log2 : Int) + 1 + 0 < -400) := by omega
    have hlarge : ¬ ((400 : Int) < 0) := by decide
    have hscaled : n * Nat.pow 10 (0 : Int).toNat = n := Nat.mul_one n
    have hunit : Nat.pow 10 (-0 : Int).toNat = 1 := rfl
    simp only [Decimal.toExtended, if_neg hn.ne', if_neg hlarge, if_neg hsmall, hscaled, hunit]
    cases fmt.round? negative n 1 with
    | none => simp
    | some y => simp

end SignedControl.Number
