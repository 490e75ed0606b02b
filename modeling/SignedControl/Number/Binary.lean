/-!
# Binary numbers of limited precision

A rational number that a parameter or a time-out was given as is stored with a limited number of
binary places. A `Format` says how many; `Format.round?` picks the nearest number of the format,
exactly and for every rational number.

* `roundDiv`: a quotient rounded to the nearest natural number, a half to the even one.
  `roundDiv_near`: the result is within one half of the quotient.
* `Format.round?`: the nearest number of a format, or `none` if it would be too large.
-/

namespace SignedControl.Number

/-- `num / den` rounded to the nearest natural number; a half goes to the even one. -/
def roundDiv (num den : Nat) : Nat :=
  if 2 * (num % den) < den ∨ (2 * (num % den) = den ∧ num / den % 2 = 0) then num / den
  else num / den + 1

/-- The rounded quotient is within one half of the exact one. -/
theorem roundDiv_near (num : Nat) {den : Nat} (hd : 0 < den) :
    2 * (roundDiv num den * den) ≤ 2 * num + den ∧
      2 * num ≤ 2 * (roundDiv num den * den) + den := by
  have hdm := Nat.div_add_mod num den
  rw [Nat.mul_comm] at hdm
  have hlt := Nat.mod_lt num hd
  unfold roundDiv
  split
  · constructor <;> omega
  · rw [Nat.add_mul]
    constructor <;> omega

/-- A whole quotient is not changed by rounding. -/
theorem roundDiv_one (num : Nat) : roundDiv num 1 = num := by
  simp [roundDiv, Nat.mod_one]

/-- A binary number: `significand * 2 ^ exponent`, with a sign that a zero also has. -/
structure Binary where
  /-- Whether the sign is a minus. -/
  negative : Bool
  /-- The digits, as one natural number. -/
  significand : Nat
  /-- The place of the last digit. -/
  exponent : Int
deriving DecidableEq, Repr

namespace Binary

/-- The numerator of the number's magnitude. -/
def num (x : Binary) : Nat := x.significand * Nat.pow 2 x.exponent.toNat

/-- The denominator of the number's magnitude. -/
def den (x : Binary) : Nat := Nat.pow 2 (-x.exponent).toNat

theorem den_pos (x : Binary) : 0 < x.den := Nat.two_pow_pos _

/-- Whether the number has no fractional part. -/
def isWhole (x : Binary) : Bool := x.num % x.den = 0

/-- The magnitude without its fractional part. -/
def whole (x : Binary) : Nat := x.num / x.den

/-- Whether the number is below a natural number. A negative zero is not below zero. -/
def below (x : Binary) (n : Nat) : Bool :=
  if x.negative then 0 < x.num ∨ 0 < n else x.num < n * x.den

/-- Whether the number is above a natural number. -/
def above (x : Binary) (n : Nat) : Bool := !x.negative && n * x.den < x.num

end Binary

/-- How many binary digits a number may have, and where the last of them may stand. -/
structure Format where
  /-- The number of digits of a significand. -/
  precision : Nat
  /-- The lowest place of a last digit. -/
  minExponent : Int
  /-- The highest place of a last digit. -/
  maxExponent : Int

/-- Double precision. -/
def binary64 : Format := ⟨53, -1074, 971⟩

/-- Single precision. -/
def binary32 : Format := ⟨24, -149, 104⟩

/-- The place of the first binary digit of `num / den`. -/
def leadingPlace (num den : Nat) : Int :=
  let k : Int := num.log2 - den.log2
  if num * Nat.pow 2 (-k).toNat < den * Nat.pow 2 k.toNat then k - 1 else k

namespace Format

/-- The zero of a format. -/
def zero (fmt : Format) (negative : Bool) : Binary := ⟨negative, 0, fmt.minExponent⟩

/-- The place at which the last digit of `num / den` stands. -/
def lastPlace (fmt : Format) (num den : Nat) : Int :=
  max fmt.minExponent (leadingPlace num den - (fmt.precision - 1))

/-- The number of the format nearest to `± num / den`, a half going to the even significand;
`none` if that number is too large for the format. -/
def round? (fmt : Format) (negative : Bool) (num den : Nat) : Option Binary :=
  if num = 0 then some (fmt.zero negative)
  else
    let place := fmt.lastPlace num den
    let m := roundDiv (num * Nat.pow 2 (-place).toNat) (den * Nat.pow 2 place.toNat)
    let x : Binary :=
      if m = Nat.pow 2 fmt.precision then ⟨negative, Nat.pow 2 (fmt.precision - 1), place + 1⟩
      else ⟨negative, m, place⟩
    if fmt.maxExponent < x.exponent then none else some x

end Format

/-- The 32 bits that stand for a single-precision number in the interchange format: the sign, the
place of the significand, and the significand without its leading digit. -/
def Binary.bits32 (x : Binary) : UInt32 :=
  let sign := if x.negative then 0x80000000 else 0
  let body :=
    if x.significand < 0x800000 then x.significand
    else (x.exponent + 150).toNat * 0x800000 + (x.significand - 0x800000)
  UInt32.ofNat (sign + body)

/-- A reading of a number that may lie beyond every format. -/
inductive Extended where
  /-- A number of the format. -/
  | finite (x : Binary)
  /-- A number too large for the format. -/
  | infinity (negative : Bool)
  /-- No number at all. -/
  | nan
deriving DecidableEq, Repr

end SignedControl.Number
