import SignedControl.Number.Binary

/-!
# Shortest decimal text

A number of a format is shown by the fewest decimal digits that are still nearer to it than to any
other number of the format, and of those by the ones nearest to it. The digits are laid out around
the point, never with an exponent; a whole number has no point, and a negative zero keeps its sign.
-/

namespace SignedControl.Number

/-- Decimal digits and the place of the last one. -/
structure Digits where
  /-- The digits, as one natural number. -/
  digits : Nat
  /-- The place of the last digit. -/
  place : Int
deriving DecidableEq, Repr

/-- The number of decimal digits of a natural number; zero has none. -/
def digitCount (n : Nat) : Nat := if n = 0 then 0 else (Nat.toDigits 10 n).length

/-- The place of the first decimal digit of `num / den`, for a number that is not zero. -/
def leadingDecimalPlace (num den : Nat) : Int :=
  if den ≤ num then (digitCount (num / den) : Int) - 1
  else -(digitCount ((den + num - 1) / num - 1) : Int)

/-- The fractions, in quarters of the last place, between which every number is nearer to `x` than
to any other number of the format. The gap below a power of two is half as wide. -/
def Format.roundingInterval (fmt : Format) (x : Binary) : Nat × Nat :=
  let m := 4 * x.significand
  if x.significand = Nat.pow 2 (fmt.precision - 1) ∧ fmt.minExponent < x.exponent then (m - 1, m + 2)
  else (m - 2, m + 2)

/-- Whether `digits * 10 ^ place` reads back as `x`. The ends of the interval do so exactly if the
significand is even, because a half goes to the even one. -/
def Format.readsBack (fmt : Format) (x : Binary) (d : Digits) : Bool :=
  let (low, high) := fmt.roundingInterval x
  let n := 4 * d.digits * Nat.pow 10 d.place.toNat * Nat.pow 2 (-x.exponent).toNat
  let scale := Nat.pow 10 (-d.place).toNat * Nat.pow 2 x.exponent.toNat
  if x.significand % 2 = 0 then low * scale ≤ n && n ≤ high * scale
  else low * scale < n && n < high * scale

/-- The neighbours of `x` on the grid of the multiples of `10 ^ place`, as digits. -/
def gridNeighbours (x : Binary) (place : Int) : Digits × Digits :=
  let q := (x.num * Nat.pow 10 (-place).toNat) / (x.den * Nat.pow 10 place.toNat)
  (⟨q, place⟩, ⟨q + 1, place⟩)

/-- Whether the upper neighbour on a grid is at least as near to `x` as the lower one. -/
def upperIsNearer (x : Binary) (place : Int) : Bool :=
  let num := x.num * Nat.pow 10 (-place).toNat
  let den := x.den * Nat.pow 10 place.toNat
  den ≤ 2 * (num % den)

/-- The digits on one grid that read back as `x`, the nearer ones if there are two. -/
def Format.digitsAt? (fmt : Format) (x : Binary) (place : Int) : Option Digits :=
  let (lower, upper) := gridNeighbours x place
  match fmt.readsBack x lower, fmt.readsBack x upper with
  | true, true => some (if upperIsNearer x place then upper else lower)
  | true, false => some lower
  | false, true => some upper
  | false, false => none

/-- The digits of the coarsest grid that has any, starting at `place` and going `finer` grids
down. The last grid tried always has some in the formats in use here. -/
def Format.shortestFrom (fmt : Format) (x : Binary) : (place : Int) → (finer : Nat) → Digits
  | place, 0 => (gridNeighbours x place).1
  | place, finer + 1 =>
    match fmt.digitsAt? x place with
    | some d => d
    | none => fmt.shortestFrom x (place - 1) finer

/-- The fewest digits that read back as `x`. Seventeen suffice in double precision. -/
def Format.shortest (fmt : Format) (x : Binary) : Digits :=
  fmt.shortestFrom x (leadingDecimalPlace x.num x.den) 17

/-- The digits around the point, without trailing zeros behind it. -/
def Digits.layout (d : Digits) : List Char :=
  let ds := Nat.toDigits 10 d.digits
  if 0 ≤ d.place then ds ++ List.replicate d.place.toNat '0'
  else
    let k := (-d.place).toNat
    let ds := List.replicate (k + 1 - ds.length) '0' ++ ds
    let whole := ds.take (ds.length - k)
    let fraction := ((ds.drop (ds.length - k)).reverse.dropWhile (· = '0')).reverse
    if fraction.isEmpty then whole else whole ++ '.' :: fraction

/-- The shortest text of a number of a format. -/
def Format.text (fmt : Format) (x : Binary) : String :=
  let body := if x.significand = 0 then ['0'] else (fmt.shortest x).layout
  String.ofList (if x.negative then '-' :: body else body)

/-- The text of a double-precision reading. -/
def Extended.text : Extended → String
  | .finite x => binary64.text x
  | .infinity negative => if negative then "-inf" else "inf"
  | .nan => "NaN"

end SignedControl.Number
