import SignedControl.Number.Binary

/-!
# Reading decimal text

A number is written as an optional sign, digits with an optional point (at least one digit), and
an optional exponent after `e` or `E`. The words `inf`, `infinity` and `nan`, in any case, are read
as well. Nothing else is: no blanks, no digit separators, no other digits than the ASCII ones.

`Decimal.toExtended` rounds the number that the text denotes to a format, exactly.
-/

namespace SignedControl.Number

/-- `± digits * 10 ^ exponent`. -/
structure Decimal where
  /-- Whether the sign is a minus. -/
  negative : Bool
  /-- The digits, as one natural number. -/
  digits : Nat
  /-- The place of the last digit. -/
  exponent : Int
deriving DecidableEq, Repr

/-- The number that decimal digits spell. -/
def ofDigits (ds : List Char) : Nat := ds.foldl (fun n c => 10 * n + (c.toNat - 48)) 0

/-- The sign at the front of a text (`true` for a minus), and what follows it. -/
def splitSign : List Char → Bool × List Char
  | '-' :: rest => (true, rest)
  | '+' :: rest => (false, rest)
  | s => (false, s)

/-- The exponent that ends a number; an absent one is zero. -/
def exponent? : List Char → Option Int
  | [] => some 0
  | c :: rest =>
    if c = 'e' ∨ c = 'E' then
      let (negative, ds) := splitSign rest
      if ds.isEmpty || !ds.all Char.isDigit then none
      else some (if negative then -(ofDigits ds : Int) else ofDigits ds)
    else none

/-- The digits around the point of a text without a sign, and what follows them. -/
def splitPoint (s : List Char) : List Char × List Char × List Char :=
  let whole := s.takeWhile Char.isDigit
  match s.dropWhile Char.isDigit with
  | '.' :: rest => (whole, rest.takeWhile Char.isDigit, rest.dropWhile Char.isDigit)
  | rest => (whole, [], rest)

/-- The decimal number that a text spells, if it spells one. -/
def Decimal.ofChars? (s : List Char) : Option Decimal :=
  let (negative, s) := splitSign s
  let (whole, fraction, rest) := splitPoint s
  if whole.isEmpty && fraction.isEmpty then none
  else
    (exponent? rest).map fun e =>
      ⟨negative, ofDigits (whole ++ fraction), e - fraction.length⟩

/-- The number of a format nearest to a decimal number. Beyond `10 ^ 400` in either direction lies
no number of any format in use here, so there no power of ten is computed. -/
def Decimal.toExtended (fmt : Format) (d : Decimal) : Extended :=
  if d.digits = 0 then .finite (fmt.zero d.negative)
  else if 400 < d.exponent then .infinity d.negative
  else if d.digits.log2 + 1 + d.exponent < -400 then .finite (fmt.zero d.negative)
  else
    let num := d.digits * Nat.pow 10 d.exponent.toNat
    let den := Nat.pow 10 (-d.exponent).toNat
    match fmt.round? d.negative num den with
    | some x => .finite x
    | none => .infinity d.negative

/-- The double-precision reading of a text, if it spells a number or one of the words for numbers
out of range. -/
def Extended.ofChars? (s : List Char) : Option Extended :=
  let (negative, word) := splitSign s
  let word := String.ofList (word.map Char.toLower)
  if word = "inf" ∨ word = "infinity" then some (.infinity negative)
  else if word = "nan" then some .nan
  else (Decimal.ofChars? s).map (Decimal.toExtended binary64)

end SignedControl.Number
