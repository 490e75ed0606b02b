import SignedControl.Number.Binary

/-!
# Time

Clock readings and durations are whole nanoseconds. The time since a reading is zero if the clock
reads earlier than that (`since` is the cut-off difference of natural numbers).

A duration is shown in the largest unit of which it has at least one, with as many decimals as it
needs.
-/

namespace SignedControl

/-- A reading of a clock, in nanoseconds. -/
abbrev Instant := Nat

/-- A length of time, in nanoseconds. -/
abbrev Duration := Nat

/-- The time from one reading to another; none if the second is the earlier. -/
def Instant.since (now earlier : Instant) : Duration := now - earlier

namespace Duration

/-- A number of milliseconds. -/
def ofMilliseconds (ms : Nat) : Duration := ms * 1000000

/-- The whole milliseconds of a duration. -/
def milliseconds (d : Duration) : Nat := d / 1000000

/-- The decimals of a fraction with a number of places, without trailing zeros. -/
def decimals (places fraction : Nat) : List Char :=
  let ds := Nat.toDigits 10 fraction
  ((List.replicate (places - ds.length) '0' ++ ds).reverse.dropWhile (· = '0')).reverse

/-- A duration in a unit of `10 ^ places` nanoseconds. -/
def inUnit (d : Duration) (places : Nat) (unit : String) : String :=
  let whole := Nat.toDigits 10 (d / Nat.pow 10 places)
  let fraction := decimals places (d % Nat.pow 10 places)
  String.ofList (if fraction.isEmpty then whole else whole ++ '.' :: fraction) ++ unit

/-- A duration as it is shown. -/
def shown (d : Duration) : String :=
  if 1000000000 ≤ d then inUnit d 9 "s"
  else if 1000000 ≤ d then inUnit d 6 "ms"
  else if 1000 ≤ d then inUnit d 3 "µs"
  else inUnit d 0 "ns"

/-- Why a number of seconds is not a duration. -/
inductive Error where
  /-- The number is negative. -/
  | negative
  /-- The number is not a number, or too large. -/
  | tooLarge
deriving DecidableEq, Repr

/-- The wording of a duration error. -/
def Error.message : Error → String
  | .negative => "cannot convert float seconds to Duration: value is negative"
  | .tooLarge => "cannot convert float seconds to Duration: value is either too big or NaN"

/-- The number of nanoseconds nearest to a number of seconds, a half going to the even one. There
must be fewer than `2 ^ 64` seconds. -/
def ofSeconds : Number.Extended → Except Error Duration
  | .finite x =>
    if x.below 0 then .error .negative
    else if !x.below UInt64.size then .error .tooLarge
    else .ok (Number.roundDiv (x.num * 1000000000) x.den)
  | .infinity negative => .error (if negative then .negative else .tooLarge)
  | .nan => .error .tooLarge

end Duration

/-- A clock that moves only when it is told to, by whole milliseconds, in a 64-bit counter. -/
structure ManualClock where
  /-- The milliseconds since the clock was made. -/
  elapsed : UInt64
deriving DecidableEq

namespace ManualClock

/-- A clock that has not moved yet. -/
def start : ManualClock := ⟨0⟩

/-- The clock after a duration; what is left of a millisecond is lost. -/
def advance (c : ManualClock) (d : Duration) : ManualClock :=
  ⟨c.elapsed + UInt64.ofNat d.milliseconds⟩

/-- The clock's reading. -/
def now (c : ManualClock) : Instant := Duration.ofMilliseconds c.elapsed.toNat

end ManualClock

end SignedControl
