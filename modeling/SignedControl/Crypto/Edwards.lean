import SignedControl.Bytes

/-!
# The Edwards curve of Ed25519

Points of the curve `-x² + y² = 1 + d x² y²` over the integers modulo `2 ^ 255 - 19`, in extended
coordinates: `x = X / Z`, `y = Y / Z` and `x y = T / Z`. One addition formula serves all pairs of
points, equal ones included, because `d` is not a square.

A point is written as the 32 bytes of `y`, least significant first, with the lowest bit of `x` in
the free top bit. `Point.ofBytes?` reads every such string whose `y` (taken modulo the prime) has
an `x` on the curve; a set top bit where `x` is zero is ignored.
-/

namespace SignedControl.Edwards

/-- The prime `2 ^ 255 - 19`. -/
def prime : Nat := 57896044618658097711785492504343953926634992332820282019728792003956564819949

/-- The order of the base point. -/
def order : Nat := 7237005577332262213973186563042994240857116359379907606001950938285454250989

/-- The curve's parameter `d`. -/
def curveD : Nat := 37095705934669439343138083508754565189542113879843219016388785533085940283555

/-- What the top bit of 32 bytes stands for. -/
def topBit : Nat := Nat.pow 2 255

/-- A square root of `-1`. -/
def rootOfMinusOne : Nat :=
  19681161376707505956807079304988542015446066515923890162744021073123829784752

/-- Difference modulo the prime, of numbers below it. -/
def sub (a b : Nat) : Nat := (a + prime - b) % prime

/-- The binary digits of a number, most significant first, padded to a given number. -/
def binaryDigits : (count n : Nat) → List Bool
  | 0, _ => []
  | count + 1, n => binaryDigits count (n / 2) ++ [n % 2 == 1]

/-- A power modulo the prime, for exponents below `2 ^ 255`. -/
def power (base exponent : Nat) : Nat :=
  (binaryDigits 255 exponent).foldl
    (fun acc bit => if bit then acc * acc % prime * base % prime else acc * acc % prime) 1

/-- The inverse modulo the prime; zero has the inverse zero. -/
def inverse (a : Nat) : Nat := power a (prime - 2)

/-- A point in extended coordinates. -/
structure Point where
  /-- The numerator of `x`. -/
  x : Nat
  /-- The numerator of `y`. -/
  y : Nat
  /-- The common denominator. -/
  z : Nat
  /-- The numerator of the product of `x` and `y`. -/
  t : Nat

namespace Point

/-- The neutral point. -/
def zero : Point := ⟨0, 1, 1, 0⟩

/-- The base point. -/
def base : Point :=
  ⟨15112221349535400772501151409588531511454012693041857206046113283949847762202,
    46316835694926478169428394003475163141307993866256225615783033603165251855960, 1,
    46827403850823179245072216630277197565144205554125654976674165829533817101731⟩

/-- The sum of two points. -/
def add (p q : Point) : Point :=
  let a := sub p.y p.x * sub q.y q.x % prime
  let b := (p.y + p.x) * (q.y + q.x) % prime
  let c := p.t * q.t % prime * (2 * curveD % prime) % prime
  let d := p.z * q.z * 2 % prime
  let e := sub b a
  let f := sub d c
  let g := (d + c) % prime
  let h := (b + a) % prime
  ⟨e * f % prime, g * h % prime, f * g % prime, e * h % prime⟩

/-- The point with the opposite `x`. -/
def neg (p : Point) : Point := ⟨sub 0 p.x, p.y, p.z, sub 0 p.t⟩

/-- A multiple of a point, for factors below `2 ^ 256`. -/
def smul (n : Nat) (p : Point) : Point :=
  (binaryDigits 256 n).foldl
    (fun acc bit => if bit then (acc.add acc).add p else acc.add acc) zero

/-- The 32 bytes of a point. -/
def bytes (p : Point) : Bytes :=
  let scale := inverse p.z
  let x := p.x * scale % prime
  let y := p.y * scale % prime
  Bytes.ofNatLE 32 (y + x % 2 * topBit)

@[simp] theorem length_bytes (p : Point) : p.bytes.length = 32 := Bytes.length_ofNatLE _ _

/-- The even square root of `u / v` modulo the prime, if there is one. -/
def evenRoot? (u v : Nat) : Option Nat :=
  let v3 := v * v % prime * v % prime
  let v7 := v3 * v3 % prime * v % prime
  let r := u * v3 % prime * power (u * v7 % prime) ((prime - 5) / 8) % prime
  let check := v * (r * r % prime) % prime
  let root? :=
    if check = u then some r
    else if check = sub 0 u then some (r * rootOfMinusOne % prime)
    else none
  root?.map fun r => if r % 2 = 1 then sub 0 r else r

/-- The point that 32 bytes name, if they name one. -/
def ofBytes? (b : Bytes) : Option Point :=
  let n := b.toNatLE
  let y := n % topBit % prime
  let y2 := y * y % prime
  (evenRoot? (sub y2 1) ((curveD * y2 + 1) % prime)).map fun root =>
    let x := if n / topBit % 2 = 1 then sub 0 root else root
    ⟨x, y, 1, x * y % prime⟩

end Point

end SignedControl.Edwards
