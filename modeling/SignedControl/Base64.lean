import SignedControl.Bytes

/-!
# Base64

The standard alphabet of RFC 4648, with padding required and the unused bits of the last symbol
zero, so that every byte string has exactly one written form.

A malformed text is reported by the first fault in this order: a stray last byte, a byte outside
the alphabet in a group that is not the last, a fault inside the last group, too few symbols in
it, wrong padding, and unused bits that are set.
-/

namespace SignedControl.Base64

/-- What is wrong with a text. Offsets count bytes from the start of the text. -/
inductive Error where
  /-- A byte that may not stand at its place. -/
  | symbol (byte : UInt8) (offset : Nat)
  /-- Too few symbols in the last group; `symbols` counts those of the whole text. -/
  | length (symbols : Nat)
  /-- A last symbol whose unused bits are set. -/
  | lastSymbol (byte : UInt8) (offset : Nat)
  /-- A last group that is not filled up to four. -/
  | padding
deriving DecidableEq, Repr

/-- The wording of an error. -/
def Error.message : Error → String
  | .symbol byte offset => "Invalid symbol " ++ toString byte.toNat ++ ", offset " ++
      toString offset ++ "."
  | .length symbols => "Invalid input length: " ++ toString symbols
  | .lastSymbol byte offset => "Invalid last symbol " ++ toString byte.toNat ++ ", offset " ++
      toString offset ++ "."
  | .padding => "Invalid padding"

/-- The symbol for six bits. -/
def symbol (n : Nat) : UInt8 :=
  if n < 26 then UInt8.ofNat (65 + n)
  else if n < 52 then UInt8.ofNat (97 + (n - 26))
  else if n < 62 then UInt8.ofNat (48 + (n - 52))
  else if n = 62 then 43
  else 47

/-- The six bits that a symbol stands for, if it is in the alphabet. -/
def value? (b : UInt8) : Option Nat :=
  let n := b.toNat
  if 65 ≤ n ∧ n ≤ 90 then some (n - 65)
  else if 97 ≤ n ∧ n ≤ 122 then some (n - 97 + 26)
  else if 48 ≤ n ∧ n ≤ 57 then some (n - 48 + 52)
  else if n = 43 then some 62
  else if n = 47 then some 63
  else none

/-- The byte that fills up the last group. -/
def pad : UInt8 := 61

/-- The written form of a byte string: four symbols for every three bytes. -/
def encode : Bytes → Bytes
  | [] => []
  | [a] =>
    let n := a.toNat
    [symbol (n / 4), symbol (n % 4 * 16), pad, pad]
  | [a, b] =>
    let n := a.toNat * 256 + b.toNat
    [symbol (n / 1024), symbol (n / 16 % 64), symbol (n % 16 * 4), pad]
  | a :: b :: c :: rest =>
    let n := a.toNat * 65536 + b.toNat * 256 + c.toNat
    symbol (n / 262144) :: symbol (n / 4096 % 64) :: symbol (n / 64 % 64) :: symbol (n % 64) ::
      encode rest

/-- The six bits of a symbol, or the error that it is none. -/
def valueAt (offset : Nat) (b : UInt8) : Except Error Nat :=
  match value? b with
  | some v => .ok v
  | none => .error (.symbol b offset)

/-- The symbols of the last group before its padding, with the number of padding bytes. -/
def lastSymbols (start : Nat) : (index : Nat) → (firstPad : Option Nat) → Bytes →
    Except Error (List Nat × Nat)
  | _, _, [] => .ok ([], 0)
  | index, firstPad, b :: rest =>
    if b = pad then
      if index < 2 then .error (.symbol b (start + index))
      else do
        let (values, pads) ← lastSymbols start (index + 1) (firstPad <|> some index) rest
        return (values, pads + 1)
    else
      match firstPad with
      | some i => .error (.symbol pad (start + i))
      | none => do
        let v ← valueAt (start + index) b
        let (values, pads) ← lastSymbols start (index + 1) none rest
        return (v :: values, pads)

/-- The bytes of the last group, of one to four bytes, that starts at an offset. -/
def decodeLast (start : Nat) (group : Bytes) : Except Error Bytes := do
  let (values, pads) ← lastSymbols start 0 none group
  if values.length < 2 then throw (.length (start + values.length))
  if (values.length + pads) % 4 ≠ 0 then throw .padding
  let last := Error.lastSymbol (group.getD (values.length - 1) 0) (start + values.length - 1)
  match values with
  | [v, w] =>
    if w % 16 ≠ 0 then throw last
    return [UInt8.ofNat (v * 4 + w / 16)]
  | [v, w, x] =>
    if x % 4 ≠ 0 then throw last
    return [UInt8.ofNat (v * 4 + w / 16), UInt8.ofNat (w * 16 + x / 4)]
  | [v, w, x, y] =>
    return [UInt8.ofNat (v * 4 + w / 16), UInt8.ofNat (w * 16 + x / 4), UInt8.ofNat (x * 64 + y)]
  | _ => throw .padding

/-- The bytes of the groups from an offset on. -/
def decodeFrom (start : Nat) : Bytes → Except Error Bytes
  | a :: b :: c :: d :: rest =>
    if rest.isEmpty then decodeLast start [a, b, c, d]
    else do
      let v ← valueAt start a
      let w ← valueAt (start + 1) b
      let x ← valueAt (start + 2) c
      let y ← valueAt (start + 3) d
      let tail ← decodeFrom (start + 4) rest
      return UInt8.ofNat (v * 4 + w / 16) :: UInt8.ofNat (w * 16 + x / 4) ::
        UInt8.ofNat (x * 64 + y) :: tail
  | [] => .ok []
  | group => decodeLast start group

/-- The error for a single byte after the last whole group, if it could not be a symbol anyway. -/
def strayByte? (text : Bytes) : Option Error :=
  if text.length % 4 = 1 then
    match text.getLast? with
    | some b =>
      if b ≠ pad ∧ value? b = none then some (.symbol b (text.length - 1)) else none
    | none => none
  else none

/-- The byte string whose written form the text is. -/
def decode (text : Bytes) : Except Error Bytes :=
  match strayByte? text with
  | some e => .error e
  | none => decodeFrom 0 text

end SignedControl.Base64
