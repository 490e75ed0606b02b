import SignedControl.Bytes

/-!
# UTF-8

Text on the wire and in key files is UTF-8. `encode` writes characters; `decode` reads them back
and refuses every byte string that `encode` does not produce: stray continuation bytes, cut-off
sequences, spellings longer than necessary, surrogates, and numbers above U+10FFFF.
-/

namespace SignedControl.Text.Utf8

/-- The bytes of one character: one to four of them, by the size of its number. -/
def encodeChar (c : Char) : Bytes :=
  let n := c.toNat
  if n < 0x80 then [UInt8.ofNat n]
  else if n < 0x800 then [UInt8.ofNat (0xC0 + n / 64), UInt8.ofNat (0x80 + n % 64)]
  else if n < 0x10000 then
    [UInt8.ofNat (0xE0 + n / 4096), UInt8.ofNat (0x80 + n / 64 % 64), UInt8.ofNat (0x80 + n % 64)]
  else
    [UInt8.ofNat (0xF0 + n / 262144), UInt8.ofNat (0x80 + n / 4096 % 64),
      UInt8.ofNat (0x80 + n / 64 % 64), UInt8.ofNat (0x80 + n % 64)]

/-- The bytes of a text. -/
def encode (s : List Char) : Bytes := s.flatMap encodeChar

/-- The six bits that a continuation byte carries. -/
def continuation? (b : UInt8) : Option Nat :=
  if 0x80 ≤ b.toNat ∧ b.toNat < 0xC0 then some (b.toNat - 0x80) else none

/-- The character with this number, if there is one and it is not below `least`, the first number
that needs a sequence of this length. -/
def character? (least n : Nat) : Option Char :=
  if h : n.isValidChar then if least ≤ n then some (Char.ofNatAux n h) else none else none

/-- The text that the bytes spell, unless they are malformed. -/
def decode : Bytes → Option (List Char)
  | [] => some []
  | b :: rest =>
    if b.toNat < 0x80 then
      (decode rest).map (Char.ofNat b.toNat :: ·)
    else if b.toNat < 0xC0 then none
    else if b.toNat < 0xE0 then
      match rest with
      | b1 :: rest => do
        let x1 ← continuation? b1
        let c ← character? 0x80 ((b.toNat - 0xC0) * 64 + x1)
        (decode rest).map (c :: ·)
      | _ => none
    else if b.toNat < 0xF0 then
      match rest with
      | b1 :: b2 :: rest => do
        let x1 ← continuation? b1
        let x2 ← continuation? b2
        let c ← character? 0x800 ((b.toNat - 0xE0) * 4096 + x1 * 64 + x2)
        (decode rest).map (c :: ·)
      | _ => none
    else if b.toNat < 0xF8 then
      match rest with
      | b1 :: b2 :: b3 :: rest => do
        let x1 ← continuation? b1
        let x2 ← continuation? b2
        let x3 ← continuation? b3
        let c ← character? 0x10000 ((b.toNat - 0xF0) * 262144 + x1 * 4096 + x2 * 64 + x3)
        (decode rest).map (c :: ·)
      | _ => none
    else none

end SignedControl.Text.Utf8

namespace SignedControl.Bytes

/-- The UTF-8 bytes of a string. -/
def ofString (s : String) : Bytes := Text.Utf8.encode s.toList

/-- The string whose UTF-8 bytes these are, if there is one. -/
def toString? (b : Bytes) : Option String := (Text.Utf8.decode b).map String.ofList

end SignedControl.Bytes
