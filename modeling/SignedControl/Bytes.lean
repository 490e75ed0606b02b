/-!
# Byte strings

Messages, images, keys and frames are lists of bytes.

* `Bytes.le32`/`Bytes.ofLE32`: a 32-bit word, least significant byte first (signed messages and
  firmware descriptors); `Bytes.be32`/`Bytes.ofBE32`: most significant byte first (frame lengths).
* `Bytes.ofNatLE`/`Bytes.toNatLE`: natural numbers of a given width, least significant byte first.
* `Block n`: a byte string of exactly `n` bytes (keys, signatures, session keys).
-/

namespace SignedControl

/-- A byte string. -/
abbrev Bytes := List UInt8

namespace Bytes

/-- The four bytes of a word, least significant first. -/
def le32 (w : UInt32) : Bytes :=
  [UInt8.ofNat w.toNat, UInt8.ofNat (w.toNat / 256), UInt8.ofNat (w.toNat / 65536),
    UInt8.ofNat (w.toNat / 16777216)]

/-- The word whose bytes, least significant first, are given. -/
def ofLE32 (b0 b1 b2 b3 : UInt8) : UInt32 :=
  UInt32.ofNat (b0.toNat + 256 * b1.toNat + 65536 * b2.toNat + 16777216 * b3.toNat)

/-- The four bytes of a word, most significant first. -/
def be32 (w : UInt32) : Bytes := (le32 w).reverse

/-- The word whose bytes, most significant first, are given. -/
def ofBE32 (b0 b1 b2 b3 : UInt8) : UInt32 := ofLE32 b3 b2 b1 b0

@[simp] theorem length_le32 (w : UInt32) : (le32 w).length = 4 := rfl

@[simp] theorem length_be32 (w : UInt32) : (be32 w).length = 4 := rfl

/-- The word is read back from its four bytes. -/
theorem ofLE32_le32 (w : UInt32) :
    ofLE32 (UInt8.ofNat w.toNat) (UInt8.ofNat (w.toNat / 256)) (UInt8.ofNat (w.toNat / 65536))
      (UInt8.ofNat (w.toNat / 16777216)) = w := by
  have h := w.toNat_lt
  apply UInt32.toNat_inj.mp
  simp [ofLE32]
  omega

/-- Different words have different bytes. -/
theorem le32_injective {v w : UInt32} (h : le32 v = le32 w) : v = w := by
  simp only [le32, List.cons.injEq, and_true] at h
  obtain ⟨h0, h1, h2, h3⟩ := h
  rw [← ofLE32_le32 v, ← ofLE32_le32 w, h0, h1, h2, h3]

/-- The bytes of a word are those of the word that they spell. -/
theorem le32_ofLE32 (b0 b1 b2 b3 : UInt8) : le32 (ofLE32 b0 b1 b2 b3) = [b0, b1, b2, b3] := by
  have h0 := b0.toNat_lt
  have h1 := b1.toNat_lt
  have h2 := b2.toNat_lt
  have h3 := b3.toNat_lt
  simp only [le32, ofLE32, List.cons.injEq, and_true]
  refine ⟨?_, ?_, ?_, ?_⟩ <;> apply UInt8.toNat_inj.mp <;> simp <;> omega

/-- The number that the bytes spell, least significant first. -/
def toNatLE : Bytes → Nat
  | [] => 0
  | b :: rest => b.toNat + 256 * toNatLE rest

/-- The `width` least significant bytes of a number, least significant first. -/
def ofNatLE : (width n : Nat) → Bytes
  | 0, _ => []
  | width + 1, n => UInt8.ofNat n :: ofNatLE width (n / 256)

@[simp] theorem length_ofNatLE (width n : Nat) : (ofNatLE width n).length = width := by
  induction width generalizing n with
  | zero => rfl
  | succ width ih => simp [ofNatLE, ih]

end Bytes

/-- A byte string of exactly `n` bytes. -/
structure Block (n : Nat) where
  /-- The bytes themselves. -/
  bytes : Bytes
  /-- There are `n` of them. -/
  length_eq : bytes.length = n
deriving DecidableEq

namespace Block

variable {n : Nat}

/-- The block with these bytes, if their number is right. -/
def ofBytes? (b : Bytes) : Option (Block n) :=
  if h : b.length = n then some ⟨b, h⟩ else none

/-- The block that holds one byte throughout. -/
def fill (n : Nat) (b : UInt8) : Block n := ⟨List.replicate n b, List.length_replicate⟩

@[ext] theorem ext {a b : Block n} (h : a.bytes = b.bytes) : a = b := by
  cases a; cases b; cases h; rfl

/-- Only the block's own bytes give it back. -/
theorem ofBytes?_eq_some_iff {b : Bytes} {k : Block n} : ofBytes? b = some k ↔ b = k.bytes := by
  unfold ofBytes?
  constructor
  · intro h
    split at h
    · cases h; rfl
    · cases h
  · rintro rfl
    rw [dif_pos k.length_eq]

end Block

end SignedControl
