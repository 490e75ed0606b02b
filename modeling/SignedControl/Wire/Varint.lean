import SignedControl.Bytes

/-!
# Variable-length integers

A number is written as its base-128 digits, least significant first, with the high bit set on
every digit but the last. Readers accept longer spellings than necessary, up to ten digits, as
long as the number fits into 64 bits.

* `decode_encode`: a written number is read back, whatever follows it.
* `length_lt_of_decode`: reading takes at least one byte.
-/

namespace SignedControl.Wire.Varint

/-- The digits of a number. -/
def encode (n : Nat) : Bytes :=
  if n < 128 then [UInt8.ofNat n] else UInt8.ofNat (n % 128 + 128) :: encode (n / 128)

/-- Reads a number of at most `room` digits. Where the tenth digit of a 64-bit number is the last
that has room, only one bit is left for it. -/
def decodeWithin : (room : Nat) → Bytes → Option (Nat × Bytes)
  | 0, _ => none
  | _, [] => none
  | room + 1, b :: rest =>
    if b.toNat < 128 then
      if room = 0 ∧ 2 ≤ b.toNat then none else some (b.toNat, rest)
    else (decodeWithin room rest).map fun (n, rest) => (b.toNat - 128 + 128 * n, rest)

/-- Reads a number, and gives what follows it. -/
def decode (b : Bytes) : Option (Nat × Bytes) := decodeWithin 10 b

theorem length_lt_of_decodeWithin {room : Nat} {b rest : Bytes} {n : Nat}
    (h : decodeWithin room b = some (n, rest)) : rest.length < b.length := by
  induction room generalizing b n with
  | zero => cases b <;> simp [decodeWithin] at h
  | succ room ih =>
    cases b with
    | nil => simp [decodeWithin] at h
    | cons x b =>
      unfold decodeWithin at h
      split at h
      · split at h
        · cases h
        · cases h; simp
      · simp only [Option.map_eq_some_iff, Prod.exists, Prod.mk.injEq] at h
        obtain ⟨m, r, hr, -, rfl⟩ := h
        have := ih hr
        simp only [List.length_cons]
        omega

theorem length_lt_of_decode {b rest : Bytes} {n : Nat} (h : decode b = some (n, rest)) :
    rest.length < b.length := length_lt_of_decodeWithin h

theorem decodeWithin_encode {room n : Nat} (h : n < 2 * Nat.pow 128 room) (rest : Bytes) :
    decodeWithin (room + 1) (encode n ++ rest) = some (n, rest) := by
  induction room generalizing n with
  | zero =>
    have hn : n < 2 := by simpa using h
    have hb : (UInt8.ofNat n).toNat = n := by simp; omega
    rw [encode, if_pos (by omega), List.cons_append, decodeWithin]
    simp only [hb, List.nil_append]
    rw [if_pos (by omega), if_neg (by omega)]
  | succ room ih =>
    unfold encode
    split
    · next hn =>
      have hb : (UInt8.ofNat n).toNat = n := by simp; omega
      simp [decodeWithin, hb, hn]
    · next hn =>
      have hb : (UInt8.ofNat (n % 128 + 128)).toNat = n % 128 + 128 := by simp; omega
      have hp : n < 2 * (Nat.pow 128 room * 128) := h
      have hq : n / 128 < 2 * Nat.pow 128 room := by omega
      rw [List.cons_append, decodeWithin, if_neg (by omega), ih hq]
      simp only [hb, Option.map_some, Option.some.injEq, Prod.mk.injEq, and_true]
      omega

/-- A number of 64 bits is read back, whatever follows it. -/
theorem decode_encode {n : Nat} (h : n < UInt64.size) (rest : Bytes) :
    decode (encode n ++ rest) = some (n, rest) :=
  decodeWithin_encode (Nat.lt_of_lt_of_le h (by decide)) rest

end SignedControl.Wire.Varint
