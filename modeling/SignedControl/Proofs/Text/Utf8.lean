import SignedControl.Text.Utf8

/-!
# UTF-8, both ways

The bytes that are text are those that `encode` writes, and each text has one such spelling: a
sequence that is longer than necessary, or stands for no character, is refused.

* `decode_encodeChar_append`: a character is read off the front.
* `decode_eq_some_iff`: reading accepts exactly what writing produces.
-/

namespace SignedControl.Text.Utf8

theorem encode_cons (c : Char) (s : List Char) : encode (c :: s) = encodeChar c ++ encode s :=
  List.flatMap_cons

theorem encode_append (s u : List Char) : encode (s ++ u) = encode s ++ encode u :=
  List.flatMap_append

theorem continuation?_eq_some_iff {b : UInt8} {x : Nat} :
    continuation? b = some x ↔ x < 64 ∧ b.toNat = 0x80 + x := by
  unfold continuation?
  split
  · simp only [Option.some.injEq]
    omega
  · simp only [reduceCtorEq, false_iff]
    omega

theorem character?_eq_some_iff {least n : Nat} {c : Char} :
    character? least n = some c ↔ least ≤ n ∧ c.toNat = n := by
  unfold character?
  by_cases hvalid : n.isValidChar
  · rw [dif_pos hvalid]
    by_cases hle : least ≤ n
    · rw [if_pos hle, Option.some.injEq]
      constructor
      · rintro rfl
        exact ⟨hle, rfl⟩
      · rintro ⟨-, rfl⟩
        rfl
    · rw [if_neg hle]
      exact iff_of_false nofun fun h => hle h.1
  · rw [dif_neg hvalid]
    refine iff_of_false nofun ?_
    rintro ⟨-, rfl⟩
    exact hvalid c.valid

theorem continuation?_ofNat {x : Nat} (h : x < 64) :
    continuation? (UInt8.ofNat (0x80 + x)) = some x :=
  continuation?_eq_some_iff.mpr ⟨h, by rw [UInt8.toNat_ofNat']; omega⟩

theorem toNat_ascii {n : Nat} (h : n < 0x80) : (Char.ofNat n).toNat = n := by
  have hvalid : n.isValidChar := .inl (by omega)
  rw [Char.ofNat, dif_pos hvalid]
  rfl

theorem toNat_lt (c : Char) : c.toNat < 0x110000 := by
  have h := c.valid
  simp only [UInt32.isValidChar, Nat.isValidChar] at h
  exact h.elim (fun h => Nat.lt_trans h (by decide)) (·.2)

/-! ## What is written is read back -/

section Sequences

variable {b b1 b2 b3 : UInt8} {x1 x2 x3 : Nat} {c : Char}

theorem decode_one (h : b.toNat < 0x80) (rest : Bytes) :
    decode (b :: rest) = (decode rest).map (Char.ofNat b.toNat :: ·) := by
  rw [decode.eq_def]
  dsimp only
  rw [if_pos h]

theorem decode_two (hge : 0xC0 ≤ b.toNat) (hlt : b.toNat < 0xE0) (h1 : continuation? b1 = some x1)
    (hc : character? 0x80 ((b.toNat - 0xC0) * 64 + x1) = some c) (rest : Bytes) :
    decode (b :: b1 :: rest) = (decode rest).map (c :: ·) := by
  rw [decode.eq_def]
  dsimp only
  rw [if_neg (by omega), if_neg (by omega), if_pos hlt, h1, Option.bind_eq_bind, Option.bind_some,
    hc, Option.bind_eq_bind, Option.bind_some]

theorem decode_three (hge : 0xE0 ≤ b.toNat) (hlt : b.toNat < 0xF0)
    (h1 : continuation? b1 = some x1) (h2 : continuation? b2 = some x2)
    (hc : character? 0x800 ((b.toNat - 0xE0) * 4096 + x1 * 64 + x2) = some c) (rest : Bytes) :
    decode (b :: b1 :: b2 :: rest) = (decode rest).map (c :: ·) := by
  rw [decode.eq_def]
  dsimp only
  rw [if_neg (by omega), if_neg (by omega), if_neg (by omega), if_pos hlt, h1, h2,
    Option.bind_eq_bind, Option.bind_some, Option.bind_some, hc, Option.bind_eq_bind,
    Option.bind_some]

theorem decode_four (hge : 0xF0 ≤ b.toNat) (hlt : b.toNat < 0xF8)
    (h1 : continuation? b1 = some x1) (h2 : continuation? b2 = some x2)
    (h3 : continuation? b3 = some x3)
    (hc : character? 0x10000 ((b.toNat - 0xF0) * 262144 + x1 * 4096 + x2 * 64 + x3) = some c)
    (rest : Bytes) : decode (b :: b1 :: b2 :: b3 :: rest) = (decode rest).map (c :: ·) := by
  rw [decode.eq_def]
  dsimp only
  rw [if_neg (by omega), if_neg (by omega), if_neg (by omega), if_neg (by omega), if_pos hlt, h1,
    h2, h3, Option.bind_eq_bind, Option.bind_some, Option.bind_some, Option.bind_some, hc,
    Option.bind_eq_bind, Option.bind_some]

end Sequences

theorem decode_encodeChar_append (c : Char) (rest : Bytes) :
    decode (encodeChar c ++ rest) = (decode rest).map (c :: ·) := by
  have hlt := toNat_lt c
  have hlow := continuation?_ofNat (Nat.mod_lt c.toNat (by decide : 64 > 0))
  have hmiddle := continuation?_ofNat (Nat.mod_lt (c.toNat / 64) (by decide : 64 > 0))
  have hhigh := continuation?_ofNat (Nat.mod_lt (c.toNat / 4096) (by decide : 64 > 0))
  -- One case for each length. The number fits the lead byte, and is not so small that a shorter
  -- sequence would have been written.
  unfold encodeChar
  dsimp only
  split
  · next h1 =>
    have hlead : (UInt8.ofNat c.toNat).toNat = c.toNat := by
      rw [UInt8.toNat_ofNat']
      omega
    rw [List.singleton_append, decode_one (by omega), hlead, Char.ofNat_toNat]
  split
  · next h1 h2 =>
    have hlead : (UInt8.ofNat (0xC0 + c.toNat / 64)).toNat = 0xC0 + c.toNat / 64 := by
      rw [UInt8.toNat_ofNat']
      omega
    exact decode_two (by omega) (by omega) hlow
      (character?_eq_some_iff.mpr ⟨by omega, by omega⟩) rest
  split
  · next h1 h2 h3 =>
    have hlead : (UInt8.ofNat (0xE0 + c.toNat / 4096)).toNat = 0xE0 + c.toNat / 4096 := by
      rw [UInt8.toNat_ofNat']
      omega
    exact decode_three (by omega) (by omega) hmiddle hlow
      (character?_eq_some_iff.mpr ⟨by omega, by omega⟩) rest
  · next h1 h2 h3 =>
    have hlead : (UInt8.ofNat (0xF0 + c.toNat / 262144)).toNat = 0xF0 + c.toNat / 262144 := by
      rw [UInt8.toNat_ofNat']
      omega
    exact decode_four (by omega) (by omega) hhigh hmiddle hlow
      (character?_eq_some_iff.mpr ⟨by omega, by omega⟩) rest

theorem decode_encode (s : List Char) : decode (encode s) = some s := by
  induction s with
  | nil => rfl
  | cons c s ih =>
    rw [encode_cons, decode_encodeChar_append, ih]
    rfl

/-! ## What is read was written so -/

theorem eq_ofNat {b : UInt8} {n : Nat} (h : b.toNat = n) : b = UInt8.ofNat n := by
  rw [← h, UInt8.ofNat_toNat]

theorem eq_encode_of_decode {b : Bytes} {s : List Char} (h : decode b = some s) : b = encode s := by
  fun_induction decode b generalizing s with
  | case1 =>
    cases h
    rfl
  | case2 b rest hb ih =>
    obtain ⟨s, hs, rfl⟩ := Option.map_eq_some_iff.mp h
    rw [encode_cons, ← ih hs, encodeChar, toNat_ascii hb, if_pos hb, UInt8.ofNat_toNat]
    rfl
  | case4 b hb0 hb1 hb b1 rest ih =>
    simp only [Option.bind_eq_bind, Option.bind_eq_some_iff, Option.map_eq_some_iff,
      continuation?_eq_some_iff, character?_eq_some_iff] at h
    obtain ⟨x1, ⟨hx1, h1⟩, c, ⟨hle, hc⟩, s, hs, rfl⟩ := h
    -- Each byte is a quotient or remainder of the character's number, here and in the next cases.
    have hb : b = UInt8.ofNat (0xC0 + c.toNat / 64) := eq_ofNat (by omega)
    have h1 : b1 = UInt8.ofNat (0x80 + c.toNat % 64) := eq_ofNat (by omega)
    rw [encode_cons, ← ih hs, encodeChar, if_neg (by omega), if_pos (by omega), ← hb, ← h1]
    rfl
  | case6 b hb0 hb1 hb2 hb b1 b2 rest ih =>
    simp only [Option.bind_eq_bind, Option.bind_eq_some_iff, Option.map_eq_some_iff,
      continuation?_eq_some_iff, character?_eq_some_iff] at h
    obtain ⟨x1, ⟨hx1, h1⟩, x2, ⟨hx2, h2⟩, c, ⟨hle, hc⟩, s, hs, rfl⟩ := h
    have hb : b = UInt8.ofNat (0xE0 + c.toNat / 4096) := eq_ofNat (by omega)
    have h1 : b1 = UInt8.ofNat (0x80 + c.toNat / 64 % 64) := eq_ofNat (by omega)
    have h2 : b2 = UInt8.ofNat (0x80 + c.toNat % 64) := eq_ofNat (by omega)
    rw [encode_cons, ← ih hs, encodeChar, if_neg (by omega), if_neg (by omega), if_pos (by omega),
      ← hb, ← h1, ← h2]
    rfl
  | case8 b hb0 hb1 hb2 hb3 hb b1 b2 b3 rest ih =>
    simp only [Option.bind_eq_bind, Option.bind_eq_some_iff, Option.map_eq_some_iff,
      continuation?_eq_some_iff, character?_eq_some_iff] at h
    obtain ⟨x1, ⟨hx1, h1⟩, x2, ⟨hx2, h2⟩, x3, ⟨hx3, h3⟩, c, ⟨hle, hc⟩, s, hs, rfl⟩ := h
    have hb : b = UInt8.ofNat (0xF0 + c.toNat / 262144) := eq_ofNat (by omega)
    have h1 : b1 = UInt8.ofNat (0x80 + c.toNat / 4096 % 64) := eq_ofNat (by omega)
    have h2 : b2 = UInt8.ofNat (0x80 + c.toNat / 64 % 64) := eq_ofNat (by omega)
    have h3 : b3 = UInt8.ofNat (0x80 + c.toNat % 64) := eq_ofNat (by omega)
    rw [encode_cons, ← ih hs, encodeChar, if_neg (by omega), if_neg (by omega),
      if_neg (by omega), ← hb, ← h1, ← h2, ← h3]
    rfl
  | case3 | case5 | case7 | case9 | case10 => cases h

/-- Different texts have different bytes. -/
theorem encode_injective {s u : List Char} (h : encode s = encode u) : s = u := by
  have hs := decode_encode s
  rw [h, decode_encode] at hs
  exact (Option.some.inj hs).symm

/-- Below 128 a byte is a character, and the character that byte. -/
theorem encode_ascii {b : Bytes} (h : ∀ x ∈ b, x.toNat < 0x80) :
    encode (b.map fun x => Char.ofNat x.toNat) = b := by
  induction b with
  | nil => rfl
  | cons x b ih =>
    obtain ⟨hx, hb⟩ := List.forall_mem_cons.mp h
    rw [List.map_cons, encode_cons, ih hb, encodeChar, toNat_ascii hx, if_pos hx,
      UInt8.ofNat_toNat]
    rfl

theorem decode_eq_some_iff {b : Bytes} {s : List Char} : decode b = some s ↔ b = encode s := by
  constructor
  · exact eq_encode_of_decode
  · rintro rfl
    exact decode_encode s

end SignedControl.Text.Utf8
