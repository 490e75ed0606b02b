import SignedControl.Base64

/-!
# One base64 text for each byte string

`Spells` is the grammar of base64: groups of four symbols, of which the last may end in padding, with
the bits of its last symbol that no byte needs clear. A text is decoded if and only if it follows this
grammar, so the decoder takes no text that the encoder does not write.

* `value?_eq_some_iff`: the alphabet has sixty-four symbols, each with a value of its own.
* `eq_append_of_lastSymbols`, `lastSymbols_append`: the last group is symbols and then padding.
* `decode_eq_ok_iff`: decoding accepts exactly what the grammar spells.
* `spells_iff_eq_encode`: which is, for each byte string, the one text that encoding writes.
-/

namespace SignedControl

/-- A computation gives a result if its first part does and then the rest. -/
theorem bind_eq_ok_iff {ε α β : Type} {x : Except ε α} {next : α → Except ε β} {r : β} :
    x >>= next = .ok r ↔ ∃ a, x = .ok a ∧ next a = .ok r := by
  cases x <;> simp [bind, Except.bind]

namespace Base64

/-- The text is base64, with padding up to a whole group and unused bits that are clear, for the
bytes. Each symbol stands for six bits, the highest first. -/
inductive Spells : (text bytes : Bytes) → Prop where
  /-- No symbols for no bytes. -/
  | nil : Spells [] []
  /-- Two symbols for one byte, with four unused bits. -/
  | one {v w : Nat} (hv : v < 64) (hw : w < 64) (hunused : w % 16 = 0) :
    Spells [symbol v, symbol w, pad, pad] [UInt8.ofNat (v * 4 + w / 16)]
  /-- Three symbols for two bytes, with two unused bits. -/
  | two {v w x : Nat} (hv : v < 64) (hw : w < 64) (hx : x < 64) (hunused : x % 4 = 0) :
    Spells [symbol v, symbol w, symbol x, pad]
      [UInt8.ofNat (v * 4 + w / 16), UInt8.ofNat (w * 16 + x / 4)]
  /-- Four symbols for three bytes, and more. -/
  | group {v w x y : Nat} {text bytes : Bytes} (hv : v < 64) (hw : w < 64) (hx : x < 64)
      (hy : y < 64) (h : Spells text bytes) :
    Spells (symbol v :: symbol w :: symbol x :: symbol y :: text)
      (UInt8.ofNat (v * 4 + w / 16) :: UInt8.ofNat (w * 16 + x / 4) :: UInt8.ofNat (x * 64 + y) ::
        bytes)

namespace Spells

variable {text bytes : Bytes}

/-- A text is whole groups. -/
theorem length_mod (h : Spells text bytes) : text.length % 4 = 0 := by
  induction h with
  | nil => rfl
  | one | two => simp only [List.length_cons, List.length_nil]
  | group _ _ _ _ _ ih =>
    simp only [List.length_cons]
    omega

/-- A text has nothing in it but symbols and padding. -/
theorem mem (h : Spells text bytes) {b : UInt8} (hb : b ∈ text) :
    b = pad ∨ ∃ v < 64, b = symbol v := by
  induction h with
  | nil => cases hb
  | one hv hw _ =>
    simp only [List.mem_cons, List.not_mem_nil, or_false] at hb
    rcases hb with rfl | rfl | rfl | rfl
    · exact .inr ⟨_, hv, rfl⟩
    · exact .inr ⟨_, hw, rfl⟩
    · exact .inl rfl
    · exact .inl rfl
  | two hv hw hx _ =>
    simp only [List.mem_cons, List.not_mem_nil, or_false] at hb
    rcases hb with rfl | rfl | rfl | rfl
    · exact .inr ⟨_, hv, rfl⟩
    · exact .inr ⟨_, hw, rfl⟩
    · exact .inr ⟨_, hx, rfl⟩
    · exact .inl rfl
  | group hv hw hx hy _ ih =>
    simp only [List.mem_cons] at hb
    rcases hb with rfl | rfl | rfl | rfl | hb
    · exact .inr ⟨_, hv, rfl⟩
    · exact .inr ⟨_, hw, rfl⟩
    · exact .inr ⟨_, hx, rfl⟩
    · exact .inr ⟨_, hy, rfl⟩
    · exact ih hb

end Spells

/-! ## The alphabet -/

theorem value?_symbol : ∀ v < 64, value? (symbol v) = some v := by decide

theorem symbol_ne_pad : ∀ v < 64, symbol v ≠ pad := by decide

theorem symbol_of_value? : ∀ n < 256, ∀ v ∈ value? (UInt8.ofNat n),
    v < 64 ∧ UInt8.ofNat n = symbol v := by decide +kernel

theorem value?_eq_some_iff {b : UInt8} {v : Nat} : value? b = some v ↔ v < 64 ∧ b = symbol v := by
  constructor
  · intro h
    have hb := symbol_of_value? b.toNat b.toNat_lt v
    rw [UInt8.ofNat_toNat] at hb
    exact hb h
  · rintro ⟨hv, rfl⟩
    exact value?_symbol v hv

example : (List.range 64).map symbol =
    "ABCDEFGHIJKLMNOPQRSTUVWXYZabcdefghijklmnopqrstuvwxyz0123456789+/".toList.map
      fun c => UInt8.ofNat c.toNat := by decide +kernel

theorem valueAt_eq_ok_iff {offset : Nat} {b : UInt8} {v : Nat} :
    valueAt offset b = .ok v ↔ v < 64 ∧ b = symbol v := by
  rw [← value?_eq_some_iff, valueAt]
  cases value? b <;> simp

/-! ## The last group -/

section LastGroup

variable {start index : Nat} {firstPad : Option Nat} {group bytes : Bytes} {values : List Nat}
  {pads : Nat}

/-- After the first padding byte there is only padding. -/
theorem eq_replicate_of_lastSymbols {i : Nat}
    (h : lastSymbols start index (some i) group = .ok (values, pads)) :
    values = [] ∧ group = List.replicate pads pad := by
  induction group generalizing index values pads with
  | nil =>
    cases h
    exact ⟨rfl, rfl⟩
  | cons b rest ih =>
    rw [lastSymbols] at h
    split at h
    · next hb =>
      split at h
      · cases h
      obtain ⟨⟨values', pads'⟩, hrest, hr⟩ := bind_eq_ok_iff.mp h
      obtain ⟨rfl, rfl⟩ := ih hrest
      cases hr
      exact ⟨rfl, by rw [hb, List.replicate_succ]⟩
    · cases h

/-- The last group is symbols and then padding. -/
theorem eq_append_of_lastSymbols (h : lastSymbols start index none group = .ok (values, pads)) :
    (∀ v ∈ values, v < 64) ∧ group = values.map symbol ++ List.replicate pads pad := by
  induction group generalizing index values pads with
  | nil =>
    cases h
    exact ⟨nofun, rfl⟩
  | cons b rest ih =>
    rw [lastSymbols] at h
    split at h
    · next hb =>
      split at h
      · cases h
      obtain ⟨⟨values', pads'⟩, hrest, hr⟩ := bind_eq_ok_iff.mp h
      obtain ⟨rfl, rfl⟩ := eq_replicate_of_lastSymbols hrest
      cases hr
      exact ⟨nofun, by rw [hb, List.map_nil, List.nil_append, List.replicate_succ]⟩
    · obtain ⟨v, hsymbol, h⟩ := bind_eq_ok_iff.mp h
      obtain ⟨⟨values', pads'⟩, hrest, hr⟩ := bind_eq_ok_iff.mp h
      obtain ⟨hv, rfl⟩ := valueAt_eq_ok_iff.mp hsymbol
      obtain ⟨hvalues, rfl⟩ := ih hrest
      cases hr
      exact ⟨List.forall_mem_cons.mpr ⟨hv, hvalues⟩, rfl⟩

theorem lastSymbols_replicate (hindex : 2 ≤ index) :
    lastSymbols start index firstPad (List.replicate pads pad) = .ok ([], pads) := by
  induction pads generalizing index firstPad with
  | zero => rfl
  | succ pads ih =>
    rw [List.replicate_succ, lastSymbols.eq_def]
    dsimp only
    rw [if_pos rfl, if_neg (Nat.not_lt.mpr hindex), ih (Nat.le_succ_of_le hindex)]
    rfl

/-- Symbols and then padding are read, if the padding does not begin before the third place. -/
theorem lastSymbols_append (values : List Nat) (pads : Nat) (hvalues : ∀ v ∈ values, v < 64)
    (hpads : pads = 0 ∨ 2 ≤ index + values.length) :
    lastSymbols start index none (values.map symbol ++ List.replicate pads pad) =
      .ok (values, pads) := by
  induction values generalizing index with
  | nil =>
    rcases hpads with rfl | hindex
    · rfl
    · exact lastSymbols_replicate hindex
  | cons v values ih =>
    obtain ⟨hv, hvalues⟩ := List.forall_mem_cons.mp hvalues
    rw [List.length_cons] at hpads
    rw [List.map_cons, List.cons_append, lastSymbols, if_neg (symbol_ne_pad v hv),
      ih hvalues (by omega), valueAt_eq_ok_iff.mpr ⟨hv, rfl⟩]
    rfl

/-- A last group that is decoded is one that the grammar has. -/
theorem spells_of_decodeLast (hlength : group.length ≤ 4)
    (h : decodeLast start group = .ok bytes) : Spells group bytes := by
  rw [decodeLast] at h
  obtain ⟨⟨values, pads⟩, hsymbols, h⟩ := bind_eq_ok_iff.mp h
  obtain ⟨hvalues, rfl⟩ := eq_append_of_lastSymbols hsymbols
  rw [List.length_append, List.length_map, List.length_replicate] at hlength
  dsimp only at h
  split at h
  · cases h
  split at h
  · cases h
  next hwhole =>
  -- Two to four symbols, with the padding that makes them four.
  split at h
  · next v w =>
    obtain rfl : pads = 2 := by
      simp only [List.length_cons, List.length_nil] at hwhole hlength
      omega
    simp only [List.forall_mem_cons] at hvalues
    obtain ⟨hv, hw, -⟩ := hvalues
    split at h
    · cases h
    next hunused =>
    cases h
    exact .one hv hw (by omega)
  · next v w x =>
    obtain rfl : pads = 1 := by
      simp only [List.length_cons, List.length_nil] at hwhole hlength
      omega
    simp only [List.forall_mem_cons] at hvalues
    obtain ⟨hv, hw, hx, -⟩ := hvalues
    split at h
    · cases h
    next hunused =>
    cases h
    exact .two hv hw hx (by omega)
  · next v w x y =>
    obtain rfl : pads = 0 := by
      simp only [List.length_cons, List.length_nil] at hlength
      omega
    simp only [List.forall_mem_cons] at hvalues
    obtain ⟨hv, hw, hx, hy, -⟩ := hvalues
    cases h
    exact .group hv hw hx hy .nil
  · cases h

theorem decodeLast_one {v w : Nat} (hv : v < 64) (hw : w < 64) (hunused : w % 16 = 0) :
    decodeLast start [symbol v, symbol w, pad, pad] = .ok [UInt8.ofNat (v * 4 + w / 16)] := by
  have hsymbols : lastSymbols start 0 none [symbol v, symbol w, pad, pad] = .ok ([v, w], 2) :=
    lastSymbols_append [v, w] 2 (by simp [hv, hw]) (.inr (Nat.le_refl 2))
  rw [decodeLast, hsymbols]
  simp [bind, Except.bind, pure, Except.pure, hunused]

theorem decodeLast_two {v w x : Nat} (hv : v < 64) (hw : w < 64) (hx : x < 64)
    (hunused : x % 4 = 0) : decodeLast start [symbol v, symbol w, symbol x, pad] =
      .ok [UInt8.ofNat (v * 4 + w / 16), UInt8.ofNat (w * 16 + x / 4)] := by
  have hsymbols : lastSymbols start 0 none [symbol v, symbol w, symbol x, pad] =
      .ok ([v, w, x], 1) :=
    lastSymbols_append [v, w, x] 1 (by simp [hv, hw, hx]) (.inr (by simp))
  rw [decodeLast, hsymbols]
  simp [bind, Except.bind, pure, Except.pure, hunused]

theorem decodeLast_three {v w x y : Nat} (hv : v < 64) (hw : w < 64) (hx : x < 64) (hy : y < 64) :
    decodeLast start [symbol v, symbol w, symbol x, symbol y] =
      .ok [UInt8.ofNat (v * 4 + w / 16), UInt8.ofNat (w * 16 + x / 4), UInt8.ofNat (x * 64 + y)] := by
  have hsymbols : lastSymbols start 0 none [symbol v, symbol w, symbol x, symbol y] =
      .ok ([v, w, x, y], 0) :=
    lastSymbols_append [v, w, x, y] 0 (by simp [hv, hw, hx, hy]) (.inl rfl)
  rw [decodeLast, hsymbols]
  simp [bind, Except.bind, pure, Except.pure]

end LastGroup

/-! ## Whole texts -/

theorem spells_of_decodeFrom {start : Nat} {text bytes : Bytes}
    (h : decodeFrom start text = .ok bytes) : Spells text bytes := by
  fun_induction decodeFrom start text generalizing bytes with
  | case1 start a b c d rest hrest =>
    obtain rfl := List.isEmpty_iff.mp hrest
    exact spells_of_decodeLast (Nat.le_refl 4) h
  | case2 start a b c d rest hrest ih =>
    obtain ⟨v, ha, h⟩ := bind_eq_ok_iff.mp h
    obtain ⟨w, hb, h⟩ := bind_eq_ok_iff.mp h
    obtain ⟨x, hc, h⟩ := bind_eq_ok_iff.mp h
    obtain ⟨y, hd, h⟩ := bind_eq_ok_iff.mp h
    obtain ⟨tail, htail, hr⟩ := bind_eq_ok_iff.mp h
    obtain ⟨hv, rfl⟩ := valueAt_eq_ok_iff.mp ha
    obtain ⟨hw, rfl⟩ := valueAt_eq_ok_iff.mp hb
    obtain ⟨hx, rfl⟩ := valueAt_eq_ok_iff.mp hc
    obtain ⟨hy, rfl⟩ := valueAt_eq_ok_iff.mp hd
    cases hr
    exact .group hv hw hx hy (ih htail)
  | case3 start =>
    cases h
    exact .nil
  | case4 start group hgroup hne =>
    refine spells_of_decodeLast (Nat.le_of_not_lt fun hlong => ?_) h
    match group, hlong with
    | a :: b :: c :: d :: rest, _ => exact hgroup a b c d rest rfl

theorem Spells.decodeFrom_eq {text bytes : Bytes} (h : Spells text bytes) (start : Nat) :
    decodeFrom start text = .ok bytes := by
  induction h generalizing start with
  | nil => rfl
  | one hv hw hunused => exact decodeLast_one hv hw hunused
  | two hv hw hx hunused => exact decodeLast_two hv hw hx hunused
  | @group v w x y text bytes hv hw hx hy h ih =>
    rw [decodeFrom]
    cases text with
    | nil =>
      cases h
      exact decodeLast_three hv hw hx hy
    | cons b text =>
      rw [if_neg (by simp), valueAt_eq_ok_iff.mpr ⟨hv, rfl⟩, valueAt_eq_ok_iff.mpr ⟨hw, rfl⟩,
        valueAt_eq_ok_iff.mpr ⟨hx, rfl⟩, valueAt_eq_ok_iff.mpr ⟨hy, rfl⟩, ih]
      rfl

/-- Decoding accepts what the grammar has, and nothing else. -/
theorem decode_eq_ok_iff {text bytes : Bytes} : decode text = .ok bytes ↔ Spells text bytes := by
  unfold decode
  constructor
  · intro h
    split at h
    · cases h
    · exact spells_of_decodeFrom h
  · intro h
    have hstray : strayByte? text = none := by
      have := h.length_mod
      rw [strayByte?, if_neg (by omega)]
    rw [hstray]
    exact h.decodeFrom_eq 0

/-! ## One text for each byte string -/

section Sextets

variable {v w x y : Nat}

theorem toNat_first (hv : v < 64) (hw : w < 64) :
    (UInt8.ofNat (v * 4 + w / 16)).toNat = v * 4 + w / 16 := by
  rw [UInt8.toNat_ofNat']
  omega

theorem toNat_second (hx : x < 64) :
    (UInt8.ofNat (w * 16 + x / 4)).toNat = w % 16 * 16 + x / 4 := by
  rw [UInt8.toNat_ofNat']
  omega

theorem toNat_third (hy : y < 64) : (UInt8.ofNat (x * 64 + y)).toNat = x % 4 * 64 + y := by
  rw [UInt8.toNat_ofNat']
  omega

theorem encode_one (hv : v < 64) (hw : w < 64) (hunused : w % 16 = 0) :
    encode [UInt8.ofNat (v * 4 + w / 16)] = [symbol v, symbol w, pad, pad] := by
  simp only [encode, toNat_first hv hw, List.cons.injEq, and_true]
  exact ⟨congrArg symbol (by omega), congrArg symbol (by omega)⟩

theorem encode_two (hv : v < 64) (hw : w < 64) (hx : x < 64) (hunused : x % 4 = 0) :
    encode [UInt8.ofNat (v * 4 + w / 16), UInt8.ofNat (w * 16 + x / 4)] =
      [symbol v, symbol w, symbol x, pad] := by
  simp only [encode, toNat_first hv hw, toNat_second hx, List.cons.injEq, and_true]
  exact ⟨congrArg symbol (by omega), congrArg symbol (by omega), congrArg symbol (by omega)⟩

theorem encode_group (hv : v < 64) (hw : w < 64) (hx : x < 64) (hy : y < 64) (bytes : Bytes) :
    encode (UInt8.ofNat (v * 4 + w / 16) :: UInt8.ofNat (w * 16 + x / 4) ::
        UInt8.ofNat (x * 64 + y) :: bytes) =
      symbol v :: symbol w :: symbol x :: symbol y :: encode bytes := by
  simp only [encode, toNat_first hv hw, toNat_second hx, toNat_third hy, List.cons.injEq, and_true]
  exact ⟨congrArg symbol (by omega), congrArg symbol (by omega), congrArg symbol (by omega),
    congrArg symbol (by omega)⟩

end Sextets

theorem ofNat_eq_of_mod {n : Nat} {b : UInt8} (h : n % 256 = b.toNat) : UInt8.ofNat n = b :=
  UInt8.toNat_inj.mp ((UInt8.toNat_ofNat').trans h)

/-- Encoding writes a text of the bytes. -/
theorem spells_encode (bytes : Bytes) : Spells (encode bytes) bytes := by
  induction bytes using encode.induct with
  | case1 => exact .nil
  | case2 a =>
    have hlt := a.toNat_lt
    have h := Spells.one (v := a.toNat / 4) (w := a.toNat % 4 * 16) (by omega) (by omega) (by omega)
    have ha : UInt8.ofNat (a.toNat / 4 * 4 + a.toNat % 4 * 16 / 16) = a := ofNat_eq_of_mod (by omega)
    rwa [ha] at h
  | case3 a b =>
    have ha := a.toNat_lt
    have hb := b.toNat_lt
    rw [encode]
    generalize hn : a.toNat * 256 + b.toNat = n
    have h := Spells.two (v := n / 1024) (w := n / 16 % 64) (x := n % 16 * 4) (by omega) (by omega)
      (by omega) (by omega)
    have ha : UInt8.ofNat (n / 1024 * 4 + n / 16 % 64 / 16) = a := ofNat_eq_of_mod (by omega)
    have hb : UInt8.ofNat (n / 16 % 64 * 16 + n % 16 * 4 / 4) = b := ofNat_eq_of_mod (by omega)
    rwa [ha, hb] at h
  | case4 a b c rest ih =>
    have ha := a.toNat_lt
    have hb := b.toNat_lt
    have hc := c.toNat_lt
    rw [encode]
    generalize hn : a.toNat * 65536 + b.toNat * 256 + c.toNat = n
    have h := ih.group (v := n / 262144) (w := n / 4096 % 64) (x := n / 64 % 64) (y := n % 64)
      (by omega) (by omega) (by omega) (by omega)
    have ha : UInt8.ofNat (n / 262144 * 4 + n / 4096 % 64 / 16) = a := ofNat_eq_of_mod (by omega)
    have hb : UInt8.ofNat (n / 4096 % 64 * 16 + n / 64 % 64 / 4) = b := ofNat_eq_of_mod (by omega)
    have hc : UInt8.ofNat (n / 64 % 64 * 64 + n % 64) = c := ofNat_eq_of_mod (by omega)
    rwa [ha, hb, hc] at h

/-- The text of the bytes is the one that encoding writes. -/
theorem spells_iff_eq_encode {text bytes : Bytes} : Spells text bytes ↔ text = encode bytes := by
  constructor
  · intro h
    induction h with
    | nil => rfl
    | one hv hw hunused => rw [encode_one hv hw hunused]
    | two hv hw hx hunused => rw [encode_two hv hw hx hunused]
    | group hv hw hx hy _ ih => rw [encode_group hv hw hx hy, ih]
  · rintro rfl
    exact spells_encode bytes

end Base64

end SignedControl
