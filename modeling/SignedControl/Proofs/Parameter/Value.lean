import SignedControl.Parameter.Basic
import SignedControl.Proofs.Number.Rounding

/-!
# What values a parameter takes

A number is checked against a parameter's range as it was read, in double precision, and only then
brought to the parameter's kind. Nothing is lost on the way: the bounds of the integer kinds have
few enough bits, and those of the single-precision kind are numbers of that precision, so that
rounding does not pass them.

* `ParameterKind.Allows`: the values of a kind, numbers within its range and short trimmed text.
* `Parameter.proper_kind`: the ranges of all parameters fit their kinds.
* `Parameter.allows_initial`, `Parameter.allows_of_parse`: a parameter's first value and every value
  read for it are values of its kind.
-/

namespace SignedControl

namespace NumericRange

/-- Whether a number is within a range. -/
structure Contains (range : NumericRange) (x : Rat) : Prop where
  /-- The number is not too small. -/
  min_le : range.min ≤ x
  /-- Nor too large. -/
  le_max : x ≤ range.max

/-- A range of numbers below a bound, with its default in it. -/
structure Fits (range : NumericRange) (bound : Nat) : Prop where
  /-- The default is not too small. -/
  min_le_default : range.min ≤ range.default
  /-- Nor too large. -/
  default_le_max : range.default ≤ range.max
  /-- The numbers are below the bound. -/
  max_lt : range.max < bound

variable {range : NumericRange} {bound n : Nat}

theorem contains_natCast : range.Contains n ↔ range.min ≤ n ∧ n ≤ range.max := by
  constructor
  · rintro ⟨hmin, hmax⟩
    exact ⟨Nat.cast_le.mp hmin, Nat.cast_le.mp hmax⟩
  · rintro ⟨hmin, hmax⟩
    exact ⟨Nat.cast_le.mpr hmin, Nat.cast_le.mpr hmax⟩

theorem Contains.lt (h : range.Contains n) (hfits : range.Fits bound) : n < bound :=
  (contains_natCast.mp h).2.trans_lt hfits.max_lt

theorem Fits.contains_default (h : range.Fits bound) : range.Contains range.default :=
  contains_natCast.mpr ⟨h.min_le_default, h.default_le_max⟩

end NumericRange

namespace ParameterKind

/-- The values of a kind. -/
def Allows : ParameterKind → ParameterValue → Prop
  | .uint8 range, .uint8 n => range.Contains n.toNat
  | .uint32 range, .uint32 n => range.Contains n.toNat
  | .float range, .float x => Number.binary32.Has x ∧ range.Contains x.value
  | .text, .text s => s.toList.length ≤ maxTextLength ∧ Text.Trimmed s.toList
  | _, _ => False

/-- A kind whose range its values can represent. -/
def Proper : ParameterKind → Prop
  | .uint8 range => range.Fits UInt8.size
  | .uint32 range => range.Fits UInt32.size
  | .float range => range.Fits (Nat.pow 2 Number.binary32.precision)
  | .text => True

theorem allows_uint8 {range : NumericRange} {n : Nat} (hfits : range.Fits UInt8.size)
    (h : range.Contains n) : (uint8 range).Allows (.uint8 (UInt8.ofNat n)) := by
  have hn : (UInt8.ofNat n).toNat = n := UInt8.toNat_ofNat_of_lt' (h.lt hfits)
  rwa [Allows, hn]

theorem allows_uint32 {range : NumericRange} {n : Nat} (hfits : range.Fits UInt32.size)
    (h : range.Contains n) : (uint32 range).Allows (.uint32 (UInt32.ofNat n)) := by
  have hn : (UInt32.ofNat n).toNat = n := UInt32.toNat_ofNat_of_lt' (h.lt hfits)
  rwa [Allows, hn]

theorem allows_text {s : List Char} (hlength : s.length ≤ maxTextLength) (h : Text.Trimmed s) :
    text.Allows (.text (String.ofList s)) := by
  rw [Allows, String.toList_ofList]
  exact ⟨hlength, h⟩

end ParameterKind

namespace Parameter

variable {p : Parameter} {range : NumericRange} {text : List Char}

theorem proper_kind (p : Parameter) : p.kind.Proper := by
  cases p <;> first | exact ⟨by decide, by decide, by decide⟩ | trivial

/-! ## The first value -/

/-- A small whole number is the same in single precision. -/
theorem floatOfNat_spec {n : Nat} (hn : n < Nat.pow 2 Number.binary32.precision) :
    Number.binary32.Has (floatOfNat n) ∧ (floatOfNat n).value = n := by
  have hproper := Number.Format.proper_binary32
  obtain ⟨x, hx, hnegative, hmagnitude⟩ :=
    Number.Format.exists_round?_natCast hproper false hn
  rw [floatOfNat, hx, Option.getD_some, Number.Binary.value, hnegative]
  exact ⟨Number.Format.has_of_round? hproper Nat.one_pos hx, hmagnitude⟩

theorem allows_initial (p : Parameter) : p.kind.Allows p.initial := by
  have hproper := p.proper_kind
  unfold initial
  cases hkind : p.kind with
  | uint8 range =>
    rw [hkind] at hproper
    exact ParameterKind.allows_uint8 hproper hproper.contains_default
  | uint32 range =>
    rw [hkind] at hproper
    exact ParameterKind.allows_uint32 hproper hproper.contains_default
  | float range =>
    rw [hkind] at hproper
    obtain ⟨hhas, hvalue⟩ := floatOfNat_spec (hproper.default_le_max.trans_lt hproper.max_lt)
    refine ⟨hhas, ?_⟩
    rw [hvalue]
    exact hproper.contains_default
  | text => exact ParameterKind.allows_text (s := []) (Nat.zero_le _) (by constructor <;> simp)

/-! ## Reading a value -/

theorem exists_of_map_eq_ok {ε α β : Type} {f : α → β} {r : Except ε α} {b : β}
    (h : r.map f = .ok b) : ∃ a, r = .ok a ∧ f a = b := by
  cases r with
  | error e => cases h
  | ok a => exact ⟨a, rfl, Except.ok.inj h⟩

theorem contains_of_parseNumber {x : Number.Binary} (h : p.parseNumber range text = .ok x) :
    range.Contains x.value := by
  unfold parseNumber at h
  split at h
  · split at h
    · cases h
    · next hrange =>
      cases h
      rw [Bool.or_eq_true, Number.Binary.below_iff, Number.Binary.above_iff, not_or, not_lt,
        not_lt] at hrange
      exact ⟨hrange.1, hrange.2⟩
  · cases h

theorem contains_of_parseWhole {n : Nat} (h : p.parseWhole range text = .ok n) :
    range.Contains n := by
  unfold parseWhole at h
  split at h
  · cases h
  · next x hx =>
    split at h
    · next hwhole =>
      cases h
      have hx := contains_of_parseNumber hx
      have hnonneg : 0 ≤ x.value := le_trans (Nat.cast_nonneg _) hx.min_le
      rwa [Number.Binary.value_eq_magnitude hnonneg,
        Number.Binary.magnitude_of_isWhole hwhole] at hx
    · cases h

/-- A value read for a parameter is one of its kind. -/
theorem allows_of_parse {value : String} {v : ParameterValue} (h : p.parse value = .ok v) :
    p.kind.Allows v := by
  have hproper := p.proper_kind
  unfold parse at h
  cases hkind : p.kind with
  | uint8 range =>
    rw [hkind] at h hproper
    obtain ⟨n, hn, rfl⟩ := exists_of_map_eq_ok h
    exact ParameterKind.allows_uint8 hproper (contains_of_parseWhole hn)
  | uint32 range =>
    rw [hkind] at h hproper
    obtain ⟨n, hn, rfl⟩ := exists_of_map_eq_ok h
    exact ParameterKind.allows_uint32 hproper (contains_of_parseWhole hn)
  | float range =>
    rw [hkind] at h hproper
    dsimp only at h
    split at h
    · cases h
    · next x hx =>
      have hx := contains_of_parseNumber hx
      split at h
      · next y hy =>
        cases h
        have hrounded := Number.Format.proper_binary32
        obtain ⟨hmin, hmax⟩ :=
          Number.Format.value_mem_of_round? hrounded hy hproper.max_lt hx.min_le hx.le_max
        exact ⟨Number.Format.has_of_round? hrounded x.den_pos hy, hmin, hmax⟩
      · cases h
  | text =>
    rw [hkind] at h
    dsimp only at h
    split at h
    · cases h
    · next hlength =>
      cases h
      exact ParameterKind.allows_text (Nat.not_lt.mp hlength) (Text.trimmed_trim _)

end Parameter

end SignedControl
