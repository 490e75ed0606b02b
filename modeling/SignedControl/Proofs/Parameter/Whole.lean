import SignedControl.Proofs.Number.Numeral
import SignedControl.Proofs.Parameter.Invariant

/-!
# Whole numbers as parameter values

The value of an integer parameter goes through double precision: a number of any length is read
and rounded, compared with the range, and only then made an integer. The ranges lie far below the
first number that rounding changes, so nothing of this shows: a number within the range is stored as
it is, and one that is not, whatever it is rounded to, is refused.

* `Parameter.parseNumber_eq_ok_iff`, `Parameter.parseWhole_eq_ok_iff`: what is read as a number.
* `Parameter.parseWhole_signed_iff`: which digits are read as a whole number within a range.
* `ParameterTable.Stores` and `ParameterTable.Refuses`: what may become of a value that a table is
  given; `ParameterTable.set_numeral`: which of the two does.
-/

namespace SignedControl

namespace Number.Binary

/-- A number whose magnitude is whole is its own whole part. -/
theorem whole_of_magnitude {x : Binary} {n : Nat} (h : x.magnitude = n) :
    x.isWhole = true ∧ x.whole = n := by
  have hnum : x.num = n * x.den := by
    have hcast := x.num_eq
    rw [h] at hcast
    exact_mod_cast hcast
  refine ⟨?_, ?_⟩
  · rw [isWhole, hnum, Nat.mul_mod_left]
    rfl
  · rw [whole, hnum, Nat.mul_div_cancel _ x.den_pos]

end Number.Binary

/-- Digits have no blanks in them. -/
theorem Number.trimmed_signed (negative : Bool) (zeros n : Nat) :
    Text.Trimmed (Number.signed negative (Number.numeral zeros n)) := by
  have hdigit : ∀ c ∈ Number.numeral zeros n, Text.isBlank c = false := fun _ hc =>
    Text.isBlank_of_isDigit (Number.isDigit_of_mem_numeral hc)
  refine Text.trimmed_of_forall fun c hc => ?_
  cases negative with
  | false => exact hdigit c hc
  | true =>
    rcases List.mem_cons.mp hc with rfl | hc
    · decide
    · exact hdigit c hc

/-! ## Integer kinds -/

/-- The range of an integer kind. -/
def ParameterKind.wholeRange? : ParameterKind → Option NumericRange
  | .uint8 range => some range
  | .uint32 range => some range
  | _ => none

theorem ParameterKind.wholeRange?_eq_some_iff {kind : ParameterKind} {range : NumericRange} :
    kind.wholeRange? = some range ↔ kind = .uint8 range ∨ kind = .uint32 range := by
  cases kind <;> simp [wholeRange?]

/-- The number that an integer value is. -/
def ParameterValue.whole? : ParameterValue → Option Nat
  | .uint8 n => some n.toNat
  | .uint32 n => some n.toNat
  | _ => none

namespace Parameter

open Number (Binary Extended numeral signed trimmed_signed)

variable {p : Parameter} {range : NumericRange} {text : List Char}

/-- The ranges of integer parameters are ranges of 32-bit numbers. -/
theorem fits_wholeRange (h : p.kind.wholeRange? = some range) : range.Fits UInt32.size := by
  have hproper := p.proper_kind
  rcases ParameterKind.wholeRange?_eq_some_iff.mp h with hkind | hkind
  · rw [hkind] at hproper
    exact ⟨hproper.min_le_default, hproper.default_le_max, hproper.max_lt.trans (by decide)⟩
  · rw [hkind] at hproper
    exact hproper

theorem parseNumber_eq_ok_iff {x : Binary} :
    p.parseNumber range text = .ok x ↔
      Extended.ofChars? text = some (.finite x) ∧ range.Contains x.value := by
  constructor
  · intro h
    refine ⟨?_, contains_of_parseNumber h⟩
    unfold parseNumber at h
    split at h
    · next y hy =>
      split at h
      · cases h
      · cases h
        exact hy
    · cases h
  · rintro ⟨htext, hmin, hmax⟩
    have hbelow : x.below range.min = false := by
      rw [← Bool.not_eq_true, Binary.below_iff, not_lt]
      exact hmin
    have habove : x.above range.max = false := by
      rw [← Bool.not_eq_true, Binary.above_iff, not_lt]
      exact hmax
    simp only [parseNumber, htext, hbelow, habove, Bool.or_self, Bool.false_eq_true, if_false]

theorem parseWhole_eq_ok_iff {n : Nat} :
    p.parseWhole range text = .ok n ↔
      ∃ x, p.parseNumber range text = .ok x ∧ x.isWhole = true ∧ x.whole = n := by
  unfold parseWhole
  cases p.parseNumber range text with
  | error e => simp
  | ok x => by_cases hx : x.isWhole = true <;> simp [hx]

/-- What a number below zero is rounded to is below every range. -/
theorem not_negative_of_round? {negative : Bool} {n : Nat} {x : Binary}
    (hsign : negative = true → 0 < n) (hx : Number.binary64.round? negative n 1 = some x)
    (hmin : range.min ≤ x.value) : negative = false := by
  cases negative with
  | false => rfl
  | true =>
    have hone : ((1 : Nat) : Rat) ≤ (n : Nat) / (1 : Nat) := by
      rw [Nat.cast_one, div_one]
      exact_mod_cast hsign rfl
    have hle :=
      Number.Format.le_round? Number.Format.proper_binary64 Nat.one_pos hx (by decide) hone
    have hnonneg : 0 ≤ x.value := (Nat.cast_nonneg _).trans hmin
    rw [Binary.value, if_pos (Number.Format.negative_of_round? hx), Left.nonneg_neg_iff] at hnonneg
    rw [Nat.cast_one] at hle
    exact absurd (hle.trans hnonneg) (by decide)

/-- What a number too long for double precision is rounded to is above every range. -/
theorem lt_of_round? (hfits : range.Fits UInt32.size) {negative : Bool} {n : Nat} {x : Binary}
    (hx : Number.binary64.round? negative n 1 = some x) (hmax : x.magnitude ≤ range.max) :
    n < Nat.pow 2 Number.binary64.precision := by
  by_contra hlarge
  rw [not_lt] at hlarge
  have hle : (UInt32.size : Rat) ≤ (n : Nat) / (1 : Nat) := by
    rw [Nat.cast_one, div_one, Nat.cast_le]
    exact le_trans (by decide) hlarge
  have hge := Number.Format.le_round? Number.Format.proper_binary64 Nat.one_pos hx (by decide) hle
  exact absurd (Nat.cast_le.mp (hge.trans hmax)) hfits.max_lt.not_ge

/-- Digits are read as the number that they spell if that is within the range, and are refused if
not. Digits with a minus are refused, unless the number is zero. -/
theorem parseWhole_signed_iff (hfits : range.Fits UInt32.size) {negative : Bool} {zeros n m : Nat}
    (hsign : negative = true → 0 < n) :
    p.parseWhole range (signed negative (numeral zeros n)) = .ok m ↔
      negative = false ∧ range.min ≤ n ∧ n ≤ range.max ∧ m = n := by
  have hproper := Number.Format.proper_binary64
  have hsize : UInt32.size < Nat.pow 2 Number.binary64.precision := by decide
  rw [parseWhole_eq_ok_iff]
  simp only [parseNumber_eq_ok_iff, Extended.ofChars?_signed, Option.some.injEq,
    Number.Decimal.toExtended_eq_finite_iff]
  constructor
  · rintro ⟨x, ⟨hx, hcontains⟩, -, rfl⟩
    have hpositive := not_negative_of_round? hsign hx hcontains.min_le
    subst hpositive
    have hnonneg : 0 ≤ x.value := (Nat.cast_nonneg _).trans hcontains.min_le
    rw [Binary.value_eq_magnitude hnonneg] at hcontains
    have hlt := lt_of_round? hfits hx hcontains.le_max
    obtain ⟨y, hy, -, hmagnitude⟩ := Number.Format.exists_round?_natCast hproper false hlt
    obtain rfl : y = x := Option.some.inj (hy.symm.trans hx)
    rw [hmagnitude, NumericRange.contains_natCast] at hcontains
    exact ⟨rfl, hcontains.1, hcontains.2, (Binary.whole_of_magnitude hmagnitude).2⟩
  · rintro ⟨rfl, hmin, hmax, rfl⟩
    have hlt : m < Nat.pow 2 Number.binary64.precision := hmax.trans_lt (hfits.max_lt.trans hsize)
    obtain ⟨x, hx, hnegative, hmagnitude⟩ := Number.Format.exists_round?_natCast hproper false hlt
    have hvalue : x.value = m := by
      rw [Binary.value, hnegative, if_neg Bool.false_ne_true, hmagnitude]
    refine ⟨x, ⟨hx, ?_⟩, Binary.whole_of_magnitude hmagnitude⟩
    rw [hvalue, NumericRange.contains_natCast]
    exact ⟨hmin, hmax⟩

/-- A value of an integer kind is read as a whole number within the range, and is that number. -/
theorem exists_parse_eq_map (hkind : p.kind.wholeRange? = some range) :
    ∃ f : Nat → ParameterValue,
      (∀ value, p.parse value = (p.parseWhole range (Text.trim value.toList)).map f) ∧
        ∀ n : Nat, range.Contains n → (f n).whole? = some n := by
  have hproper := p.proper_kind
  unfold parse
  rcases ParameterKind.wholeRange?_eq_some_iff.mp hkind with hp | hp
  · rw [hp] at hproper ⊢
    exact ⟨_, fun _ => rfl, fun n hn =>
      congrArg some (UInt8.toNat_ofNat_of_lt' (hn.lt hproper))⟩
  · rw [hp] at hproper ⊢
    exact ⟨_, fun _ => rfl, fun n hn =>
      congrArg some (UInt32.toNat_ofNat_of_lt' (hn.lt hproper))⟩

/-- A number within the range, with blanks around its digits, is the value that it spells. -/
theorem exists_parse_numeral (hkind : p.kind.wholeRange? = some range) {front back : List Char}
    (hfront : ∀ c ∈ front, Text.isBlank c = true) (hback : ∀ c ∈ back, Text.isBlank c = true)
    (zeros : Nat) {n : Nat} (hmin : range.min ≤ n) (hmax : n ≤ range.max) :
    ∃ v, p.parse (String.ofList (front ++ numeral zeros n ++ back)) = .ok v ∧
      v.whole? = some n := by
  obtain ⟨f, hparse, hwhole⟩ := exists_parse_eq_map hkind
  have hread : p.parseWhole range (numeral zeros n) = .ok n :=
    (parseWhole_signed_iff (fits_wholeRange hkind) (fun h => absurd h Bool.false_ne_true)).mpr
      ⟨rfl, hmin, hmax, rfl⟩
  have htrim : Text.trim (front ++ numeral zeros n ++ back) = numeral zeros n :=
    Text.trim_append hfront hback (trimmed_signed false zeros n)
  refine ⟨f n, ?_, hwhole n (NumericRange.contains_natCast.mpr ⟨hmin, hmax⟩)⟩
  rw [hparse, String.toList_ofList, htrim, hread]
  rfl

/-- Any other number, and one with a minus, is refused. -/
theorem exists_parse_signed_error (hkind : p.kind.wholeRange? = some range)
    {front back : List Char} (hfront : ∀ c ∈ front, Text.isBlank c = true)
    (hback : ∀ c ∈ back, Text.isBlank c = true) (negative : Bool) (zeros : Nat) {n : Nat}
    (hsign : negative = true → 0 < n)
    (hout : ¬ (negative = false ∧ range.min ≤ n ∧ n ≤ range.max)) :
    ∃ e, p.parse (String.ofList (front ++ signed negative (numeral zeros n) ++ back)) =
      .error e := by
  obtain ⟨f, hparse, -⟩ := exists_parse_eq_map hkind
  rw [hparse, String.toList_ofList,
    Text.trim_append hfront hback (trimmed_signed negative zeros n)]
  cases hread : p.parseWhole range (signed negative (numeral zeros n)) with
  | error e => exact ⟨e, rfl⟩
  | ok m =>
    obtain ⟨hpos, hmin, hmax, -⟩ := (parseWhole_signed_iff (fits_wholeRange hkind) hsign).mp hread
    exact absurd ⟨hpos, hmin, hmax⟩ hout

end Parameter

/-! ## Tables -/

namespace ParameterTable

open Number (numeral signed)

/-- A value is refused and the table left as it is. -/
structure Refuses (t : ParameterTable) (p : Parameter) (value : String) : Prop where
  /-- The call that says what was wrong gives an error. -/
  set_eq : ∃ e, t.set p.name value = .error e
  /-- The other one says that the value was not taken. -/
  setByName_eq : t.setByName p.name value = (false, t)
  /-- Neither call changes the table. -/
  perform_eq : ∀ c : Call, c.name = p.name → c.value = value → t.perform c = t

/-- A value is taken as a whole number and nothing else changes. -/
structure Stores (t : ParameterTable) (p : Parameter) (value : String) (n : Nat) : Prop where
  /-- The number is the value of the parameter thereafter; all others keep their values. -/
  set_eq : ∃ t' v, t.set p.name value = .ok t' ∧ t'.get? p = some v ∧ p.kind.Allows v ∧
    v.whole? = some n ∧ ∀ q, q ≠ p → t'.get? q = t.get? q
  /-- The other call does the same. -/
  setByName_eq : ∀ t', t.set p.name value = .ok t' → t.setByName p.name value = (true, t')

variable {t : ParameterTable} {p : Parameter} {range : NumericRange} {value : String}

theorem refuses_of_parse {e : ParameterError} (h : p.parse value = .error e) :
    t.Refuses p value := by
  have hset : t.set p.name value = .error e := by
    rw [set, p.ofName?_name]
    dsimp only
    rw [h]
    rfl
  refine ⟨⟨e, hset⟩, by rw [setByName, hset], fun c hname hvalue => ?_⟩
  rw [← hname, ← hvalue] at hset
  exact perform_of_error hset

theorem Valid.stores_of_parse (ht : t.Valid) {v : ParameterValue} {n : Nat}
    (h : p.parse value = .ok v) (hwhole : v.whole? = some n) : t.Stores p value n := by
  have hset : t.set p.name value = .ok (t.put p v) := set_eq_ok_iff.mpr ⟨p, v, rfl, h, rfl⟩
  refine ⟨⟨t.put p v, v, hset, ?_, Parameter.allows_of_parse h, hwhole, fun q hq => ?_⟩, ?_⟩
  · rw [ht.get?_put, if_pos rfl]
  · rw [ht.get?_put, if_neg hq]
  · intro t' ht'
    rw [setByName, ht']

/-- After any calls, a whole number of any length, with zeros in front and blanks around it, is
stored as it is if it is within the range of an integer parameter, and is refused if it is not. With
a minus in front it is refused, unless it is zero. -/
theorem set_numeral (calls : List Call) (hkind : p.kind.wholeRange? = some range)
    {front back : List Char} (hfront : ∀ c ∈ front, Text.isBlank c = true)
    (hback : ∀ c ∈ back, Text.isBlank c = true) (zeros n : Nat) :
    (range.min ≤ n ∧ n ≤ range.max →
      (after calls).Stores p (String.ofList (front ++ numeral zeros n ++ back)) n) ∧
    (¬ (range.min ≤ n ∧ n ≤ range.max) →
      (after calls).Refuses p (String.ofList (front ++ numeral zeros n ++ back))) ∧
    (0 < n → (after calls).Refuses p
      (String.ofList (front ++ signed true (numeral zeros n) ++ back))) := by
  refine ⟨?_, fun hout => ?_, fun hn => ?_⟩
  · rintro ⟨hmin, hmax⟩
    obtain ⟨v, hv, hwhole⟩ := Parameter.exists_parse_numeral hkind hfront hback zeros hmin hmax
    exact (valid_after calls).stores_of_parse hv hwhole
  · obtain ⟨e, he⟩ := Parameter.exists_parse_signed_error hkind hfront hback false zeros
      (fun h => absurd h Bool.false_ne_true) (fun h => hout h.2)
    exact refuses_of_parse he
  · obtain ⟨e, he⟩ := Parameter.exists_parse_signed_error hkind hfront hback true zeros
      (fun _ => hn) (fun h => absurd h.1.symm Bool.false_ne_true)
    exact refuses_of_parse he

/-- The greatest number that is stored, with zeros and blanks, the least that is not, and one with a
minus. -/
theorem set_numeral_baudRate :
    (after []).Stores .baudRate "\u3000\t000921600 " 921600 ∧
      (after []).Refuses .baudRate "921601" ∧ (after []).Refuses .baudRate "-057600\n" := by
  have hnone : ∀ c ∈ ([] : List Char), Text.isBlank c = true := List.forall_mem_nil _
  have hfront : ∀ c ∈ ['\u3000', '\t'], Text.isBlank c = true := List.all_eq_true.mp rfl
  have hback : ∀ c ∈ [' '], Text.isBlank c = true := List.all_eq_true.mp rfl
  have hline : ∀ c ∈ ['\n'], Text.isBlank c = true := List.all_eq_true.mp rfl
  refine ⟨?_, ?_, ?_⟩
  · exact (set_numeral [] (p := .baudRate) rfl hfront hback 3 921600).1 (by decide)
  · exact (set_numeral [] (p := .baudRate) rfl hnone hnone 0 921601).2.1 (by decide)
  · exact (set_numeral [] (p := .baudRate) rfl hnone hline 1 57600).2.2 (by decide)

end ParameterTable

end SignedControl
