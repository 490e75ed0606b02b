import SignedControl.Wire.Varint

/-!
# Fields

A message is a sequence of fields. Each starts with a key, a variable-length integer that holds
the field's number and the wire type of its value. A reader takes the fields it knows and skips
the others.

Groups are fields whose value is itself a sequence of fields, closed by a key of its own. They may
be nested, up to a number of levels that the reader is given.

Every reader gives what follows the field; the `length` theorems say that this is never more than
what it was given, and less wherever a key was read, so that reading a message ends.
-/

namespace SignedControl.Wire

/-- The ways in which a value is laid out. -/
inductive WireType where
  /-- A variable-length integer. -/
  | varint
  /-- Eight bytes. -/
  | sixtyFourBit
  /-- A length, and as many bytes. -/
  | lengthDelimited
  /-- The start of a group. -/
  | startGroup
  /-- The end of a group. -/
  | endGroup
  /-- Four bytes. -/
  | thirtyTwoBit
deriving DecidableEq, Repr

namespace WireType

/-- The number of a wire type. -/
def code : WireType → Nat
  | .varint => 0
  | .sixtyFourBit => 1
  | .lengthDelimited => 2
  | .startGroup => 3
  | .endGroup => 4
  | .thirtyTwoBit => 5

/-- The wire type with a number, if there is one. -/
def ofCode? : Nat → Option WireType
  | 0 => some .varint
  | 1 => some .sixtyFourBit
  | 2 => some .lengthDelimited
  | 3 => some .startGroup
  | 4 => some .endGroup
  | 5 => some .thirtyTwoBit
  | _ => none

/-- The name of a wire type. -/
def name : WireType → String
  | .varint => "Varint"
  | .sixtyFourBit => "SixtyFourBit"
  | .lengthDelimited => "LengthDelimited"
  | .startGroup => "StartGroup"
  | .endGroup => "EndGroup"
  | .thirtyTwoBit => "ThirtyTwoBit"

end WireType

/-- What can be wrong with the bytes of a message. -/
inductive Fault where
  /-- An integer that ends early or does not fit into 64 bits. -/
  | varint
  /-- A key that does not fit into 32 bits. -/
  | key (value : Nat)
  /-- A key whose wire type does not exist. -/
  | wireType (code : Nat)
  /-- A key with the field number zero. -/
  | zeroTag
  /-- A known field with the wrong wire type. -/
  | unexpectedWireType (actual expected : WireType)
  /-- A value that is longer than what is left. -/
  | underflow
  /-- A nested message whose last field reaches past its end. -/
  | lengthExceeded
  /-- The end of a group that is not the innermost open one. -/
  | endGroup
  /-- Groups or messages nested too deeply. -/
  | tooDeep
deriving DecidableEq, Repr

/-- The wording of a fault. -/
def Fault.message : Fault → String
  | .varint => "invalid varint"
  | .key value => "invalid key value: " ++ toString value
  | .wireType code => "invalid wire type value: " ++ toString code
  | .zeroTag => "invalid tag value: 0"
  | .unexpectedWireType actual expected =>
    "invalid wire type: " ++ actual.name ++ " (expected " ++ expected.name ++ ")"
  | .underflow => "buffer underflow"
  | .lengthExceeded => "delimited length exceeded"
  | .endGroup => "unexpected end group tag"
  | .tooDeep => "recursion limit reached"

/-- The number of a field and the wire type of its value. -/
structure Key where
  /-- The field's number. -/
  tag : Nat
  /-- The layout of the value. -/
  wire : WireType
deriving DecidableEq, Repr

/-- The bytes of a key. -/
def Key.encode (k : Key) : Bytes := Varint.encode (8 * k.tag + k.wire.code)

/-- Reads an integer. -/
def readVarint (b : Bytes) : Except Fault (Nat × Bytes) :=
  match Varint.decode b with
  | some r => .ok r
  | none => .error .varint

/-- Reads a key. -/
def readKey (b : Bytes) : Except Fault (Key × Bytes) :=
  match readVarint b with
  | .error e => .error e
  | .ok (value, rest) =>
    if UInt32.size ≤ value then .error (.key value)
    else
      match WireType.ofCode? (value % 8) with
      | none => .error (.wireType (value % 8))
      | some wire => if value / 8 = 0 then .error .zeroTag else .ok (⟨value / 8, wire⟩, rest)

/-- Checks the wire type of a known field. -/
def expect (expected actual : WireType) : Except Fault Unit :=
  if actual = expected then .ok () else .error (.unexpectedWireType actual expected)

/-- Reads the value of a 32-bit integer field. Higher bits of the number are dropped. -/
def readUInt32 (wire : WireType) (b : Bytes) : Except Fault (UInt32 × Bytes) := do
  expect .varint wire
  let (value, rest) ← readVarint b
  return (UInt32.ofNat value, rest)

/-- Takes a number of bytes from the front. -/
def takeBytes (count : Nat) (b : Bytes) : Except Fault (Bytes × Bytes) :=
  let value := b.take count
  if value.length < count then .error .underflow else .ok (value, b.drop count)

/-- Reads the value of a byte-string field. -/
def readBytes (wire : WireType) (b : Bytes) : Except Fault (Bytes × Bytes) := do
  expect .lengthDelimited wire
  let (count, rest) ← readVarint b
  takeBytes count rest

/-- Skips a value that is not a group. -/
def skipScalar (wire : WireType) (b : Bytes) : Except Fault Bytes :=
  match wire with
  | .varint => (readVarint b).map (·.2)
  | .sixtyFourBit => (takeBytes 8 b).map (·.2)
  | .thirtyTwoBit => (takeBytes 4 b).map (·.2)
  | .lengthDelimited => do
    let (count, rest) ← readVarint b
    (takeBytes count rest).map (·.2)
  | .startGroup | .endGroup => .error .endGroup

theorem length_lt_of_readVarint {b rest : Bytes} {n : Nat} (h : readVarint b = .ok (n, rest)) :
    rest.length < b.length := by
  unfold readVarint at h
  split at h
  · next hd => cases h; exact Varint.length_lt_of_decode hd
  · cases h

theorem length_lt_of_readKey {b rest : Bytes} {k : Key} (h : readKey b = .ok (k, rest)) :
    rest.length < b.length := by
  unfold readKey at h
  split at h
  · cases h
  · next hv =>
    split at h
    · cases h
    · split at h
      · cases h
      · split at h
        · cases h
        · cases h; exact length_lt_of_readVarint hv

theorem takeBytes_eq_ok_iff {count : Nat} {b value rest : Bytes} :
    takeBytes count b = .ok (value, rest) ↔ b = value ++ rest ∧ value.length = count := by
  unfold takeBytes
  simp only [List.length_take]
  split
  · next h =>
    simp only [reduceCtorEq, false_iff, not_and]
    rintro rfl
    simp only [List.length_append] at h
    omega
  · next h =>
    simp only [Except.ok.injEq, Prod.mk.injEq]
    constructor
    · rintro ⟨rfl, rfl⟩
      refine ⟨(List.take_append_drop _ _).symm, ?_⟩
      rw [List.length_take]; omega
    · rintro ⟨rfl, rfl⟩
      simp

theorem length_le_of_takeBytes {count : Nat} {b value rest : Bytes}
    (h : takeBytes count b = .ok (value, rest)) : rest.length ≤ b.length := by
  rw [(takeBytes_eq_ok_iff.mp h).1, List.length_append]
  omega

theorem length_le_of_skipScalar {wire : WireType} {b rest : Bytes}
    (h : skipScalar wire b = .ok rest) : rest.length ≤ b.length := by
  have taken : ∀ {count : Nat} {b rest : Bytes},
      (takeBytes count b).map (·.2) = .ok rest → rest.length ≤ b.length := by
    intro count b rest h
    cases ht : takeBytes count b with
    | error e => rw [ht] at h; cases h
    | ok r => rw [ht] at h; cases h; exact length_le_of_takeBytes ht
  cases wire with
  | varint =>
    simp only [skipScalar] at h
    cases hv : readVarint b with
    | error e => rw [hv] at h; cases h
    | ok r => rw [hv] at h; cases h; exact Nat.le_of_lt (length_lt_of_readVarint hv)
  | sixtyFourBit => exact taken h
  | thirtyTwoBit => exact taken h
  | lengthDelimited =>
    simp only [skipScalar] at h
    cases hv : readVarint b with
    | error e => rw [hv] at h; cases h
    | ok r =>
      rw [hv] at h
      have := taken h
      have := length_lt_of_readVarint hv
      omega
  | startGroup => cases h
  | endGroup => cases h

/-- Skips the fields of open groups up to the end of the outermost. `groups` holds the numbers of
the open groups, innermost first; `levels` says how much deeper fields may still be nested. -/
def skipGroups (levels : Nat) (groups : List Nat) (b : Bytes) : Except Fault Bytes :=
  match groups with
  | [] => .ok b
  | tag :: outer =>
    match _hk : readKey b with
    | .error e => .error e
    | .ok (key, rest) =>
      if key.wire = .endGroup then
        if key.tag = tag then skipGroups (levels + 1) outer rest else .error .endGroup
      else if levels = 0 then .error .tooDeep
      else if key.wire = .startGroup then skipGroups (levels - 1) (key.tag :: tag :: outer) rest
      else
        match _hs : skipScalar key.wire rest with
        | .error e => .error e
        | .ok rest' => skipGroups levels (tag :: outer) rest'
termination_by b.length
decreasing_by
  · exact length_lt_of_readKey _hk
  · exact length_lt_of_readKey _hk
  · exact Nat.lt_of_le_of_lt (length_le_of_skipScalar _hs) (length_lt_of_readKey _hk)

/-- Skips the value of an unknown field. -/
def skipValue (levels : Nat) (key : Key) (b : Bytes) : Except Fault Bytes :=
  if levels = 0 then .error .tooDeep
  else
    match key.wire with
    | .startGroup => skipGroups (levels - 1) [key.tag] b
    | wire => skipScalar wire b

theorem length_le_of_skipGroups {levels : Nat} {groups : List Nat} {b rest : Bytes}
    (h : skipGroups levels groups b = .ok rest) : rest.length ≤ b.length := by
  fun_induction skipGroups levels groups b with
  | case1 => cases h; exact Nat.le_refl _
  | case2 => cases h
  | case3 levels b outer key rest' hk hw ih =>
    exact Nat.le_trans (ih h) (Nat.le_of_lt (length_lt_of_readKey hk))
  | case4 => cases h
  | case5 => cases h
  | case6 levels b tag outer key rest' hk _ _ _ ih =>
    exact Nat.le_trans (ih h) (Nat.le_of_lt (length_lt_of_readKey hk))
  | case7 => cases h
  | case8 levels b tag outer key rest' hk _ _ _ rest'' hs ih =>
    exact Nat.le_trans (ih h) (Nat.le_trans (length_le_of_skipScalar hs)
      (Nat.le_of_lt (length_lt_of_readKey hk)))

theorem length_le_of_skipValue {levels : Nat} {key : Key} {b rest : Bytes}
    (h : skipValue levels key b = .ok rest) : rest.length ≤ b.length := by
  unfold skipValue at h
  split at h
  · cases h
  · split at h
    · exact length_le_of_skipGroups h
    · exact length_le_of_skipScalar h

end SignedControl.Wire
