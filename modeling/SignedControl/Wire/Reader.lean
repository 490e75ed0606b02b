import SignedControl.Wire.Field

/-!
# Reading messages field by field

A `FieldReader` takes one field from the front of the bytes and puts it into the message so far.
`readDownTo` repeats it until at most a given number of bytes is left: none for a whole message,
and what follows the message for a nested one. A nested message may run past its own end as long as
there are bytes; only then is that noticed.

A failure names the known fields that it happened inside of, innermost first.
-/

namespace SignedControl.Wire

/-- A known field of a message, by name. -/
structure FieldName where
  /-- The message's name. -/
  message : String
  /-- The field's name. -/
  field : String
deriving DecidableEq, Repr

/-- Why bytes are not a message. -/
structure DecodeError where
  /-- The known fields that the fault lies inside of, innermost first. -/
  path : List FieldName
  /-- What is wrong. -/
  fault : Fault
deriving DecidableEq, Repr

/-- The wording of a decoding error. -/
def DecodeError.message (e : DecodeError) : String :=
  "failed to decode Protobuf message: " ++
    String.join (e.path.map fun f => f.message ++ "." ++ f.field ++ ": ") ++ e.fault.message

/-- A reading that belongs to no known field. -/
def unnamed {α : Type} : Except Fault α → Except DecodeError α
  | .ok a => .ok a
  | .error fault => .error ⟨[], fault⟩

/-- A reading inside a known field. -/
def within {α : Type} (name : FieldName) : Except DecodeError α → Except DecodeError α
  | .ok a => .ok a
  | .error e => .error { e with path := e.path ++ [name] }

@[simp] theorem unnamed_eq_ok {α : Type} {r : Except Fault α} {a : α} :
    unnamed r = .ok a ↔ r = .ok a := by
  cases r <;> simp [unnamed]

@[simp] theorem within_eq_ok {α : Type} {name : FieldName} {r : Except DecodeError α} {a : α} :
    within name r = .ok a ↔ r = .ok a := by
  cases r <;> simp [within]

/-- A reading whose value is put into something larger. -/
def storing {α β : Type} (f : α → β) : Except DecodeError (α × Bytes) →
    Except DecodeError (β × Bytes)
  | .ok (a, rest) => .ok (f a, rest)
  | .error e => .error e

theorem storing_eq_ok {α β : Type} {f : α → β} {r : Except DecodeError (α × Bytes)} {y : β}
    {rest : Bytes} : storing f r = .ok (y, rest) ↔ ∃ a, r = .ok (a, rest) ∧ f a = y := by
  cases r with
  | error e => simp [storing]
  | ok p =>
    obtain ⟨a, b⟩ := p
    simp only [storing, Except.ok.injEq, Prod.mk.injEq]
    constructor
    · rintro ⟨rfl, rfl⟩; exact ⟨a, ⟨rfl, rfl⟩, rfl⟩
    · rintro ⟨_, ⟨rfl, rfl⟩, rfl⟩; exact ⟨rfl, rfl⟩

/-- Reads one field, key included, into what has been read so far. -/
structure FieldReader (σ : Type) where
  /-- The reading, with what follows the field. -/
  read : σ → Bytes → Except DecodeError (σ × Bytes)
  /-- Reading takes at least one byte. -/
  shrinks {s s' : σ} {b rest : Bytes} (h : read s b = .ok (s', rest)) : rest.length < b.length

namespace FieldReader

variable {σ : Type}

/-- A reader that reads a key and then the value that the key announces. -/
def ofKeyed (value : σ → Key → Bytes → Except DecodeError (σ × Bytes))
    (h : ∀ {s s' key b rest}, value s key b = .ok (s', rest) → rest.length ≤ b.length) :
    FieldReader σ where
  read s b := do
    let (key, rest) ← unnamed (readKey b)
    value s key rest
  shrinks {s s' b rest} hr := by
    cases hk : unnamed (readKey b) with
    | error e => rw [hk] at hr; cases hr
    | ok r =>
      rw [hk] at hr
      exact Nat.lt_of_le_of_lt (h hr) (length_lt_of_readKey (unnamed_eq_ok.mp hk))

/-- Reads fields until at most `limit` bytes are left. -/
def readDownTo (r : FieldReader σ) (limit : Nat) (s : σ) (b : Bytes) :
    Except DecodeError (σ × Bytes) :=
  if (b.drop limit).isEmpty then .ok (s, b)
  else
    match _h : r.read s b with
    | .error e => .error e
    | .ok (s', rest) => readDownTo r limit s' rest
termination_by b.length
decreasing_by exact r.shrinks _h

/-- Reads a whole message. -/
def readAll (r : FieldReader σ) (s : σ) (b : Bytes) : Except DecodeError σ :=
  (r.readDownTo 0 s b).map (·.1)

theorem length_le_of_readDownTo (r : FieldReader σ) {limit : Nat} {s s' : σ} {b rest : Bytes}
    (h : r.readDownTo limit s b = .ok (s', rest)) : rest.length ≤ b.length := by
  fun_induction readDownTo r limit s b with
  | case1 => cases h; exact Nat.le_refl _
  | case2 => cases h
  | case3 s b _ s₁ rest₁ hr ih => exact Nat.le_trans (ih h) (Nat.le_of_lt (r.shrinks hr))

/-- Reads a nested message into what has been read of it so far. `levels` counts the levels that
may still be entered, this one included. -/
def readNested (r : FieldReader σ) (levels : Nat) (s : σ) (wire : WireType) (b : Bytes) :
    Except DecodeError (σ × Bytes) := do
  unnamed (expect .lengthDelimited wire)
  if levels = 0 then throw ⟨[], .tooDeep⟩
  let (count, rest) ← unnamed (readVarint b)
  if rest.length < count then throw ⟨[], .underflow⟩
  let (s', rest') ← r.readDownTo (rest.length - count) s rest
  if rest'.length ≠ rest.length - count then throw ⟨[], .lengthExceeded⟩
  return (s', rest')

theorem length_le_of_readNested (r : FieldReader σ) {levels : Nat} {s s' : σ} {wire : WireType}
    {b rest : Bytes} (h : r.readNested levels s wire b = .ok (s', rest)) :
    rest.length ≤ b.length := by
  simp only [readNested, bind, Except.bind, pure, Except.pure, throw, throwThe,
    MonadExceptOf.throw] at h
  split at h
  · cases h
  · split at h
    · cases h
    · split at h
      · cases h
      · next hv =>
        have h1 := length_lt_of_readVarint (unnamed_eq_ok.mp hv)
        split at h
        · cases h
        · split at h
          · cases h
          · next hd =>
            have h2 := length_le_of_readDownTo r hd
            split at h
            · cases h
            · cases h
              omega

end FieldReader

end SignedControl.Wire
