/-!
# Sequence numbers

Every request carries the next number of a 32-bit counter that starts anywhere and wraps. Order is
meant on the circle: `b` is after `a` if it is reached from `a` in fewer than `2 ^ 31` steps.

* `toNat_next_advance`: a step adds one, and wraps.
* `isAfter_iff`: the order, said of natural numbers.
-/

namespace SignedControl

/-- A source of sequence numbers. -/
structure SequenceCounter where
  /-- The number that the next message will carry. -/
  next : UInt32
deriving DecidableEq

namespace SequenceCounter

/-- The counter after one number has been taken. -/
def advance (c : SequenceCounter) : SequenceCounter := ⟨c.next + 1⟩

theorem toNat_next_advance (c : SequenceCounter) :
    c.advance.next.toNat = (c.next.toNat + 1) % UInt32.size := by
  simp [advance]

end SequenceCounter

/-- Whether `b` comes after `a` on the circle of sequence numbers. -/
def isAfter (a b : UInt32) : Bool := b - a ≠ 0 && b - a < 0x80000000

theorem isAfter_iff (a b : UInt32) :
    isAfter a b = true ↔
      0 < (UInt32.size + b.toNat - a.toNat) % UInt32.size ∧
        (UInt32.size + b.toNat - a.toNat) % UInt32.size < UInt32.size / 2 := by
  have ha := a.toNat_lt
  have hsub : (b - a).toNat = (UInt32.size + b.toNat - a.toNat) % UInt32.size := by
    rw [UInt32.toNat_sub, UInt32.size]
    omega
  have hzero : b - a = 0 ↔ (b - a).toNat = 0 := by
    rw [← UInt32.toNat_inj]; rfl
  simp only [isAfter, ne_eq, decide_not, Bool.and_eq_true, Bool.not_eq_true',
    decide_eq_false_iff_not, decide_eq_true_eq, hzero, UInt32.lt_iff_toNat_lt, hsub]
  rw [Nat.pos_iff_ne_zero]
  exact Iff.rfl

end SignedControl
