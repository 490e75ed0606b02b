/-!
# Bounded queues

A queue carries items one way between two parties. It takes an item only while it has room and both
are there; what has been put in can still be taken after the writing party has left.

* `put_eq_ok`: when an item is taken in, and that it goes to the end.
* `take_put`: an item that is alone in a queue comes out again.
-/

namespace SignedControl

/-- A bounded queue. -/
structure Queue (α : Type) where
  /-- What has been put in and not been taken out, oldest first. -/
  items : List α
  /-- The greatest number of items. -/
  capacity : Nat
  /-- Whether the reading party is there. -/
  hasReader : Bool
  /-- Whether the writing party is there. -/
  hasWriter : Bool
deriving DecidableEq

/-- Why a queue does not take an item. -/
inductive QueueError where
  /-- There is no room. -/
  | full
  /-- One of the parties has left. -/
  | abandoned
deriving DecidableEq, Repr

namespace Queue

variable {α : Type}

/-- An empty queue with both parties there. -/
def empty (capacity : Nat) : Queue α := ⟨[], capacity, true, true⟩

/-- Puts an item at the end. -/
def put (q : Queue α) (a : α) : Except QueueError (Queue α) :=
  if !q.hasReader || !q.hasWriter then .error .abandoned
  else if q.capacity ≤ q.items.length then .error .full
  else .ok { q with items := q.items ++ [a] }

/-- Takes out the oldest item. -/
def take (q : Queue α) : Option α × Queue α :=
  match q.items with
  | [] => (none, q)
  | a :: rest => (some a, { q with items := rest })

/-- The queue after the reading party has left; its items are lost. -/
def dropReader (q : Queue α) : Queue α := { q with items := [], hasReader := false }

/-- The queue after the writing party has left. -/
def dropWriter (q : Queue α) : Queue α := { q with hasWriter := false }

/-- Whether nothing will come out any more. -/
def isFinished (q : Queue α) : Bool := q.items.isEmpty && !q.hasWriter

theorem put_eq_ok {q q' : Queue α} {a : α} :
    q.put a = .ok q' ↔
      q.hasReader = true ∧ q.hasWriter = true ∧ q.items.length < q.capacity ∧
        q' = { q with items := q.items ++ [a] } := by
  unfold put
  cases hr : q.hasReader <;> cases hw : q.hasWriter
  · simp
  · simp
  · simp
  · by_cases hc : q.capacity ≤ q.items.length
    · have hn := Nat.not_lt.mpr hc
      simp [hc, hn]
    · have hn := Nat.lt_of_not_le hc
      simp [hc, hn, eq_comm]

theorem take_put {q q' : Queue α} {a : α} (h : q.put a = .ok q') (hq : q.items = []) :
    q'.take = (some a, q) := by
  obtain ⟨-, -, -, rfl⟩ := put_eq_ok.mp h
  simp only [take, hq, List.nil_append]
  rw [← hq]

end Queue

end SignedControl
