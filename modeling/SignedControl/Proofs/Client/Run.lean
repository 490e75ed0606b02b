import SignedControl.Crypto.Ed25519
import SignedControl.Proofs.Client.Tick

/-!
# Runs of the client

A run is a list of turns. A turn is what one tick meets: a clock reading, the replies that have
arrived, and the transport's answer if a request is handed to it. Nothing is asked of any of them:
the clock may go back, replies may come unasked, in any number and order, and every request may be
refused.

* `sameTask_run`: a client keeps its key, its change and its time-out.
* `counter_turn`: a tick takes one number from the counter for each request that it hands to the
  transport, and none otherwise.
* `calls_in_sequence`: so the requests of a run are numbered without a gap from where the counter
  began, and of any two that are less than half the circle apart the later one comes after the
  earlier one.
-/

namespace SignedControl

/-- Numbers less than half the circle apart are in order, wherever the circle is cut. -/
theorem isAfter_of_steps {a b : UInt32} {start i j : Nat}
    (ha : a.toNat = (start + i) % UInt32.size) (hb : b.toNat = (start + j) % UInt32.size)
    (hlt : i < j) (hnear : j - i < 0x80000000) : isAfter a b = true ∧ isAfter b a = false := by
  rw [← Bool.not_eq_true, isAfter_iff, isAfter_iff, ha, hb]
  simp only [UInt32.size]
  omega

/-- What a tick meets. -/
structure Turn where
  /-- The clock's reading. -/
  now : Instant
  /-- The replies that can be taken. -/
  arrived : List Response
  /-- What the transport answers if a request is handed to it. -/
  outcome : Except TransportError Unit

theorem Handshake.timeout_receiveAll (h : Handshake) (now : Instant) (rs : List Response) :
    (h.receiveAll now rs).timeout = h.timeout := by
  obtain ⟨_, _, _, _, -, he⟩ | hd := h.receiveAll_cases now rs
  · rw [he]
  · exact hd.timeout_eq

namespace Client

/-- The client `c'` has the same to do as `c`. -/
structure SameTask (c c' : Client) : Prop where
  /-- It signs with the same key. -/
  key_eq : c'.key = c.key
  /-- It carries the same change. -/
  payload_eq : c'.delivery.payload = c.delivery.payload
  /-- It waits for a session key as long. -/
  timeout_eq : c'.handshake.timeout = c.handshake.timeout

theorem SameTask.trans {c c' c'' : Client} (h : c.SameTask c') (h' : c'.SameTask c'') :
    c.SameTask c'' :=
  ⟨h'.key_eq.trans h.key_eq, h'.payload_eq.trans h.payload_eq, h'.timeout_eq.trans h.timeout_eq⟩

theorem sameTask_caughtUp (c : Client) (now : Instant) (arrived : List Response) :
    c.SameTask (c.caughtUp now arrived) := by
  refine ⟨rfl, rfl, ?_⟩
  rw [caughtUp, (Handshake.expire_drops _ now).timeout_eq, Handshake.timeout_receiveAll]

theorem sameTask_sent (c : Client) (now : Instant) : c.SameTask (c.sent now) := by
  refine ⟨c.key_sent now, c.payload_sent now, ?_⟩
  unfold sent
  split <;> rfl

section Scheme

variable [SignatureScheme]

/-- One tick of a run. -/
def turn (c : Client) (t : Turn) : Tick := c.tick t.now t.arrived t.outcome

/-- The client after some turns. -/
def run (c : Client) (turns : List Turn) : Client := turns.foldl (fun c t => (c.turn t).client) c

/-- The requests that are handed to the transport in some turns, refused ones among them. -/
def calls (c : Client) : List Turn → List Outgoing
  | [] => []
  | t :: later => (c.turn t).offered.toList ++ (c.turn t).client.calls later

theorem run_append (c : Client) (turns later : List Turn) :
    c.run (turns ++ later) = (c.run turns).run later := List.foldl_append

theorem run_concat (c : Client) (turns : List Turn) (t : Turn) :
    c.run (turns ++ [t]) = ((c.run turns).turn t).client := run_append c turns [t]

theorem run_cons (c : Client) (t : Turn) (later : List Turn) :
    c.run (t :: later) = (c.turn t).client.run later := rfl

theorem calls_append (c : Client) (turns later : List Turn) :
    c.calls (turns ++ later) = c.calls turns ++ (c.run turns).calls later := by
  induction turns generalizing c with
  | nil => rfl
  | cons t turns ih =>
    rw [List.cons_append, calls, calls, ih, List.append_assoc, run_cons]

theorem ticks_turn (c : Client) (t : Turn) : c.Ticks t.now t.arrived t.outcome (c.turn t) :=
  c.ticks_tick t.now t.arrived t.outcome

/-- What a client has been made for stays. -/
theorem sameTask_turn (c : Client) (t : Turn) : c.SameTask (c.turn t).client := by
  have ht := c.ticks_turn t
  have hcaught := c.sameTask_caughtUp t.now t.arrived
  generalize c.turn t = tick at ht ⊢
  cases ht with
  | finished => exact ⟨rfl, rfl, rfl⟩
  | answered => exact ⟨rfl, rfl, Handshake.timeout_receiveAll _ _ _⟩
  | idle => exact hcaught
  | sent => exact hcaught.trans (sameTask_sent _ _)
  | failed => exact ⟨hcaught.key_eq, hcaught.payload_eq, hcaught.timeout_eq⟩

theorem sameTask_run (c : Client) (turns : List Turn) : c.SameTask (c.run turns) := by
  induction turns generalizing c with
  | nil => exact ⟨rfl, rfl, rfl⟩
  | cons t turns ih => exact (c.sameTask_turn t).trans (ih (c.turn t).client)

/-! ## Numbers -/

/-- A request carries the number that the counter stands at, and the counter goes on with it. -/
theorem counter_turn (c : Client) (t : Turn) :
    ((c.turn t).offered = none ∧ (c.turn t).client.counter = c.counter) ∨
    ∃ o, (c.turn t).offered = some o ∧ o.request.sequence = c.counter.next ∧
      (c.turn t).client.counter = c.counter.advance := by
  have ht := c.ticks_turn t
  generalize c.turn t = tick at ht
  cases ht with
  | finished | answered | idle => exact .inl ⟨rfl, rfl⟩
  | sent =>
    refine .inr ⟨_, rfl, ?_, ?_⟩
    · rw [sequence_nextRequest]
      rfl
    · rw [counter_sent]
      rfl
  | failed =>
    refine .inr ⟨_, rfl, ?_, rfl⟩
    rw [sequence_nextRequest]
    rfl

theorem length_calls_concat_le (c : Client) (turns : List Turn) (t : Turn) :
    (c.calls (turns ++ [t])).length ≤ (c.calls turns).length + 1 := by
  have hcalls : (c.run turns).calls [t] = ((c.run turns).turn t).offered.toList :=
    List.append_nil _
  rw [calls_append, List.length_append, hcalls]
  cases ((c.run turns).turn t).offered <;> simp

/-- Numbers go up by one from call to call. -/
theorem sequence_of_calls {c : Client} {turns : List Turn} {k : Nat} {o : Outgoing}
    (h : (c.calls turns)[k]? = some o) :
    o.request.sequence.toNat = (c.counter.next.toNat + k) % UInt32.size := by
  induction turns generalizing c k with
  | nil => cases h
  | cons t turns ih =>
    rw [calls] at h
    obtain ⟨hoffered, hcounter⟩ | ⟨o', hoffered, hsequence, hcounter⟩ := c.counter_turn t
    · rw [hoffered] at h
      rw [ih h, hcounter]
    · rw [hoffered] at h
      cases k with
      | zero =>
        cases h
        rw [hsequence, Nat.add_zero, Nat.mod_eq_of_lt c.counter.next.toNat_lt]
      | succ k =>
        rw [ih h, hcounter, SequenceCounter.toNat_next_advance, Nat.mod_add_mod, Nat.add_assoc,
          Nat.add_comm 1]

/-- The counter stands at the number that the next call will carry. -/
theorem next_run (c : Client) (turns : List Turn) :
    (c.run turns).counter.next.toNat =
      (c.counter.next.toNat + (c.calls turns).length) % UInt32.size := by
  induction turns generalizing c with
  | nil => exact (Nat.mod_eq_of_lt c.counter.next.toNat_lt).symm
  | cons t turns ih =>
    rw [run_cons, ih, calls]
    obtain ⟨hoffered, hcounter⟩ | ⟨o, hoffered, -, hcounter⟩ := c.counter_turn t
    · rw [hoffered, hcounter]
      rfl
    · rw [hoffered, hcounter, SequenceCounter.toNat_next_advance, Nat.mod_add_mod, Nat.add_assoc,
        Option.toList_some, List.singleton_append, List.length_cons, Nat.add_comm 1]

/-- In every run a tick hands at most one request to the transport, the requests are numbered one
after another from where the counter began, and the counter stands at the next number. So of two
requests of which the second is fewer than `2 ^ 31` calls later, it comes after the first one, and
not before it. -/
theorem calls_in_sequence (c : Client) (turns : List Turn) :
    (∀ t, (c.calls (turns ++ [t])).length ≤ (c.calls turns).length + 1) ∧
    (∀ k o, (c.calls turns)[k]? = some o →
      o.request.sequence.toNat = (c.counter.next.toNat + k) % UInt32.size) ∧
    (c.run turns).counter.next.toNat =
      (c.counter.next.toNat + (c.calls turns).length) % UInt32.size ∧
    ∀ i j o o', (c.calls turns)[i]? = some o → (c.calls turns)[j]? = some o' →
      i < j → j - i < 0x80000000 →
        isAfter o.request.sequence o'.request.sequence = true ∧
          isAfter o'.request.sequence o.request.sequence = false := by
  refine ⟨c.length_calls_concat_le turns, fun k o h => sequence_of_calls h, c.next_run turns, ?_⟩
  intro i j o o' hi hj hlt hnear
  exact isAfter_of_steps (sequence_of_calls hi) (sequence_of_calls hj) hlt hnear

end Scheme

/-- The operator's client for one change, with the number of its first request. -/
def locking (start : UInt32) : Client where
  target := 0
  key := ⟨Block.fill keyLength 1⟩
  counter := ⟨start⟩
  handshake := .new defaultTimeout defaultRetryInterval
  delivery := .new ⟨Bytes.ofString "LOCK_LEVEL=1", by decide⟩ defaultTimeout defaultRetryInterval

/-- A request that is refused, and the next one, which is not. -/
def refusedOnce : List Turn := [⟨0, [], .error (.closed "")⟩, ⟨0, [], .ok ()⟩]

theorem calls_in_sequence_refusedOnce : ∃ o o' : Outgoing,
    ((locking 0xFFFFFFFF).calls refusedOnce)[0]? = some o ∧
      ((locking 0xFFFFFFFF).calls refusedOnce)[1]? = some o' ∧
      o.request.sequence.toNat = 0xFFFFFFFF ∧ o'.request.sequence.toNat = 0 ∧
      isAfter o.request.sequence o'.request.sequence = true ∧
      isAfter o'.request.sequence o.request.sequence = false := by
  have h := calls_in_sequence (locking 0xFFFFFFFF) refusedOnce
  have hlength : ((locking 0xFFFFFFFF).calls refusedOnce).length = 2 := rfl
  have hfirst := List.getElem?_eq_getElem (by rw [hlength]; decide : 0 < _)
  have hsecond := List.getElem?_eq_getElem (by rw [hlength]; decide : 1 < _)
  exact ⟨_, _, hfirst, hsecond, h.2.1 0 _ hfirst, h.2.1 1 _ hsecond,
    h.2.2.2 0 1 _ _ hfirst hsecond (by decide) (by decide)⟩

end Client

end SignedControl
