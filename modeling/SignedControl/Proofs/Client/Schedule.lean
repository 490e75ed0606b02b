import SignedControl.Proofs.Client.Run

/-!
# When a request is due

The machines look at the clock at ticks only, so that an attempt comes at the first tick at which
the time since the last one is over.

* `ticksBetween`: how many ticks pass from one attempt to the next. `ticksBetween_le_iff` is what it
  is for.
* `Handshake.Waits`: all of a waiting handshake on which it hangs when it asks again.
* `Client.turn_of_unanswered`: a tick at which no reply is an answer sends what is due.
-/

namespace SignedControl

/-! ## Ticks and numbers -/

/-- How many ticks pass from one attempt to the next. -/
def ticksBetween (retry interval : Nat) : Nat := max 1 ((retry + interval - 1) / interval)

theorem ticksBetween_pos (retry interval : Nat) : 0 < ticksBetween retry interval :=
  Nat.le_max_left _ _

/-- At the ticks from this one on, and no sooner, the retry interval is over. -/
theorem ticksBetween_le_iff {retry interval ticks : Nat} (hinterval : 0 < interval)
    (hticks : 0 < ticks) : ticksBetween retry interval ≤ ticks ↔ retry ≤ ticks * interval := by
  unfold ticksBetween
  rw [Nat.max_le, and_iff_right (Nat.succ_le_of_lt hticks), ← Nat.lt_succ_iff,
    Nat.div_lt_iff_lt_mul hinterval, Nat.succ_mul]
  omega

@[simp] theorem Duration.milliseconds_ofMilliseconds (ms : Nat) :
    milliseconds (ofMilliseconds ms) = ms := Nat.mul_div_cancel ms (by decide)

/-- The number after that of a request. -/
theorem add_ofNat_succ (start : UInt32) (n : Nat) :
    start + UInt32.ofNat n + 1 = start + UInt32.ofNat (n + 1) := by
  rw [UInt32.ofNat_add, UInt32.add_assoc]
  rfl

/-! ## Waiting for a key -/

/-- The handshake waits for a session key since a request that was sent at some time, if one was. -/
structure Handshake.Waits (h : Handshake) (timeout retry : Duration) (last : Option Instant) :
    Prop where
  /-- There is no key. -/
  sessionKey_eq : h.sessionKey = none
  /-- A reply is waited for as long. -/
  timeout_eq : h.timeout = timeout
  /-- Between two requests there is as much time. -/
  retryInterval_eq : h.retryInterval = retry
  /-- The last request was sent then. -/
  lastAttempt_eq : h.lastAttempt = last

namespace Handshake

variable {h h' : Handshake} {timeout retry : Duration} {last : Option Instant}

theorem waits_new (timeout retry : Duration) : (new timeout retry).Waits timeout retry none :=
  ⟨rfl, rfl, rfl, rfl⟩

theorem Waits.of_drops (hw : h.Waits timeout retry last) (hd : h.Drops h') :
    h'.Waits timeout retry last :=
  ⟨hd.sessionKey_eq.trans hw.sessionKey_eq, hd.timeout_eq.trans hw.timeout_eq,
    hd.retryInterval_eq.trans hw.retryInterval_eq, hd.lastAttempt_eq.trans hw.lastAttempt_eq⟩

theorem Waits.sent (hw : h.Waits timeout retry last) (now : Instant) (sequence : UInt32) :
    (h.sent now sequence).Waits timeout retry (some now) :=
  ⟨rfl, hw.timeout_eq, hw.retryInterval_eq, rfl⟩

theorem Waits.isDue_iff (hw : h.Waits timeout retry last) (now : Instant) :
    h.isDue now = true ↔ ∀ time, last = some time → retry ≤ now.since time := by
  rw [Handshake.isDue_iff hw.sessionKey_eq, hw.lastAttempt_eq, hw.retryInterval_eq]

end Handshake

/-- Nothing in flight is forgotten if nothing is in flight. -/
theorem Delivery.expire_of_empty {d : Delivery} (h : d.pending.requests = []) (now : Instant) :
    d.expire now = d := by
  obtain ⟨_, _, _, _, ⟨requests⟩, _, _⟩ := d
  cases h
  rfl

/-! ## A tick without an answer -/

/-- If no reply is an answer to the change, all are read, and what is due is sent. -/
theorem Client.turn_of_unanswered [SignatureScheme] {c : Client} {t : Turn}
    (hout : c.delivery.outcome = none)
    (hunanswered : ∀ r ∈ t.arrived, r.operation = Operation.setConfig.code →
      ∀ p, ¬ c.delivery.Answers t.now r p) :
    c.turn t =
      let attempt := (c.caughtUp t.now t.arrived).send t.now t.outcome
      ⟨attempt.state, [], attempt.offered, attempt.result.map fun _ => none⟩ := by
  simp only [turn, tick, hout]
  rcases receive_cases hout t.now t.arrived with ⟨read, r, unread, p, harrived, hop, ha, -⟩ | hall
  · have hr : r ∈ t.arrived := by
      rw [harrived]
      exact List.mem_append_right _ List.mem_cons_self
    exact absurd ha (hunanswered r hr hop p)
  · rw [hall]
    rfl

end SignedControl
