import SignedControl.Proofs.Client.Order
import SignedControl.Proofs.Client.Pace

/-!
# The cadence of requests

As long as nothing answers them, the requests of a client that is ticked at equal distances go out
at every tick of a fixed period. While it asks for a session key, the period is the retry interval.
While it delivers the change, it is the longer one of the retry interval and the time-out, since a
request is forgotten before the next one is sent; this happens in the same tick.

* `Client.Asking`, `Client.Delivering`: all of a client on which it hangs when it sends again, and
  what it sends then.
* `Client.asking_paces`, `Client.delivering_paces`: both go on in their pace.
* `Client.keeps_cadence`: the two periods, up to the tick at which the clock wraps.
  `Client.not_keeps_cadence`: there they break off.
-/

namespace SignedControl

namespace Client

variable {first c : Client} {timeout retry : Duration} {seen last now : Instant} {n : Nat}
  {sessionKey : SessionKey} {number : UInt32} {arrived : List Response}

@[simp] theorem target_sent (c : Client) (now : Instant) : (c.sent now).target = c.target := by
  unfold sent; split <;> rfl

/-! ## Asking for a key -/

/-- The client asks for a session key since a request that was sent at some time, if one was, and
has sent so many. -/
structure Asking (first : Client) (timeout retry : Duration) (last : Option Instant) (sent : Nat)
    (c : Client) : Prop where
  /-- The node that is addressed stays. -/
  target_eq : c.target = first.target
  /-- So does the key that signs. -/
  key_eq : c.key = first.key
  /-- The counter has gone on with each request. -/
  counter_eq : c.counter.next = first.counter.next + UInt32.ofNat sent
  /-- No answer to the change has come. -/
  outcome_eq : c.delivery.outcome = none
  /-- The handshake waits since then. -/
  waits : c.handshake.Waits timeout retry last

theorem asking_new {config : ClientConfig} {key : PrivateKey} {change : String} {start : UInt32}
    (h : new config key change start = .ok c) :
    c.Asking config.timeout config.retryInterval none 0 c := by
  obtain ⟨payload, -, rfl⟩ := new_eq_ok h
  exact ⟨rfl, rfl, (UInt32.add_zero start).symm, rfl, Handshake.waits_new _ _⟩

namespace Asking

variable {last : Option Instant}

theorem caughtUp (h : first.Asking timeout retry last n c) (now : Instant) :
    first.Asking timeout retry last n (c.caughtUp now []) :=
  ⟨h.target_eq, h.key_eq, h.counter_eq, h.outcome_eq,
    h.waits.of_drops (c.handshake.expire_drops now)⟩

theorem isDue_iff (h : first.Asking timeout retry last n c) :
    c.isDue now = true ↔ ∀ time, last = some time → retry ≤ now.since time := by
  rw [isDue_of_none h.waits.sessionKey_eq, h.waits.isDue_iff]

theorem sent (h : first.Asking timeout retry last n c) (now : Instant) :
    first.Asking timeout retry (some now) (n + 1) (c.sent now) := by
  refine ⟨?_, ?_, ?_, ?_, ?_⟩
  · rw [target_sent, h.target_eq]
  · rw [key_sent, h.key_eq]
  · rw [counter_sent, SequenceCounter.advance, h.counter_eq, add_ofNat_succ]
  · rw [outcome_sent, h.outcome_eq]
  · rw [handshake_sent_of_none h.waits.sessionKey_eq]
    exact h.waits.sent now _

end Asking

/-! ## Delivering the change -/

/-- The client `c'` sends the same change as `c`, and sends it in the same way. -/
structure SamePace (c c' : Client) : Prop where
  /-- The node that is addressed is the same. -/
  target_eq : c'.target = c.target
  /-- So is the key that signs. -/
  key_eq : c'.key = c.key
  /-- The change is the same. -/
  payload_eq : c'.delivery.payload = c.delivery.payload
  /-- A reply is waited for as long. -/
  timeout_eq : c'.delivery.timeout = c.delivery.timeout
  /-- Between two requests there is as much time. -/
  retryInterval_eq : c'.delivery.retryInterval = c.delivery.retryInterval

theorem SamePace.refl (c : Client) : c.SamePace c := ⟨rfl, rfl, rfl, rfl, rfl⟩

theorem SamePace.caughtUp (h : first.SamePace c) (now : Instant) (arrived : List Response) :
    first.SamePace (c.caughtUp now arrived) := { h with }

theorem SamePace.sent (h : first.SamePace c) (now : Instant) : first.SamePace (c.sent now) := by
  refine ⟨?_, ?_, ?_, ?_, ?_⟩
  · rw [target_sent, h.target_eq]
  · rw [key_sent, h.key_eq]
  · rw [payload_sent, h.payload_eq]
  · rw [← h.timeout_eq, Client.sent]
    split <;> rfl
  · rw [← h.retryInterval_eq, Client.sent]
    split <;> rfl

theorem SamePace.turn [SignatureScheme] (h : first.SamePace c) (t : Turn) :
    first.SamePace (c.turn t).client := by
  have ht := c.ticks_turn t
  have hcaught := h.caughtUp t.now t.arrived
  generalize c.turn t = tick at ht ⊢
  cases ht with
  | finished => exact h
  | answered => exact { h with }
  | idle => exact hcaught
  | sent => exact hcaught.sent t.now
  | failed => exact { hcaught with }

/-- The client delivers its change over a session key. Request `n` was the last one, counted from
one with a given number, and it is in flight unless it has been found to be late. -/
structure Delivering (first : Client) (sessionKey : SessionKey) (number : UInt32)
    (seen last : Instant) (n : Nat) (c : Client) : Prop extends first.SamePace c where
  /-- The session key is held. -/
  sessionKey_eq : c.handshake.sessionKey = some sessionKey
  /-- The counter has gone on with each request. -/
  counter_eq : c.counter.next = number + UInt32.ofNat (n + 1)
  /-- The last request was sent then. -/
  lastAttempt_eq : c.delivery.lastAttempt = some last
  /-- No answer has come. -/
  outcome_eq : c.delivery.outcome = none
  /-- At most this request is in flight. -/
  pending_eq : c.delivery.pending.requests =
      [⟨number + UInt32.ofNat n, last, first.delivery.timeout⟩] ∨
    c.delivery.pending.requests = [] ∧ first.delivery.timeout ≤ seen.since last

namespace Delivering

/-- What is in flight after a look at the clock. -/
theorem pending_expire (h : first.Delivering sessionKey number seen last n c) (hseen : seen ≤ now) :
    (c.delivery.expire now).pending.requests =
      if first.delivery.timeout ≤ now.since last then []
      else [⟨number + UInt32.ofNat n, last, first.delivery.timeout⟩] := by
  rw [Delivery.expire, PendingSet.expire_eq]
  rcases h.pending_eq with hone | ⟨hnil, hle⟩
  · rw [hone, List.filter_cons, List.filter_nil, PendingRequest.isLive]
    split
    · next hlive => rw [if_neg (Nat.not_le_of_lt (of_decide_eq_true hlive))]
    · next hlate => rw [if_pos (Nat.le_of_not_lt fun hlt => hlate (decide_eq_true hlt))]
  · have hsince : seen.since last ≤ now.since last := Nat.sub_le_sub_right hseen last
    rw [hnil, List.filter_nil, if_pos (Nat.le_trans hle hsince)]

theorem caughtUp (h : first.Delivering sessionKey number seen last n c) (hseen : seen ≤ now)
    (arrived : List Response) :
    first.Delivering sessionKey number now last n (c.caughtUp now arrived) := by
  refine ⟨h.toSamePace.caughtUp now arrived, ?_, h.counter_eq, h.lastAttempt_eq, h.outcome_eq, ?_⟩
  · rw [handshake_caughtUp h.sessionKey_eq, h.sessionKey_eq]
  · rw [Client.caughtUp, h.pending_expire hseen]
    split
    · next hover => exact .inr ⟨rfl, hover⟩
    · exact .inl rfl

/-- The next request is due when the last one is late and the retry interval is over. -/
theorem isDue_caughtUp_iff (h : first.Delivering sessionKey number seen last n c)
    (hseen : seen ≤ now) (arrived : List Response) :
    (c.caughtUp now arrived).isDue now = true ↔
      max first.delivery.retryInterval first.delivery.timeout ≤ now.since last := by
  have h' := h.caughtUp hseen arrived
  have hpending : (c.caughtUp now arrived).delivery.pending.requests = _ := h.pending_expire hseen
  rw [isDue_of_some h'.sessionKey_eq, Delivery.isDue, h'.outcome_eq, h'.lastAttempt_eq,
    h'.retryInterval_eq, hpending, Nat.max_le]
  by_cases hover : first.delivery.timeout ≤ now.since last <;> simp [hover]

end Delivering

/-- A change that is sent is the only one in flight. -/
theorem SamePace.delivering_sent (h : first.SamePace c)
    (hk : c.handshake.sessionKey = some sessionKey) (hout : c.delivery.outcome = none)
    (hdue : c.isDue now = true) (hnumber : c.counter.next = number + UInt32.ofNat n) :
    first.Delivering sessionKey number now now n (c.sent now) := by
  rw [isDue_of_some hk] at hdue
  refine ⟨h.sent now, ?_, ?_, ?_, ?_, .inl ?_⟩
  · rw [sessionKey_sent, hk]
  · rw [counter_sent, SequenceCounter.advance, hnumber, add_ofNat_succ]
  · rw [delivery_sent_of_some hk]
    rfl
  · rw [outcome_sent, hout]
  · rw [delivery_sent_of_some hk, Delivery.sent, PendingSet.push, Delivery.pending_of_isDue hdue,
      List.nil_append, hnumber, h.timeout_eq]

namespace Delivering

theorem sent (h : first.Delivering sessionKey number seen last n c) (hdue : c.isDue now = true) :
    first.Delivering sessionKey number now now (n + 1) (c.sent now) :=
  h.toSamePace.delivering_sent h.sessionKey_eq h.outcome_eq hdue h.counter_eq

/-- A reply to another request does not answer the change. -/
theorem not_answers (h : first.Delivering sessionKey number seen last n c) {r : Response}
    (hr : r.sequence ≠ number + UInt32.ofNat n) (p : PendingRequest) :
    ¬ c.delivery.Answers now r p := by
  intro ha
  have hmem := ha.mem
  rcases h.pending_eq with hone | ⟨hnil, -⟩
  · rw [hone, List.mem_singleton] at hmem
    exact hr (ha.sequence_eq.trans (congrArg PendingRequest.sequence hmem))
  · rw [hnil] at hmem
    cases hmem

end Delivering

end Client

/-! ## Going on -/

section Scheme

variable [SignatureScheme]

namespace Client

variable {first c : Client} {timeout retry : Duration} {seen last now : Instant} {n : Nat}
  {sessionKey : SessionKey} {number : UInt32} {arrived : List Response}

/-- A request for a session key, by its place among them. -/
def keyRequestAt (first : Client) (n : Nat) : Outgoing :=
  ⟨first.target, first.key.keyRequest (first.counter.next + UInt32.ofNat n)⟩

namespace Asking

variable {last : Option Instant}

/-- A tick at which a request is due, and none comes back. -/
theorem turn_of_due (h : first.Asking timeout retry last n c)
    (hdue : ∀ time, last = some time → retry ≤ now.since time) :
    (c.turn ⟨now, [], .ok ()⟩).offered = some (first.keyRequestAt n) ∧
      first.Asking timeout retry (some now) (n + 1) (c.turn ⟨now, [], .ok ()⟩).client := by
  have h' := h.caughtUp now
  have hnext : (c.caughtUp now []).nextRequest =
      first.key.keyRequest (first.counter.next + UInt32.ofNat n) := by
    simp only [nextRequest, h'.waits.sessionKey_eq, h'.key_eq, h'.counter_eq]
  rw [turn_of_unanswered h.outcome_eq (List.forall_mem_nil _), send_eq,
    if_pos (h'.isDue_iff.mpr hdue), hnext, h'.target_eq]
  exact ⟨rfl, h'.sent now⟩

theorem turn_of_not_due {last : Instant} (h : first.Asking timeout retry (some last) n c)
    (hearly : now.since last < retry) :
    (c.turn ⟨now, [], .ok ()⟩).offered = none ∧
      first.Asking timeout retry (some last) n (c.turn ⟨now, [], .ok ()⟩).client := by
  have h' := h.caughtUp now
  rw [turn_of_unanswered h.outcome_eq (List.forall_mem_nil _), send_eq,
    if_neg fun hdue => Nat.not_le_of_lt hearly (h'.isDue_iff.mp hdue last rfl)]
  exact ⟨rfl, h'⟩

end Asking

/-- Without replies, a client that asks goes on asking. -/
theorem asking_paces (first : Client) (timeout retry : Duration) :
    Paces (fun _ last n c => first.Asking timeout retry (some last) (n + 1) c) retry
      first.keyRequestAt (fun _ arrived => arrived = []) where
  late h _ hnone hlate := by
    subst hnone
    exact h.turn_of_due fun _ hlast => Option.some.inj hlast ▸ hlate
  early h _ hnone hearly := by
    subst hnone
    exact h.turn_of_not_due hearly

/-- A request for the change, by its place among them. -/
def changeRequestAt (first : Client) (sessionKey : SessionKey) (number : UInt32) (n : Nat) :
    Outgoing :=
  ⟨first.target, first.key.changeRequest (number + UInt32.ofNat n) first.delivery.payload.bytes
    sessionKey.bytes⟩

theorem Delivering.nextRequest_eq (h : first.Delivering sessionKey number seen last n c) :
    (⟨c.target, c.nextRequest⟩ : Outgoing) = first.changeRequestAt sessionKey number (n + 1) := by
  simp only [nextRequest, h.sessionKey_eq, changeRequestAt, h.target_eq, h.key_eq, h.counter_eq,
    h.payload_eq]

/-- No reply of some is to a request for a change. -/
def Unanswered (o : Outgoing) (arrived : List Response) : Prop :=
  ∀ r ∈ arrived, r.operation = Operation.setConfig.code → r.sequence ≠ o.request.sequence

/-- Without an answer, a client that delivers goes on delivering. -/
theorem delivering_paces (first : Client) (sessionKey : SessionKey) (number : UInt32) :
    Paces (fun seen last n c => first.Delivering sessionKey number seen last n c)
      (max first.delivery.retryInterval first.delivery.timeout)
      (first.changeRequestAt sessionKey number) Unanswered := by
  constructor
  · intro seen last n c now arrived h hseen hunanswered hlate
    have hdue := (h.isDue_caughtUp_iff hseen arrived).mpr hlate
    rw [turn_of_unanswered h.outcome_eq fun r hr hop => h.not_answers (hunanswered r hr hop),
      send_eq, if_pos hdue]
    have h' := h.caughtUp hseen arrived
    exact ⟨congrArg some h'.nextRequest_eq, h'.sent hdue⟩
  · intro seen last n c now arrived h hseen hunanswered hearly
    rw [turn_of_unanswered h.outcome_eq fun r hr hop => h.not_answers (hunanswered r hr hop),
      send_eq,
      if_neg fun hdue => Nat.not_le_of_lt hearly ((h.isDue_caughtUp_iff hseen arrived).mp hdue)]
    exact ⟨rfl, h.caughtUp hseen arrived⟩

/-- The tick at which the change is sent. -/
theorem delivering_of_offered {o : Outgoing} (hsame : first.SamePace c)
    (hoffered : (c.turn ⟨now, arrived, .ok ()⟩).offered = some o)
    (hop : o.request.operation = .setConfig) : ∃ sessionKey,
    (c.turn ⟨now, arrived, .ok ()⟩).client.handshake.sessionKey = some sessionKey ∧
      o = first.changeRequestAt sessionKey o.request.sequence 0 ∧
      first.Delivering sessionKey o.request.sequence now now 0
        (c.turn ⟨now, arrived, .ok ()⟩).client := by
  have ht := c.ticks_turn ⟨now, arrived, .ok ()⟩
  generalize c.turn ⟨now, arrived, .ok ()⟩ = tick at ht hoffered ⊢
  cases ht with
  | finished | answered | idle => cases hoffered
  | failed _ _ hfailed => cases hfailed
  | sent hout hdue =>
    cases hoffered
    have hsame' := hsame.caughtUp now arrived
    rcases (c.caughtUp now arrived).nextRequest_cases with
      ⟨-, hrequest⟩ | ⟨sessionKey, hk, hrequest⟩
    · rw [hrequest] at hop
      cases hop
    · have hnumber : (c.caughtUp now arrived).counter.next =
          (c.caughtUp now arrived).counter.next + UInt32.ofNat 0 := (UInt32.add_zero _).symm
      rw [sequence_nextRequest]
      refine ⟨sessionKey, by rw [sessionKey_sent, hk], ?_,
        hsame'.delivering_sent hk hout hdue hnumber⟩
      rw [hrequest, changeRequestAt, ← hnumber, hsame.target_eq, hsame'.key_eq, hsame'.payload_eq]

/-- From its first request on, the change is sent at every so many ticks. -/
theorem offers_from_change {before later : List (List Response)} {clock : ManualClock}
    {interval retry timeout : Nat} {o : Outgoing} (hsame : first.SamePace c)
    (hretry : first.delivery.retryInterval = .ofMilliseconds retry)
    (htimeout : first.delivery.timeout = .ofMilliseconds timeout) (hinterval : 0 < interval)
    (hclock : clock.elapsed.toNat + (before.length + later.length) * interval < UInt64.size)
    (hoffered : (c.offers (clock.turns interval (before ++ arrived :: later)))[before.length]? =
      some (some o))
    (hop : o.request.operation = .setConfig)
    (hspares : (((c.offers (clock.turns interval (before ++ arrived :: later))).zip
      (before ++ arrived :: later)).drop before.length).Pairwise (Spares Unanswered)) :
    ∃ sessionKey,
      (c.run ((clock.turns interval (before ++ arrived :: later)).take
        (before.length + 1))).handshake.sessionKey = some sessionKey ∧
      (c.offers (clock.turns interval (before ++ arrived :: later))).drop before.length =
        (List.range (later.length + 1)).map
          (scheduled (ticksBetween (max retry timeout) interval)
            (first.changeRequestAt sessionKey o.request.sequence)) := by
  induction before generalizing c clock with
  | nil =>
    obtain ⟨sessionKey, hkey, ho, hc⟩ := delivering_of_offered hsame (Option.some.inj hoffered) hop
    have hp := delivering_paces first sessionKey o.request.sequence
    rw [hretry, htimeout, ← Duration.ofMilliseconds_max] at hp
    rw [List.length_nil, Nat.zero_add] at hclock
    refine ⟨sessionKey, hkey, hp.offers_eq hinterval ?_ hc hclock hspares⟩
    rw [← ho]
    exact Option.some.inj hoffered
  | cons earlier before ih =>
    rw [List.length_cons, Nat.add_right_comm, Nat.succ_mul] at hclock
    have hnowrap : clock.elapsed.toNat + interval < UInt64.size := by omega
    have hclock' : (clock.advance (.ofMilliseconds interval)).elapsed.toNat +
        (before.length + later.length) * interval < UInt64.size := by
      rw [ManualClock.elapsed_advance hnowrap]
      omega
    exact ih (hsame.turn ⟨clock.now, earlier, .ok ()⟩) hclock' hoffered hspares

/-- Without replies, a session key is asked for at every so many ticks. -/
theorem offers_asking {config : ClientConfig} {key : PrivateKey} {change : String} {start : UInt32}
    {clock : ManualClock} {interval retry ticks : Nat} (hnew : new config key change start = .ok c)
    (hretry : config.retryInterval = .ofMilliseconds retry) (hinterval : 0 < interval)
    (hclock : clock.elapsed.toNat + (ticks - 1) * interval < UInt64.size) :
    c.offers (clock.turns interval (List.replicate ticks [])) =
      (List.range ticks).map (scheduled (ticksBetween retry interval) c.keyRequestAt) := by
  cases ticks with
  | zero => rfl
  | succ ticks =>
    have hp := asking_paces c config.timeout config.retryInterval
    have hfirst : (c.turn ⟨clock.now, [], .ok ()⟩).offered = some (c.keyRequestAt 0) ∧
        c.Asking config.timeout config.retryInterval (some clock.now) 1
          (c.turn ⟨clock.now, [], .ok ()⟩).client := (asking_new hnew).turn_of_due nofun
    have hspares : ((c.offers (clock.turns interval (List.replicate (ticks + 1) []))).zip
        (List.replicate (ticks + 1) [])).Pairwise (Spares fun _ arrived => arrived = []) :=
      List.pairwise_of_forall_mem_list fun _ _ _ htick _ _ =>
        List.eq_of_mem_replicate (List.of_mem_zip htick).2
    have hlength : (List.replicate ticks ([] : List Response)).length = ticks :=
      List.length_replicate
    rw [hretry] at hp hfirst
    rw [← hlength, Nat.add_sub_cancel] at hclock
    have h := hp.offers_eq hinterval hfirst.1 hfirst.2 hclock hspares
    rwa [hlength] at h

/-! ## The two periods -/

/-- No reply that comes later is to a request for the change that was sent from tick `j` on. -/
def UnansweredFrom (j : Nat) (offers : List (Option Outgoing)) (arrivals : List (List Response)) :
    Prop :=
  ∀ k i o arrived, j ≤ k → k < i → offers[k]? = some (some o) → arrivals[i]? = some arrived →
    Unanswered o arrived

omit [SignatureScheme] in
theorem UnansweredFrom.pairwise {j : Nat} {offers : List (Option Outgoing)}
    {arrivals : List (List Response)} (h : UnansweredFrom j offers arrivals) :
    ((offers.zip arrivals).drop j).Pairwise (Spares Unanswered) := by
  rw [List.pairwise_iff_getElem]
  intro k i hk hi hlt o ho
  simp only [List.getElem_drop, List.getElem_zip] at ho ⊢
  exact h (j + k) (j + i) o _ (Nat.le_add_right j k) (Nat.add_lt_add_left hlt j)
    (List.getElem?_eq_some_iff.mpr ⟨_, ho⟩) (List.getElem?_eq_getElem _)

/-- How often a client sends, in a number of ticks. -/
structure KeepsCadence (c : Client) (clock : ManualClock) (interval retry timeout ticks : Nat) :
    Prop where
  /-- Without replies it asks for a session key at every so many ticks, from the first on. -/
  asks : c.offers (clock.turns interval (List.replicate ticks [])) =
    (List.range ticks).map (scheduled (ticksBetween retry interval) c.keyRequestAt)
  /-- In all it asks once for each period that has begun, with one number after the other. -/
  calls : c.calls (clock.turns interval (List.replicate ticks [])) =
    (List.range ((ticks + ticksBetween retry interval - 1) / ticksBetween retry interval)).map
      c.keyRequestAt
  /-- If it sends the change at a tick and no later reply is to it or to a change sent after it, the
  change goes out at every so many ticks from there on. -/
  changes : ∀ arrivals : List (List Response), arrivals.length = ticks → ∀ j o,
    (c.offers (clock.turns interval arrivals))[j]? = some (some o) →
    o.request.operation = .setConfig →
    UnansweredFrom j (c.offers (clock.turns interval arrivals)) arrivals →
    ∃ sessionKey,
      (c.run ((clock.turns interval arrivals).take (j + 1))).handshake.sessionKey =
        some sessionKey ∧
      (c.offers (clock.turns interval arrivals)).drop j =
        (List.range (ticks - j)).map
          (scheduled (ticksBetween (max retry timeout) interval)
            (c.changeRequestAt sessionKey o.request.sequence))

/-- A client on a transport that takes every request, ticked at a manual clock that goes on by the
same whole number of milliseconds after each tick, keeps its cadence for as many ticks as the clock
does not wrap in. -/
theorem keeps_cadence {config : ClientConfig} {key : PrivateKey} {change : String} {start : UInt32}
    {c : Client} {clock : ManualClock} {interval retry timeout ticks : Nat}
    (hnew : new config key change start = .ok c)
    (hretry : config.retryInterval = .ofMilliseconds retry)
    (htimeout : config.timeout = .ofMilliseconds timeout) (hinterval : 0 < interval)
    (hclock : clock.elapsed.toNat + (ticks - 1) * interval < UInt64.size) :
    c.KeepsCadence clock interval retry timeout ticks := by
  have hasks := offers_asking hnew hretry hinterval hclock
  refine ⟨hasks, ?_, ?_⟩
  · rw [calls_eq, hasks, flatMap_scheduled (ticksBetween_pos _ _)]
  · intro arrivals hlength j o hoffered hop hunanswered
    have hj : j < arrivals.length := by
      rw [← clock.length_turns interval, ← c.length_offers]
      exact (List.getElem?_eq_some_iff.mp hoffered).1
    obtain ⟨before, arrived, later, rfl, rfl⟩ : ∃ before arrived later,
        arrivals = before ++ arrived :: later ∧ before.length = j :=
      ⟨arrivals.take j, arrivals[j], arrivals.drop (j + 1),
        by rw [List.getElem_cons_drop, List.take_append_drop],
        List.length_take_of_le (Nat.le_of_lt hj)⟩
    have hdelivery : c.delivery.retryInterval = config.retryInterval ∧
        c.delivery.timeout = config.timeout := by
      obtain ⟨payload, -, rfl⟩ := new_eq_ok hnew
      exact ⟨rfl, rfl⟩
    rw [List.length_append, List.length_cons] at hlength
    have hticks : ticks - before.length = later.length + 1 := by omega
    have hclock' : clock.elapsed.toNat + (before.length + later.length) * interval <
        UInt64.size := by
      rwa [← hlength, ← Nat.add_assoc, Nat.add_sub_cancel] at hclock
    rw [hticks]
    exact offers_from_change (.refl c) (hdelivery.1.trans hretry) (hdelivery.2.trans htimeout)
      hinterval hclock' hoffered hop hunanswered.pairwise

end Client

end Scheme

namespace Client

/-- Sixty ticks with nothing but a session key at the second. -/
def keyedArrivals : List (List Response) := [] :: [⟨1000, 1, 0, [7]⟩] :: List.replicate 58 []

theorem offered_keyedArrivals :
    (((locking 1000).offers (ManualClock.start.turns 100 keyedArrivals))[1]?.map fun offered =>
      offered.map fun o => (o.request.operation, o.request.sequence)) =
      some (some (.setConfig, 1001)) := by
  decide +kernel

theorem keeps_cadence_locking :
    0 < 100 ∧ ManualClock.start.elapsed.toNat + (60 - 1) * 100 < UInt64.size ∧
    (locking 1000).KeepsCadence .start 100 2000 3000 60 ∧
    ((locking 1000).calls (ManualClock.start.turns 100 (List.replicate 60 []))).map
      (·.request.sequence) = [1000, 1001, 1002] ∧
    ∃ sessionKey,
      ((locking 1000).offers (ManualClock.start.turns 100 keyedArrivals)).drop 1 =
        (List.range 59).map (scheduled 30 ((locking 1000).changeRequestAt sessionKey 1001)) := by
  have hclock : ManualClock.start.elapsed.toNat + (60 - 1) * 100 < UInt64.size := by decide
  have h : (locking 1000).KeepsCadence .start 100 2000 3000 60 :=
    keeps_cadence (new_locking 1000) rfl rfl (by decide) hclock
  refine ⟨by decide, hclock, h, ?_, ?_⟩
  · rw [h.calls]
    decide +kernel
  · obtain ⟨_, hoffered, ho⟩ := Option.map_eq_some_iff.mp offered_keyedArrivals
    obtain ⟨o, rfl, ho⟩ := Option.map_eq_some_iff.mp ho
    obtain ⟨hop, hsequence⟩ := Prod.mk.inj (Option.some.inj ho)
    have hnone : ∀ rs ∈ keyedArrivals, ∀ r ∈ rs, r.operation ≠ Operation.setConfig.code := by
      decide
    have hunanswered : UnansweredFrom 1
        ((locking 1000).offers (ManualClock.start.turns 100 keyedArrivals)) keyedArrivals :=
      fun _ _ _ _ _ _ _ harrived r hr hop =>
        absurd hop (hnone _ (List.mem_of_getElem? harrived) r hr)
    obtain ⟨sessionKey, -, hchanges⟩ := h.changes keyedArrivals rfl 1 o hoffered hop hunanswered
    rw [hsequence] at hchanges
    exact ⟨sessionKey, hchanges⟩

/-- A client that asks again after a millisecond. -/
def hastyConfig : ClientConfig where
  timeout := .ofMilliseconds 1
  retryInterval := .ofMilliseconds 1

/-- Once the clock has wrapped it reads less than at the last request, and no request is due any
more, however many ticks have passed. -/
theorem not_keeps_cadence :
    ¬ ∀ (config : ClientConfig) (key : PrivateKey) (change : String) (start : UInt32) (c : Client)
        (clock : ManualClock) (interval retry timeout ticks : Nat),
      new config key change start = .ok c → config.retryInterval = .ofMilliseconds retry →
        config.timeout = .ofMilliseconds timeout → 0 < interval →
          c.KeepsCadence clock interval retry timeout ticks := by
  intro h
  have hasks := (h hastyConfig ⟨Block.fill keyLength 1⟩ "LOCK_LEVEL=1" 7 _ .start
    4611686018427387904 1 1 5 rfl rfl rfl (by decide)).asks
  have hfourth := congrArg (fun offers => offers[4]?.map Option.isSome) hasks
  revert hfourth
  decide +kernel

end Client

end SignedControl
