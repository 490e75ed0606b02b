import Mathlib.Algebra.Order.Floor.Div
import SignedControl.Proofs.Client.Order
import SignedControl.Proofs.Client.Requester

/-!
# How many requests a client waits for

A client asks for a session key again and again, and no number of attempts is too many. What it waits
for is bounded all the same: it asks only once per retry interval, and it forgets the requests whose
time is up before it asks. So of two requests that are waited for the second was sent at least a retry
interval after the first, and sooner than the first one's time was up. `Overlaps` says this of a pair,
and it holds of all pairs of a list only if the list is short.

* `length_le_of_overlaps`: how short.
* `Handshake.Waiting`: what the send times of a handshake's requests have to do with each other and
  with the last attempt. `Handshake.Waiting.sent` is where asking and forgetting come together.
* `Client.bookkeeping_turn`, `Client.bookkeeping_run`: a turn keeps this, and so does a run whose clock
  does not go back.
* `Client.outstanding_bounded`: the bound, after every run.
-/

namespace SignedControl

/-! ## Requests that overlap -/

/-- The second request was sent at least a retry interval after the first, while the first was
waited for. -/
structure Overlaps (timeout retry : Duration) (p q : PendingRequest) : Prop where
  /-- They are apart. -/
  add_le : p.sentAt + retry ≤ q.sentAt
  /-- They overlap. -/
  lt_add : q.sentAt < p.sentAt + timeout

section Overlaps

variable {timeout retry : Duration} {p : PendingRequest} {ps : List PendingRequest}

/-- Between the first and the last request there are as many retry intervals as requests follow the
first. -/
theorem sentAt_add_le_getLast (h : (p :: ps).Pairwise (Overlaps timeout retry)) :
    p.sentAt + ps.length * retry ≤ ((p :: ps).getLast (List.cons_ne_nil p ps)).sentAt := by
  induction ps generalizing p with
  | nil => simp
  | cons q ps ih =>
    obtain ⟨hfirst, hrest⟩ := List.pairwise_cons.mp h
    have hapart := (hfirst q List.mem_cons_self).add_le
    calc p.sentAt + (q :: ps).length * retry
        = p.sentAt + retry + ps.length * retry := by
          rw [List.length_cons, Nat.succ_mul, Nat.add_comm (_ * _), Nat.add_assoc]
      _ ≤ q.sentAt + ps.length * retry := Nat.add_le_add_right hapart _
      _ ≤ ((q :: ps).getLast (List.cons_ne_nil q ps)).sentAt := ih hrest
      _ = ((p :: q :: ps).getLast (List.cons_ne_nil p _)).sentAt := rfl

/-- All of these retry intervals fit into the time for which the first request is waited for. -/
theorem length_le_of_overlaps (hretry : 0 < retry) (h : ps.Pairwise (Overlaps timeout retry)) :
    ps.length ≤ max 1 (timeout ⌈/⌉ retry) := by
  match ps with
  | [] => exact Nat.zero_le _
  | [_] => exact Nat.le_max_left _ _
  | p :: q :: ps =>
    have hlast := (List.pairwise_cons.mp h).1 _ (List.getLast_mem (List.cons_ne_nil q ps))
    have hspan := sentAt_add_le_getLast h
    rw [List.getLast_cons (List.cons_ne_nil q ps)] at hspan
    have hfits : retry * (q :: ps).length < timeout := by
      rw [Nat.mul_comm]
      exact Nat.lt_of_add_lt_add_left (Nat.lt_of_le_of_lt hspan hlast.lt_add)
    have hlength : (q :: ps).length < timeout ⌈/⌉ retry := by
      rw [← Nat.not_le, ceilDiv_le_iff_le_mul hretry, Nat.not_le]
      exact hfits
    exact Nat.le_trans hlength (Nat.le_max_right _ _)

end Overlaps

/-! ## The handshake -/

namespace Handshake

/-- What the requests that a handshake waits for have in common, when the clock reads `latest` and
has not gone back. -/
structure Waiting (h : Handshake) (timeout retry : Duration) (latest : Instant) : Prop where
  /-- A reply is waited for as long. -/
  timeout_eq : h.timeout = timeout
  /-- Between two requests there is as much time. -/
  retryInterval_eq : h.retryInterval = retry
  /-- The last attempt is over. -/
  lastAttempt_le : ∀ last, h.lastAttempt = some last → last ≤ latest
  /-- No request is newer than the last attempt. -/
  sentAt_le : ∀ p ∈ h.pending.requests, ∃ last, h.lastAttempt = some last ∧ p.sentAt ≤ last
  /-- All replies are waited for as long. -/
  timeout_of_mem : ∀ p ∈ h.pending.requests, p.timeout = timeout
  /-- The requests overlap. -/
  overlaps : h.pending.requests.Pairwise (Overlaps timeout retry)

variable {h h' : Handshake} {timeout retry : Duration} {latest now : Instant}

theorem waiting_new (timeout retry : Duration) (latest : Instant) :
    (new timeout retry).Waiting timeout retry latest :=
  ⟨rfl, rfl, nofun, nofun, nofun, .nil⟩

theorem waiting_haveKey (hw : h.Waiting timeout retry latest) (key : SessionKey) :
    Waiting { h with progress := .haveKey key } timeout retry latest :=
  ⟨hw.timeout_eq, hw.retryInterval_eq, nofun, nofun, nofun, .nil⟩

theorem Waiting.mono (hw : h.Waiting timeout retry latest) (hle : latest ≤ now) :
    h.Waiting timeout retry now :=
  { hw with lastAttempt_le := fun last hlast => Nat.le_trans (hw.lastAttempt_le last hlast) hle }

theorem Waiting.of_drops (hw : h.Waiting timeout retry latest) (hd : h.Drops h') :
    h'.Waiting timeout retry latest where
  timeout_eq := hd.timeout_eq.trans hw.timeout_eq
  retryInterval_eq := hd.retryInterval_eq.trans hw.retryInterval_eq
  lastAttempt_le := hd.lastAttempt_eq ▸ hw.lastAttempt_le
  sentAt_le p hp := hd.lastAttempt_eq ▸ hw.sentAt_le p (hd.sublist.subset hp)
  timeout_of_mem p hp := hw.timeout_of_mem p (hd.sublist.subset hp)
  overlaps := hw.overlaps.sublist hd.sublist

theorem Waiting.receiveAll (hw : h.Waiting timeout retry latest) (now : Instant)
    (rs : List Response) : (h.receiveAll now rs).Waiting timeout retry latest := by
  obtain ⟨_, _, _, key, -, he⟩ | hd := h.receiveAll_cases now rs
  · rw [he]
    exact waiting_haveKey hw key
  · exact hw.of_drops hd

/-- What is left when the time has been looked at is still waited for. -/
theorem isLive_of_mem_expire {p : PendingRequest} (hp : p ∈ (h.expire now).pending.requests) :
    p.isLive now = true := by
  cases hprogress : h.progress with
  | awaitingKey last pending =>
    simp only [expire, hprogress, Handshake.pending] at hp
    exact (List.mem_filter.mp hp).2
  | init | haveKey => simp [expire, hprogress, Handshake.pending, PendingSet.empty] at hp

/-- A new request overlaps with those that are still waited for: it is due, so that the last attempt
is a retry interval ago, and none of them was sent after that. -/
theorem Waiting.sent (hw : h.Waiting timeout retry now) (hdue : h.isDue now = true)
    (hlive : ∀ p ∈ h.pending.requests, p.isLive now = true) (sequence : UInt32) :
    (h.sent now sequence).Waiting timeout retry now := by
  have hpending : (h.sent now sequence).pending.requests =
      h.pending.requests ++ [⟨sequence, now, h.timeout⟩] := rfl
  have hmem : ∀ {p}, p ∈ (h.sent now sequence).pending.requests →
      p ∈ h.pending.requests ∨ p = ⟨sequence, now, h.timeout⟩ := by
    intro p hp
    rwa [hpending, List.mem_append, List.mem_singleton] at hp
  have hold : ∀ p ∈ h.pending.requests, p.sentAt + retry ≤ now := by
    intro p hp
    obtain ⟨last, hlast, hle⟩ := hw.sentAt_le p hp
    have hsince := (isDue_iff (sessionKey_of_isDue hdue) now).mp hdue last hlast
    rw [hw.retryInterval_eq] at hsince
    have hlater := Nat.add_le_of_le_sub' (hw.lastAttempt_le last hlast) hsince
    exact Nat.le_trans (Nat.add_le_add_right hle retry) hlater
  refine ⟨hw.timeout_eq, hw.retryInterval_eq, ?_, ?_, ?_, ?_⟩
  · rintro _ ⟨⟩
    exact Nat.le_refl now
  · intro p hp
    refine ⟨now, rfl, ?_⟩
    rcases hmem hp with hp | rfl
    · exact Nat.le_trans (Nat.le_add_right _ _) (hold p hp)
    · exact Nat.le_refl now
  · intro p hp
    rcases hmem hp with hp | rfl
    · exact hw.timeout_of_mem p hp
    · exact hw.timeout_eq
  · rw [hpending, List.pairwise_append]
    refine ⟨hw.overlaps, List.pairwise_singleton _ _, ?_⟩
    intro p hp q hq
    rw [List.mem_singleton] at hq
    subst hq
    refine ⟨hold p hp, ?_⟩
    have hwindow : now - p.sentAt < p.timeout := of_decide_eq_true (hlive p hp)
    rw [hw.timeout_of_mem p hp] at hwindow
    exact (Nat.sub_lt_iff_lt_add' (Nat.le_trans (Nat.le_add_right _ _) (hold p hp))).mp hwindow

end Handshake

/-! ## The client -/

namespace Client

/-- A client keeps account of the requests that it waits for, when the clock reads `latest` and has
not gone back. -/
structure Bookkeeping (c : Client) (timeout retry : Duration) (latest : Instant) : Prop where
  /-- Requests for a session key overlap. -/
  waiting : c.handshake.Waiting timeout retry latest
  /-- There is one change in flight at most. -/
  length_le : c.delivery.pending.requests.length ≤ 1

section Scheme

variable [SignatureScheme] {c : Client} {timeout retry : Duration} {latest now : Instant}

omit [SignatureScheme] in
theorem bookkeeping_new {config : ClientConfig} {key : PrivateKey} {change : String}
    {start : UInt32} (hnew : new config key change start = .ok c) (latest : Instant) :
    c.Bookkeeping config.timeout config.retryInterval latest := by
  obtain ⟨payload, -, rfl⟩ := new_eq_ok hnew
  exact ⟨Handshake.waiting_new _ _ latest, Nat.zero_le 1⟩

omit [SignatureScheme] in
theorem Bookkeeping.mono (hb : c.Bookkeeping timeout retry latest) (hle : latest ≤ now) :
    c.Bookkeeping timeout retry now :=
  { hb with waiting := hb.waiting.mono hle }

omit [SignatureScheme] in
theorem Bookkeeping.caughtUp (hb : c.Bookkeeping timeout retry latest) (now : Instant)
    (arrived : List Response) : (c.caughtUp now arrived).Bookkeeping timeout retry latest where
  waiting := (hb.waiting.receiveAll now arrived).of_drops (Handshake.expire_drops _ now)
  length_le := Nat.le_trans (List.length_filter_le _ _) hb.length_le

omit [SignatureScheme] in
/-- Whatever is due may be sent once the time has been looked at. -/
theorem Bookkeeping.sent (hb : c.Bookkeeping timeout retry now) {arrived : List Response}
    (hdue : (c.caughtUp now arrived).isDue now = true) :
    ((c.caughtUp now arrived).sent now).Bookkeeping timeout retry now := by
  have hcaught := hb.caughtUp now arrived
  cases hk : (c.caughtUp now arrived).handshake.sessionKey with
  | none =>
    rw [isDue_of_none hk] at hdue
    constructor
    · rw [handshake_sent_of_none hk]
      exact hcaught.waiting.sent hdue (fun _ => Handshake.isLive_of_mem_expire) _
    · rw [delivery_sent_of_none hk]
      exact hcaught.length_le
  | some key =>
    rw [isDue_of_some hk] at hdue
    constructor
    · rw [handshake_sent_of_some hk]
      exact hcaught.waiting
    · rw [delivery_sent_of_some hk]
      simp [Delivery.sent, PendingSet.push, Delivery.pending_of_isDue hdue]

/-- A turn keeps the account in order, if the clock does not go back. -/
theorem bookkeeping_turn (hb : c.Bookkeeping timeout retry latest) {t : Turn}
    (hle : latest ≤ t.now) : (c.turn t).client.Bookkeeping timeout retry t.now := by
  have hnow := hb.mono hle
  have ht := c.ticks_turn t
  generalize c.turn t = tick at ht ⊢
  cases ht with
  | finished => exact hnow
  | answered => exact ⟨hnow.waiting.receiveAll _ _, Nat.zero_le 1⟩
  | idle => exact hnow.caughtUp t.now t.arrived
  | sent _ hdue => exact hnow.sent hdue
  | failed =>
    have hcaught := hnow.caughtUp t.now t.arrived
    exact ⟨hcaught.waiting, hcaught.length_le⟩

theorem bookkeeping_run (hb : c.Bookkeeping timeout retry latest) {turns : List Turn}
    (htimes : (latest :: turns.map Turn.now).Pairwise (· ≤ ·)) :
    ∃ now, (c.run turns).Bookkeeping timeout retry now := by
  induction turns generalizing c latest with
  | nil => exact ⟨latest, hb⟩
  | cons t turns ih =>
    obtain ⟨hfirst, hrest⟩ := List.pairwise_cons.mp htimes
    exact ih (bookkeeping_turn hb (hfirst t.now List.mem_cons_self)) hrest

/-- In every run of a client whose clock does not go back, after any number of turns: the handshake
waits for no more requests than there are retry intervals in the time-out, rounded up, or for one if
the time-out is nothing, and the delivery waits for one at most. -/
theorem outstanding_bounded {config : ClientConfig} {key : PrivateKey} {change : String}
    {start : UInt32} (hnew : new config key change start = .ok c) (hretry : 0 < config.retryInterval)
    {turns : List Turn} (htimes : (turns.map Turn.now).Pairwise (· ≤ ·)) :
    (c.run turns).handshake.pending.requests.length ≤
        max 1 (config.timeout ⌈/⌉ config.retryInterval) ∧
      (c.run turns).delivery.pending.requests.length ≤ 1 := by
  have hfrom : (0 :: turns.map Turn.now).Pairwise (· ≤ ·) :=
    List.pairwise_cons.mpr ⟨fun _ _ => Nat.zero_le _, htimes⟩
  obtain ⟨now, hb⟩ := bookkeeping_run (bookkeeping_new hnew 0) hfrom
  exact ⟨length_le_of_overlaps hretry hb.waiting.overlaps, hb.length_le⟩

end Scheme

/-- Requests that are not answered, one of which the transport refuses. -/
def unansweredTurns : List Turn :=
  [⟨0, [], .ok ()⟩, ⟨defaultRetryInterval, [], .error (.closed "")⟩,
    ⟨defaultRetryInterval, [], .ok ()⟩, ⟨defaultTimeout, [], .ok ()⟩]

/-- Two requests are waited for at once, and there can be no more: the time-out is one and a half
retry intervals. -/
theorem outstanding_bounded_unansweredTurns :
    ((locking 3).run (unansweredTurns.take 3)).handshake.pending.requests.length = 2 ∧
      ((locking 3).run unansweredTurns).handshake.pending.requests.length ≤ 2 ∧
      ((locking 3).run unansweredTurns).delivery.pending.requests.length ≤ 1 := by
  have hnew : new {} ⟨Block.fill keyLength 1⟩ "LOCK_LEVEL=1" 3 = .ok (locking 3) := by decide
  have htimes : (unansweredTurns.map Turn.now).Pairwise (· ≤ ·) := by decide
  exact ⟨rfl, outstanding_bounded hnew (by decide) htimes⟩

end Client

end SignedControl
