import SignedControl.Proofs.Client.Schedule
import SignedControl.Proofs.Loopback.Run

/-!
# A start with losses

The first requests for a session key are lost. The client asks again whenever the retry interval is
over, which it notices at a tick.

* `Loopback.later`: how a loopback stands after some ticks and losses. All that is not known of it is
  which of the lost requests the handshake still waits for (`Handshake.Waits`).
* `Loopback.passes_quiet`, `Loopback.passes_lost`: the ticks of this time. `passes_attempt` is a lost
  request with the ticks up to the next, and `passes_losses` all of them.
-/

namespace SignedControl

/-! ## Ticks and time -/

/-- The reading of a clock at a tick. -/
def tickTime (interval tick : Nat) : Instant := Duration.ofMilliseconds (tick * interval)

theorem ofMilliseconds_le_since {interval retry tick last : Nat} :
    Duration.ofMilliseconds retry ≤ (tickTime interval tick).since (tickTime interval last) ↔
      retry ≤ (tick - last) * interval := by
  simp only [tickTime, Duration.ofMilliseconds, Instant.since, ← Nat.sub_mul]
  exact Nat.mul_le_mul_right_iff (by decide)

theorem tickTime_le_succ (interval tick : Nat) :
    tickTime interval tick ≤ tickTime interval (tick + 1) :=
  Nat.mul_le_mul_right _ (Nat.mul_le_mul_right _ (Nat.le_succ tick))

/-- From a tick to the next the time between two ticks passes. -/
theorem since_succ (interval tick : Nat) :
    (tickTime interval (tick + 1)).since (tickTime interval tick) =
      Duration.ofMilliseconds interval := by
  simp only [tickTime, Duration.ofMilliseconds, Instant.since, ← Nat.sub_mul,
    Nat.add_sub_cancel_left, Nat.one_mul]

/-- A manual clock at a tick. -/
def ManualClock.atTick (interval tick : Nat) : ManualClock := ⟨UInt64.ofNat (tick * interval)⟩

theorem ManualClock.atTick_zero (interval : Nat) : atTick interval 0 = .start := by
  rw [atTick, Nat.zero_mul]
  rfl

@[simp] theorem ManualClock.advance_atTick (interval tick : Nat) :
    (atTick interval tick).advance (.ofMilliseconds interval) = atTick interval (tick + 1) := by
  simp only [atTick, advance, Duration.milliseconds_ofMilliseconds, Nat.succ_mul, UInt64.ofNat_add]

theorem ManualClock.now_atTick {interval tick : Nat} (h : tick * interval < UInt64.size) :
    (atTick interval tick).now = tickTime interval tick := by
  rw [now, atTick, UInt64.toNat_ofNat_of_lt' h, tickTime]

/-! ## A loopback with losses -/

/-- What was handed to the transport in some ticks. -/
def TickReport.offers (rs : List TickReport) : List Outgoing :=
  rs.filterMap fun r => r.sent.map (·.1)

theorem TickReport.offers_append (rs rs' : List TickReport) :
    offers (rs ++ rs') = offers rs ++ offers rs' := List.filterMap_append

namespace Loopback

/-- A loopback at its beginning. Its first requests will be lost, and the others answered at once by
a node that trusts the client. -/
structure LossyStart (first : Loopback) (losses : Nat) (timeout retry : Duration)
    [SignatureScheme] : Prop where
  /-- Nothing but these requests is lost, late or repeated. -/
  conditions_eq : first.conditions = { losesRequest := fun number => number < losses }
  /-- The client addresses the node. -/
  target_eq : first.client.target = first.serverNode
  /-- The node trusts it. -/
  trusted : first.client.key.publicKey ∈ first.authority.keys
  /-- The handshake has not begun. -/
  handshake_eq : first.client.handshake = .new timeout retry
  /-- Nor has the delivery. -/
  delivery_eq : first.client.delivery = .new first.client.delivery.payload timeout retry
  /-- The clock has not moved. -/
  clock_eq : first.clock = .start
  /-- No request has been sent. -/
  sent_eq : first.sent = 0
  /-- No reply is underway. -/
  underway_eq : first.underway = []

/-- The loopback after some ticks in which some requests have been sent, and nothing has come
back. -/
def later (first : Loopback) (interval ticks requests : Nat) (h : Handshake) : Loopback :=
  { first with
    client := { first.client with
      handshake := h
      counter := ⟨first.client.counter.next + UInt32.ofNat requests⟩ }
    clock := .atTick interval ticks
    sent := requests
    underway := [] }

section Scheme

variable [SignatureScheme] {first : Loopback} {losses : Nat} {timeout retry : Duration}
  {interval ticks requests : Nat} {h : Handshake} {last : Option Instant}

theorem later_zero (hs : first.LossyStart losses timeout retry) (interval : Nat) :
    first.later interval 0 0 (.new timeout retry) = first := by
  have hcounter : first.client.counter.next + UInt32.ofNat 0 = first.client.counter.next :=
    UInt32.add_zero _
  rw [later, ManualClock.atTick_zero, hcounter, ← hs.handshake_eq, ← hs.clock_eq, ← hs.sent_eq,
    ← hs.underway_eq]

theorem LossyStart.pending_eq (hs : first.LossyStart losses timeout retry) :
    first.client.delivery.pending.requests = [] :=
  congrArg (·.pending.requests) hs.delivery_eq

theorem LossyStart.outcome_eq (hs : first.LossyStart losses timeout retry) :
    first.client.delivery.outcome = none :=
  congrArg Delivery.outcome hs.delivery_eq

theorem LossyStart.lastAttempt_eq (hs : first.LossyStart losses timeout retry) :
    first.client.delivery.lastAttempt = none :=
  congrArg Delivery.lastAttempt hs.delivery_eq

theorem LossyStart.timeout_eq (hs : first.LossyStart losses timeout retry) :
    first.client.delivery.timeout = timeout :=
  congrArg Delivery.timeout hs.delivery_eq

theorem reads_later (hs : first.LossyStart losses timeout retry) :
    (first.later interval ticks requests h).Reads :=
  ⟨hs.outcome_eq, List.forall_mem_nil _, List.forall_mem_nil _⟩

omit [SignatureScheme] in
theorem now_later (h : Handshake) (hclock : ticks * interval < UInt64.size) :
    (first.later interval ticks requests h).clock.now = tickTime interval ticks :=
  ManualClock.now_atTick hclock

/-- At a tick at which nothing comes back requests are forgotten at most. -/
theorem caughtUp_later (hs : first.LossyStart losses timeout retry)
    (hclock : ticks * interval < UInt64.size) :
    (first.later interval ticks requests h).caughtUp =
      (first.later interval ticks requests (h.expire (tickTime interval ticks))).client := by
  have hdelivery := Delivery.expire_of_empty hs.pending_eq (tickTime interval ticks)
  simp only [caughtUp, Client.caughtUp, later, ManualClock.now_atTick hclock, List.map_nil,
    Handshake.receiveAll, hdelivery]

/-- A request is due if the retry interval is over. -/
theorem isDue_later (hs : first.LossyStart losses timeout retry)
    (hclock : ticks * interval < UInt64.size) (hw : h.Waits timeout retry last) :
    (first.later interval ticks requests h).caughtUp.isDue
        (first.later interval ticks requests h).clock.now = true ↔
      ∀ time, last = some time → retry ≤ (tickTime interval ticks).since time := by
  have hw' := hw.of_drops (h.expire_drops (tickTime interval ticks))
  rw [caughtUp_later hs hclock, Client.isDue_of_none hw'.sessionKey_eq, now_later h hclock]
  exact hw'.isDue_iff _

/-- A tick without a request. -/
theorem passes_quiet (hs : first.LossyStart losses timeout retry)
    (requests : Nat) (hclock : ticks * interval < UInt64.size) (hw : h.Waits timeout retry last)
    (hdue : ∃ time, last = some time ∧ (tickTime interval ticks).since time < retry) :
    ∃ report h', Passes (.ofMilliseconds interval) (first.later interval ticks requests h) [report]
      (first.later interval (ticks + 1) requests h') ∧ TickReport.offers [report] = [] ∧
      h'.Waits timeout retry last := by
  have hnot : (first.later interval ticks requests h).caughtUp.isDue
      (first.later interval ticks requests h).clock.now = false := by
    rw [Bool.eq_false_iff, ne_eq, isDue_later hs hclock hw]
    obtain ⟨time, hlast, hlt⟩ := hdue
    exact fun hle => Nat.not_le.mpr hlt (hle time hlast)
  have hpasses :=
    Passes.of_tick (.ofMilliseconds interval) (tick_of_not_due (reads_later hs) hnot) rfl
  have hw' := hw.of_drops (h.expire_drops (tickTime interval ticks))
  refine ⟨⟨none, (h.expire (tickTime interval ticks)).state, .ok none⟩, _, ?_, rfl, hw'⟩
  rw [caughtUp_later hs hclock] at hpasses
  simpa only [later, ManualClock.advance_atTick] using hpasses

omit [SignatureScheme] in
theorem sent_later (hk : h.sessionKey = none) (now : Instant) :
    (first.later interval ticks requests h).client.sent now =
      (first.later interval ticks (requests + 1)
        (h.sent now (first.client.counter.next + UInt32.ofNat requests))).client := by
  simp only [Client.sent, later, hk, SequenceCounter.advance, add_ofNat_succ]

/-- A tick with a request, up to its carrying to the node. -/
theorem tick_later_of_due (hs : first.LossyStart losses timeout retry)
    (requests : Nat) (hclock : ticks * interval < UInt64.size) (hw : h.Waits timeout retry last)
    (hdue : ∀ time, last = some time → retry ≤ (tickTime interval ticks).since time)
    {sequence : UInt32} (hsequence : sequence = first.client.counter.next + UInt32.ofNat requests)
    {fate : Fate} {l : Loopback}
    (hcarry : { first.later interval ticks (requests + 1)
        ((h.expire (tickTime interval ticks)).sent (tickTime interval ticks) sequence) with
        sent := requests }.carry ⟨first.client.target, first.client.key.keyRequest sequence⟩ =
      (fate, l)) :
    ∃ state, (first.later interval ticks requests h).tick =
      (⟨some (⟨first.client.target, first.client.key.keyRequest sequence⟩, fate), state,
        .ok none⟩, l) := by
  subst hsequence
  have hw' := hw.of_drops (h.expire_drops (tickTime interval ticks))
  have hnext : (first.later interval ticks requests h).caughtUp.nextRequest =
      first.client.key.keyRequest (first.client.counter.next + UInt32.ofNat requests) := by
    rw [caughtUp_later hs hclock, Client.nextRequest]
    simp only [later, hw'.sessionKey_eq]
  rw [← hnext] at hcarry ⊢
  refine ⟨_, tick_of_due (reads_later hs) ((isDue_later hs hclock hw).mpr hdue) ?_⟩
  rw [now_later h hclock, caughtUp_later hs hclock, sent_later hw'.sessionKey_eq]
  rw [caughtUp_later hs hclock] at hcarry
  exact hcarry

/-- A tick with a request that is lost. -/
theorem passes_lost (hs : first.LossyStart losses timeout retry)
    (requests : Nat) (hclock : ticks * interval < UInt64.size) (hw : h.Waits timeout retry last)
    (hdue : ∀ time, last = some time → retry ≤ (tickTime interval ticks).since time)
    (hlost : requests < losses) :
    ∃ report h', Passes (.ofMilliseconds interval) (first.later interval ticks requests h) [report]
      (first.later interval (ticks + 1) (requests + 1) h') ∧
      TickReport.offers [report] = [⟨first.client.target, first.client.key.keyRequest
        (first.client.counter.next + UInt32.ofNat requests)⟩] ∧
      h'.Waits timeout retry (some (tickTime interval ticks)) := by
  have hw' := hw.of_drops (h.expire_drops (tickTime interval ticks))
  obtain ⟨state, htick⟩ := tick_later_of_due hs requests hclock hw hdue rfl
    (carry_of_lost (by simp [later, hs.conditions_eq, hlost]))
  have hpasses := Passes.of_tick (.ofMilliseconds interval) htick rfl
  simp only [later, ManualClock.advance_atTick] at hpasses
  exact ⟨_, _, hpasses, rfl, hw'.sent _ _⟩

/-! ## Lost attempts -/

/-- After a request nothing is sent until the retry interval is over. -/
theorem passes_gap {retry : Nat} (hs : first.LossyStart losses timeout (.ofMilliseconds retry))
    (requests : Nat) (hinterval : 0 < interval) {asked : Nat}
    (hw : h.Waits timeout (.ofMilliseconds retry) (some (tickTime interval asked))) (gap : Nat)
    (hgap : gap + 1 ≤ ticksBetween retry interval)
    (hclock : (asked + 1 + gap) * interval < UInt64.size) :
    ∃ rs h', Passes (.ofMilliseconds interval) (first.later interval (asked + 1) requests h) rs
      (first.later interval (asked + 1 + gap) requests h') ∧ rs.length = gap ∧
      TickReport.offers rs = [] ∧
      h'.Waits timeout (.ofMilliseconds retry) (some (tickTime interval asked)) := by
  induction gap with
  | zero => exact ⟨[], h, .nil _, rfl, rfl, hw⟩
  | succ gap ih =>
    have hle : (asked + 1 + gap) * interval ≤ (asked + 1 + (gap + 1)) * interval :=
      Nat.mul_le_mul_right _ (by omega)
    obtain ⟨rs, h', hpasses, hlength, hoffers, hw'⟩ := ih (by omega) (by omega)
    -- Fewer ticks have passed than lie between two attempts.
    have hsoon : ¬ retry ≤ (asked + 1 + gap - asked) * interval := by
      rw [← ticksBetween_le_iff hinterval (by omega)]
      omega
    rw [← ofMilliseconds_le_since, Nat.not_le] at hsoon
    obtain ⟨report, h'', hpasses', hoffers', hw''⟩ :=
      passes_quiet hs requests (by omega) hw' ⟨_, rfl, hsoon⟩
    refine ⟨rs ++ [report], h'', hpasses.append hpasses', ?_, ?_, hw''⟩
    · rw [List.length_append, hlength, List.length_singleton]
    · rw [TickReport.offers_append, hoffers, hoffers', List.append_nil]

/-- A lost request, and the ticks up to the next one. -/
theorem passes_attempt {retry : Nat} (hs : first.LossyStart losses timeout (.ofMilliseconds retry))
    (hinterval : 0 < interval) (hw : h.Waits timeout (.ofMilliseconds retry) last)
    (hdue : ∀ time, last = some time →
      Duration.ofMilliseconds retry ≤ (tickTime interval ticks).since time)
    (hlost : requests < losses)
    (hclock : (ticks + ticksBetween retry interval) * interval < UInt64.size) :
    ∃ rs h', Passes (.ofMilliseconds interval) (first.later interval ticks requests h) rs
      (first.later interval (ticks + ticksBetween retry interval) (requests + 1) h') ∧
      rs.length = ticksBetween retry interval ∧
      TickReport.offers rs = [⟨first.client.target, first.client.key.keyRequest
        (first.client.counter.next + UInt32.ofNat requests)⟩] ∧
      h'.Waits timeout (.ofMilliseconds retry) (some (tickTime interval ticks)) := by
  obtain ⟨gap, hgap⟩ := Nat.exists_eq_add_of_lt (ticksBetween_pos retry interval)
  have hticks : ticks + ticksBetween retry interval = ticks + 1 + gap := by omega
  have hle : ticks * interval ≤ (ticks + ticksBetween retry interval) * interval :=
    Nat.mul_le_mul_right _ (Nat.le_add_right _ _)
  obtain ⟨report, h', hpasses, hoffers, hw'⟩ := passes_lost hs requests (by omega) hw hdue hlost
  rw [hticks] at hclock ⊢
  obtain ⟨rs, h'', hpasses', hlength, hoffers', hw''⟩ :=
    passes_gap hs (requests + 1) hinterval hw' gap (by omega) hclock
  refine ⟨[report] ++ rs, h'', hpasses.append hpasses', ?_, ?_, hw''⟩
  · rw [List.length_append, hlength, List.length_singleton]
    omega
  · rw [TickReport.offers_append, hoffers, hoffers', List.append_nil]

/-- The requests for a session key from the first on. -/
def keyRequests (first : Loopback) (count : Nat) : List Outgoing :=
  (List.range count).map fun n =>
    ⟨first.client.target, first.client.key.keyRequest
      (first.client.counter.next + UInt32.ofNat n)⟩

theorem keyRequests_succ (first : Loopback) (count : Nat) :
    first.keyRequests (count + 1) = first.keyRequests count ++ [⟨first.client.target,
      first.client.key.keyRequest (first.client.counter.next + UInt32.ofNat count)⟩] := by
  simp only [keyRequests, List.range_succ, List.map_append, List.map_singleton]

/-- All attempts that are lost. After them a request is due. -/
theorem passes_losses {retry : Nat} (hs : first.LossyStart losses timeout (.ofMilliseconds retry))
    (hinterval : 0 < interval) (count : Nat) (hcount : count ≤ losses)
    (hclock : count * ticksBetween retry interval * interval < UInt64.size) :
    ∃ rs h last, Passes (.ofMilliseconds interval) first rs
      (first.later interval (count * ticksBetween retry interval) count h) ∧
      rs.length = count * ticksBetween retry interval ∧
      TickReport.offers rs = first.keyRequests count ∧
      h.Waits timeout (.ofMilliseconds retry) last ∧
      ∀ time, last = some time → Duration.ofMilliseconds retry ≤
        (tickTime interval (count * ticksBetween retry interval)).since time := by
  induction count with
  | zero =>
    refine ⟨[], .new timeout (.ofMilliseconds retry), none, ?_, ?_, rfl,
      Handshake.waits_new _ _, nofun⟩
    · rw [Nat.zero_mul, later_zero hs]
      exact .nil first
    · rw [Nat.zero_mul, List.length_nil]
  | succ count ih =>
    rw [Nat.succ_mul] at hclock ⊢
    have hle : count * ticksBetween retry interval * interval ≤
        (count * ticksBetween retry interval + ticksBetween retry interval) * interval :=
      Nat.mul_le_mul_right _ (Nat.le_add_right _ _)
    obtain ⟨rs, h, last, hpasses, hlength, hoffers, hw, hdue⟩ := ih (by omega) (by omega)
    obtain ⟨rs', h', hpasses', hlength', hoffers', hw'⟩ :=
      passes_attempt hs hinterval hw hdue hcount hclock
    refine ⟨rs ++ rs', h', _, hpasses.append hpasses', ?_, ?_, hw', ?_⟩
    · rw [List.length_append, hlength, hlength']
    · rw [TickReport.offers_append, hoffers, hoffers', keyRequests_succ]
    · rintro _ ⟨⟩
      rw [ofMilliseconds_le_since, Nat.add_sub_cancel_left,
        ← ticksBetween_le_iff hinterval (ticksBetween_pos _ _)]

end Scheme

end Loopback

end SignedControl
