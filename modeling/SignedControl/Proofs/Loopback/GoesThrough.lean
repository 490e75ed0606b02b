import SignedControl.Proofs.Client.OneInFlight
import SignedControl.Proofs.Loopback.Losses

/-!
# A run that goes through

After the losses each request is answered at once, and the client needs three more ticks: one that
asks for the session key, one that takes it and sends the change, one that takes the answer.

* `Authority.handle_keyRequest`, `Authority.handle_changeRequest`: what a node that trusts the client
  replies.
* `Loopback.passes_heard`, `Loopback.passes_keyed`, `Loopback.tick_concluding`: the three ticks.
* `Loopback.goes_through`: the whole run, whatever the losses, as long as the clock's counter does
  not wrap. `Loopback.not_goes_through`: if it does, the client may wait for good.
-/

namespace SignedControl

/-! ## The node's replies -/

namespace Authority

variable [SignatureScheme] [LawfulSignatureScheme] {a : Authority} {key : PrivateKey}

omit [SignatureScheme] [LawfulSignatureScheme] in
theorem sessionKey_ne_nil (k : Block sessionKeyLength) : k.bytes ≠ [] := by
  intro h
  have hlength := k.length_eq
  rw [h] at hlength
  cases hlength

/-- The session key that the node issues next, as the client sees it. -/
def nextKey (a : Authority) : SessionKey := ⟨(a.source a.issued).bytes, sessionKey_ne_nil _⟩

/-- The node when it has issued its next session key. -/
def withNextKey (a : Authority) : Authority :=
  { a with sessionKey := some (a.source a.issued), issued := a.issued + 1 }

omit [SignatureScheme] [LawfulSignatureScheme] in
theorem sessionKey_withNextKey (a : Authority) :
    a.withNextKey.sessionKey.map (·.bytes) = some a.nextKey.bytes := rfl

/-- The reply that brings the node's next session key. -/
def keyReply (a : Authority) (sequence : UInt32) : Response :=
  ⟨sequence, Operation.getSessionKey.code, CommandResult.accepted.code, a.nextKey.bytes⟩

/-- The reply to a change that the node carries out. -/
def changeReply (a : Authority) (sequence : UInt32) (payload : Bytes) : Response :=
  ⟨sequence, Operation.setConfig.code, (a.parameters.applyConfig payload).1.code, []⟩

theorem handle_keyRequest (hkey : key.publicKey ∈ a.keys) (sequence : UInt32) :
    a.handle (key.keyRequest sequence).toRequest = (a.keyReply sequence, a.withNextKey) :=
  (key.admits_keyRequest hkey sequence).handle_eq

theorem handle_changeRequest (hkey : key.publicKey ∈ a.keys) (sequence : UInt32)
    (payload : ConfigPayload) {sessionKey : Bytes}
    (hsession : a.sessionKey.map (·.bytes) = some sessionKey) :
    a.handle (key.changeRequest sequence payload.bytes sessionKey).toRequest =
      (a.changeReply sequence payload.bytes,
        { a with parameters := (a.parameters.applyConfig payload.bytes).2 }) :=
  (key.admits_changeRequest hkey sequence payload hsession).handle_eq

omit [SignatureScheme] [LawfulSignatureScheme] in
theorem commandResult_changeReply (a : Authority) (sequence : UInt32) (payload : Bytes) :
    (a.changeReply sequence payload).commandResult = (a.parameters.applyConfig payload).1 := by
  rcases a.parameters.applyConfig_fst payload with h | h <;>
    simp only [changeReply, h] <;> rfl

end Authority

namespace Authority

/-- An admitted request fits into a frame. -/
theorem Admits.length_add_le [SignatureScheme] {a : Authority} {r : Request} {operation : Operation}
    {payload signature : Bytes} (h : a.Admits r operation payload signature) :
    r.data.length + 38 ≤ Wire.maxFrameSize := by
  have hframe : maxCommandData + 38 ≤ Wire.maxFrameSize := by decide
  have hlength := h.length_le
  omega

end Authority

/-- A tick later a reply is still waited for, if it is waited for longer than the time between two
ticks. -/
theorem PendingRequest.isLive_succ {sequence : UInt32} {interval ticks : Nat} {timeout : Duration}
    (h : .ofMilliseconds interval < timeout) :
    isLive ⟨sequence, tickTime interval ticks, timeout⟩ (tickTime interval (ticks + 1)) = true := by
  rw [isLive, since_succ]
  exact decide_eq_true h

/-- The first reply to the change in flight is its answer. -/
theorem Client.tick_of_answer {c : Client} {now : Instant} {r : Response} [SignatureScheme]
    (hout : c.delivery.outcome = none) (hop : r.operation = Operation.setConfig.code)
    (hawaits : c.delivery.pending.awaits r.sequence now = true) :
    c.tick now [r] (.ok ()) = ⟨{ c with delivery := c.delivery.answered r.commandResult }, [], none,
      .ok (some r.commandResult)⟩ := by
  have hknown := Operation.ofCode?_eq_some_iff.mpr hop
  simp only [tick, hout, receive, hknown, Delivery.receive_of_awaits hout hawaits]

namespace Loopback

/-- The loopback when the reply that brings the session key is underway. -/
def keyed (first : Loopback) (interval ticks requests : Nat) (sequence : UInt32) (h : Handshake) :
    Loopback :=
  { first.later interval (ticks + 1) requests h with
    authority := first.authority.withNextKey
    underway := [(tickTime interval ticks, first.authority.keyReply sequence)] }

/-- The loopback when the answer to the change is underway. -/
def concluding (first : Loopback) (interval ticks requests : Nat) (sequence : UInt32)
    (h : Handshake) : Loopback :=
  { first.later interval (ticks + 1) requests h with
    client := { (first.later interval (ticks + 1) requests h).client with
      delivery := first.client.delivery.sent (tickTime interval ticks) sequence }
    authority := { first.authority.withNextKey with
      parameters :=
        (first.authority.parameters.applyConfig first.client.delivery.payload.bytes).2 }
    underway := [(tickTime interval ticks,
      first.authority.changeReply sequence first.client.delivery.payload.bytes)] }

section Scheme

variable [SignatureScheme] {first : Loopback} {losses : Nat} {timeout retry : Duration}
  {interval ticks requests : Nat} {sequence sequence' : UInt32} {h : Handshake}
  {last : Option Instant}

/-! ## The last three ticks -/

/-- The first tick: a request for the session key is answered. -/
theorem passes_heard [LawfulSignatureScheme] (hs : first.LossyStart losses timeout retry)
    (hclock : ticks * interval < UInt64.size) (hw : h.Waits timeout retry last)
    (hdue : ∀ time, last = some time → retry ≤ (tickTime interval ticks).since time)
    (hheard : losses ≤ requests)
    (hsequence : sequence = first.client.counter.next + UInt32.ofNat requests) :
    ∃ report h', Passes (.ofMilliseconds interval) (first.later interval ticks requests h) [report]
        (first.keyed interval ticks (requests + 1) sequence h') ∧
      TickReport.offers [report] =
        [⟨first.client.target, first.client.key.keyRequest sequence⟩] ∧
      ⟨sequence, tickTime interval ticks, timeout⟩ ∈ h'.pending.requests := by
  have hw' := hw.of_drops (h.expire_drops (tickTime interval ticks))
  have hsize := (first.client.key.admits_keyRequest hs.trusted sequence).length_add_le
  obtain ⟨state, htick⟩ := tick_later_of_due hs requests hclock hw hdue hsequence
    (carry_of_delivered (by simp [later, hs.conditions_eq, hheard])
      (by simp [later, hs.conditions_eq]) (by simp [later, hs.conditions_eq])
      (by simp [later, hs.conditions_eq]) hs.target_eq hsize)
  have hpasses := Passes.of_tick (.ofMilliseconds interval) htick rfl
  have hhandle := first.authority.handle_keyRequest hs.trusted sequence
  simp only [later, ManualClock.advance_atTick, ManualClock.now_atTick hclock, hhandle] at hpasses
  refine ⟨_, _, hpasses, rfl, ?_⟩
  rw [← hw'.timeout_eq]
  exact List.mem_append_right _ List.mem_cons_self

/-- The reply is read, and brings the key. -/
theorem caughtUp_keyed (hs : first.LossyStart losses timeout retry) (requests : Nat)
    (hclock : (ticks + 1) * interval < UInt64.size) (hlive : .ofMilliseconds interval < timeout)
    (hmem : ⟨sequence, tickTime interval ticks, timeout⟩ ∈ h.pending.requests) :
    (first.keyed interval ticks requests sequence h).caughtUp =
      (first.later interval (ticks + 1) requests
        { h with progress := .haveKey first.authority.nextKey }).client := by
  have hdelivery := Delivery.expire_of_empty hs.pending_eq (tickTime interval (ticks + 1))
  have hawaits := PendingSet.awaits_of_mem hmem (PendingRequest.isLive_succ hlive)
  obtain ⟨last, hreceive⟩ :=
    Handshake.receive_of_awaits (r := first.authority.keyReply sequence) hawaits
  have hkey : SessionKey.ofBytes? (first.authority.keyReply sequence).data =
      some first.authority.nextKey := SessionKey.ofBytes?_eq_some_iff.mpr rfl
  have hexpire := Handshake.expire_of_haveKey
    (h := { h with progress := .haveKey first.authority.nextKey }) rfl
    (tickTime interval (ticks + 1))
  have hop : (first.authority.keyReply sequence).operation = Operation.getSessionKey.code := rfl
  simp only [caughtUp, Client.caughtUp, keyed, later, ManualClock.now_atTick hclock, List.map_cons,
    List.map_nil, Handshake.receiveAll, hop, if_true, hreceive, hkey, hexpire, hdelivery]

theorem reads_keyed (hs : first.LossyStart losses timeout retry) (requests : Nat)
    (sequence : UInt32) (h : Handshake) (hclock : (ticks + 1) * interval < UInt64.size) :
    (first.keyed interval ticks requests sequence h).Reads := by
  refine ⟨hs.outcome_eq, List.forall_mem_singleton.mpr ?_, List.forall_mem_singleton.mpr ?_⟩
  · show tickTime interval ticks ≤ (ManualClock.atTick interval (ticks + 1)).now
    rw [ManualClock.now_atTick hclock]
    exact tickTime_le_succ interval ticks
  · show Operation.getSessionKey.code ≠ Operation.setConfig.code
    decide

/-- With the key the change is due, which has never been sent. -/
theorem isDue_later_of_haveKey (hs : first.LossyStart losses timeout retry) (ticks requests : Nat)
    (h : Handshake) (k : SessionKey) (now : Instant) :
    (first.later interval ticks requests { h with progress := .haveKey k }).client.isDue now =
      true := by
  simp [Client.isDue, Handshake.sessionKey, later, Delivery.isDue, hs.outcome_eq, hs.pending_eq,
    hs.lastAttempt_eq]

omit [SignatureScheme] in
theorem sent_later_of_haveKey (ticks requests : Nat) (h : Handshake) (k : SessionKey)
    (now : Instant) :
    (first.later interval ticks requests { h with progress := .haveKey k }).client.sent now =
      { (first.later interval ticks (requests + 1) { h with progress := .haveKey k }).client with
        delivery := first.client.delivery.sent now
          (first.client.counter.next + UInt32.ofNat requests) } := by
  simp only [Client.sent, Handshake.sessionKey, later, SequenceCounter.advance, add_ofNat_succ]

/-- The change is carried to the node, which has the key. -/
theorem carry_keyed [LawfulSignatureScheme] (hs : first.LossyStart losses timeout retry)
    (hclock : (ticks + 1) * interval < UInt64.size) (hheard : losses ≤ requests)
    (sequence sequence' : UInt32) (h h' : Handshake) :
    { first.keyed interval ticks requests sequence h with
      client := (first.concluding interval (ticks + 1) (requests + 1) sequence' h').client
      underway := [] }.carry ⟨first.client.target, first.client.key.changeRequest sequence'
        first.client.delivery.payload.bytes first.authority.nextKey.bytes⟩ =
      (.answered (first.authority.changeReply sequence' first.client.delivery.payload.bytes),
        { first.concluding interval (ticks + 1) (requests + 1) sequence' h' with
          clock := .atTick interval (ticks + 1) }) := by
  have hhandle := first.authority.withNextKey.handle_changeRequest hs.trusted sequence'
    first.client.delivery.payload first.authority.sessionKey_withNextKey
  have hsize := (first.client.key.admits_changeRequest (a := first.authority.withNextKey) hs.trusted
    sequence' first.client.delivery.payload
    first.authority.sessionKey_withNextKey).length_add_le
  rw [carry_of_delivered (by simp [keyed, later, hs.conditions_eq, hheard])
    (by simp [keyed, later, hs.conditions_eq]) (by simp [keyed, later, hs.conditions_eq])
    (by simp [keyed, later, hs.conditions_eq]) hs.target_eq hsize]
  simp only [keyed, later, concluding, hhandle, ManualClock.now_atTick hclock, List.nil_append]
  rfl

/-- The second tick: the key is taken, and the change is answered. -/
theorem passes_keyed [LawfulSignatureScheme] (hs : first.LossyStart losses timeout retry)
    (hclock : (ticks + 1) * interval < UInt64.size) (hlive : .ofMilliseconds interval < timeout)
    (hmem : ⟨sequence, tickTime interval ticks, timeout⟩ ∈ h.pending.requests)
    (hheard : losses ≤ requests)
    (hsequence : sequence' = first.client.counter.next + UInt32.ofNat requests) :
    ∃ report, Passes (.ofMilliseconds interval)
        (first.keyed interval ticks requests sequence h) [report]
        (first.concluding interval (ticks + 1) (requests + 1) sequence'
          { h with progress := .haveKey first.authority.nextKey }) ∧
      TickReport.offers [report] = [⟨first.client.target, first.client.key.changeRequest sequence'
        first.client.delivery.payload.bytes first.authority.nextKey.bytes⟩] := by
  have hcaught := caughtUp_keyed hs requests hclock hlive hmem
  have hnow : (first.keyed interval ticks requests sequence h).clock.now =
      tickTime interval (ticks + 1) := ManualClock.now_atTick hclock
  have hdue : (first.keyed interval ticks requests sequence h).caughtUp.isDue
      (first.keyed interval ticks requests sequence h).clock.now = true := by
    rw [hcaught]
    exact isDue_later_of_haveKey hs _ _ _ _ _
  have hnext : (first.keyed interval ticks requests sequence h).caughtUp.nextRequest =
      first.client.key.changeRequest sequence' first.client.delivery.payload.bytes
        first.authority.nextKey.bytes := by
    rw [hcaught, hsequence]
    rfl
  have hsent : (first.keyed interval ticks requests sequence h).caughtUp.sent
      (first.keyed interval ticks requests sequence h).clock.now =
        (first.concluding interval (ticks + 1) (requests + 1) sequence'
          { h with progress := .haveKey first.authority.nextKey }).client := by
    rw [hcaught, hnow, hsequence]
    exact sent_later_of_haveKey _ _ _ _ _
  have hcarry := carry_keyed hs hclock hheard sequence sequence' h
    { h with progress := .haveKey first.authority.nextKey }
  rw [← hsent, ← hnext] at hcarry
  have htick := tick_of_due (reads_keyed hs requests sequence h hclock) hdue hcarry
  have hpasses := Passes.of_tick (.ofMilliseconds interval) htick rfl
  rw [hnext] at hpasses
  simp only [ManualClock.advance_atTick] at hpasses
  exact ⟨_, hpasses, rfl⟩

/-- The third tick: the answer is taken. -/
theorem tick_concluding (hs : first.LossyStart losses timeout retry)
    (hclock : (ticks + 1) * interval < UInt64.size) (hlive : .ofMilliseconds interval < timeout)
    (requests : Nat) (sequence : UInt32) (h : Handshake) :
    ∃ state delivery, (first.concluding interval ticks requests sequence h).tick =
      (⟨none, state, .ok (some
        (first.authority.parameters.applyConfig first.client.delivery.payload.bytes).1)⟩,
        { first.concluding interval ticks requests sequence h with
          client := { (first.concluding interval ticks requests sequence h).client with
            delivery := delivery }
          underway := [] }) := by
  have hnow : (first.concluding interval ticks requests sequence h).clock.now =
      tickTime interval (ticks + 1) := ManualClock.now_atTick hclock
  have hmem : ⟨sequence, tickTime interval ticks, timeout⟩ ∈
      (first.concluding interval ticks requests sequence h).client.delivery.pending.requests := by
    rw [← hs.timeout_eq]
    exact List.mem_append_right _ List.mem_cons_self
  have harrived : ∀ e ∈ (first.concluding interval ticks requests sequence h).underway,
      e.1 ≤ (first.concluding interval ticks requests sequence h).clock.now := by
    rw [hnow]
    exact List.forall_mem_singleton.mpr (tickTime_le_succ interval ticks)
  have hclient := Client.tick_of_answer
    (c := (first.concluding interval ticks requests sequence h).client)
    (r := first.authority.changeReply sequence first.client.delivery.payload.bytes) hs.outcome_eq
    rfl (PendingSet.awaits_of_mem hmem (PendingRequest.isLive_succ hlive))
  rw [Authority.commandResult_changeReply, ← hnow] at hclient
  exact ⟨_, _, tick_eq harrived hclient⟩

/-! ## The whole run -/

/-- A run in which some requests for a session key were lost, and the change then went through: what
its ticks gave, what was sent, and what the client and the node hold in the end. -/
structure GoesThrough (key : PrivateKey) (target start : UInt32) (change : Bytes)
    (table : ParameterTable) (losses gap : Nat) (k : SessionKey) (run : List TickReport × Loopback) :
    Prop where
  /-- All ticks but the last gave nothing, and the last one the result of the change. -/
  results_eq : run.1.map (·.result) =
    List.replicate (losses * gap + 2) (.ok none) ++ [.ok (some (table.applyConfig change).1)]
  /-- One more request for a session key was sent than was lost, and then the change. -/
  offers_eq : TickReport.offers run.1 =
    (List.range (losses + 1)).map (fun n => ⟨target, key.keyRequest (start + UInt32.ofNat n)⟩) ++
      [⟨target, key.changeRequest (start + UInt32.ofNat (losses + 1)) change k.bytes⟩]
  /-- The change has been applied to the node's parameters. -/
  parameters_eq : run.2.authority.parameters = (table.applyConfig change).2
  /-- The client holds the session key. -/
  client_eq : run.2.client.handshake.sessionKey = some k
  /-- The node holds the same. -/
  node_eq : run.2.authority.sessionKey.map (·.bytes) = some k.bytes

theorem goesThrough_of_lossyStart [LawfulSignatureScheme] {retry : Nat}
    (hs : first.LossyStart losses timeout (.ofMilliseconds retry)) (hinterval : 0 < interval)
    (hlive : .ofMilliseconds interval < timeout)
    (hclock : (losses * ticksBetween retry interval + 2) * interval < UInt64.size) (more : Nat) :
    GoesThrough first.client.key first.client.target first.client.counter.next
      first.client.delivery.payload.bytes first.authority.parameters losses
      (ticksBetween retry interval) first.authority.nextKey
      (first.run (.ofMilliseconds interval) (losses * ticksBetween retry interval + 3 + more)) := by
  have hclock₀ : losses * ticksBetween retry interval * interval < UInt64.size :=
    Nat.lt_of_le_of_lt (Nat.mul_le_mul_right _ (by omega)) hclock
  have hclock₁ : (losses * ticksBetween retry interval + 1) * interval < UInt64.size :=
    Nat.lt_of_le_of_lt (Nat.mul_le_mul_right _ (by omega)) hclock
  obtain ⟨rs, h, last, hlosses, hlength, hoffers, hw, hdue⟩ :=
    passes_losses hs hinterval losses (Nat.le_refl _) hclock₀
  obtain ⟨r₀, h₀, hheard, hoffers₀, hmem⟩ :=
    passes_heard hs hclock₀ hw hdue (Nat.le_refl _) rfl
  obtain ⟨r₁, hkeyed, hoffers₁⟩ :=
    passes_keyed hs hclock₁ hlive hmem (Nat.le_succ _) rfl
  obtain ⟨state, delivery, hlast⟩ := tick_concluding hs hclock hlive (losses + 2)
    (first.client.counter.next + UInt32.ofNat (losses + 1))
    { h₀ with progress := .haveKey first.authority.nextKey }
  have hpasses := (hlosses.append hheard).append hkeyed
  have hcount : (rs ++ [r₀] ++ [r₁]).length = losses * ticksBetween retry interval + 2 := by
    simp [hlength]
  have hticks : losses * ticksBetween retry interval + 3 + more =
      (rs ++ [r₀] ++ [r₁]).length + (more + 1) := by omega
  rw [hticks, hpasses.run_eq, run_of_result (congrArg (·.1.result) hlast)]
  rw [hlast]
  refine ⟨?_, ?_, rfl, rfl, rfl⟩
  · rw [List.map_append, hpasses.results_eq, hcount]
    rfl
  · rw [TickReport.offers_append, TickReport.offers_append, TickReport.offers_append, hoffers,
      hoffers₀, hoffers₁, ← keyRequests_succ]
    exact List.append_nil _

/-- A client that waits for replies longer than the time between two ticks, and a node that trusts
it. Whatever requests are lost at first, the client asks for a session key until it is heard, and
the change goes through two ticks later, if the clock's counter does not wrap until then. -/
theorem goes_through [LawfulSignatureScheme] {config : ClientConfig} {key : PrivateKey}
    {change : String} {start : UInt32} {client : Client}
    (hclient : Client.new config key change start = .ok client) {retry timeout interval : Nat}
    (hretry : config.retryInterval = .ofMilliseconds retry)
    (htimeout : config.timeout = .ofMilliseconds timeout) (hinterval : 0 < interval)
    (hlt : interval < timeout) {authority : Authority} (hkey : key.publicKey ∈ authority.keys)
    (clientNode : UInt32) {losses : Nat}
    (hclock : (losses * ticksBetween retry interval + 2) * interval < UInt64.size) (more : Nat) :
    ∃ k, GoesThrough key config.target start (Bytes.ofString change) authority.parameters losses
      (ticksBetween retry interval) k
      ((new { losesRequest := fun number => number < losses } clientNode config.target client
        authority).run (.ofMilliseconds interval)
          (losses * ticksBetween retry interval + 3 + more)) := by
  obtain ⟨payload, hpayload, rfl⟩ := Client.new_eq_ok hclient
  rw [htimeout, hretry, ← hpayload]
  have hlive : Duration.ofMilliseconds interval < .ofMilliseconds timeout :=
    Nat.mul_lt_mul_of_pos_right hlt (by decide)
  have hs : (new { losesRequest := fun number => number < losses } clientNode config.target
      { target := config.target, key := key, counter := ⟨start⟩
        handshake := .new (.ofMilliseconds timeout) (.ofMilliseconds retry)
        delivery := .new payload (.ofMilliseconds timeout) (.ofMilliseconds retry) }
      authority).LossyStart losses (.ofMilliseconds timeout) (.ofMilliseconds retry) :=
    ⟨rfl, rfl, hkey, rfl, rfl, rfl, rfl, rfl⟩
  exact ⟨_, goesThrough_of_lossyStart hs hinterval hlive hclock more⟩

end Scheme

section KeyedHash

attribute [local instance] Line.keyedHash Line.lawful_keyedHash

/-- A node that trusts the operator. -/
def trustingNode : Authority :=
  .new [Dialogue.operator.publicKey] .initial Authority.numberedKey

theorem trusted_trustingNode : Dialogue.operator.publicKey ∈ trustingNode.keys :=
  Line.operator_trusted

/-- Two requests are lost. -/
theorem goes_through_lockClient :
    Client.new {} Dialogue.operator "LOCK_LEVEL=1" 3 = .ok Dialogue.lockClient ∧
    ∃ k, GoesThrough Dialogue.operator 0 3 (Bytes.ofString "LOCK_LEVEL=1") .initial 2 20 k
      ((new { losesRequest := fun number => number < 2 } 100 0 Dialogue.lockClient
        trustingNode).run (.ofMilliseconds 100) 50) := by
  have hretry : ({} : ClientConfig).retryInterval = .ofMilliseconds 2000 := rfl
  have htimeout : ({} : ClientConfig).timeout = .ofMilliseconds 3000 := rfl
  have hclock : (2 * ticksBetween 2000 100 + 2) * 100 < UInt64.size := by decide
  have hgap : ticksBetween 2000 100 = 20 := by decide
  have h := goes_through Dialogue.new_lockClient hretry htimeout (by decide) (by decide)
    trusted_trustingNode 100 hclock 7
  rw [hgap] at h
  exact ⟨Dialogue.new_lockClient, h⟩

/-- Settings under which the clock's counter wraps with the fourth tick. -/
def slowConfig : ClientConfig where
  timeout := .ofMilliseconds 4611686018427388928
  retryInterval := .ofMilliseconds 4611686018427387904

/-- The operator's client with these settings. -/
def slowClient : Client where
  target := 0
  key := Dialogue.operator
  counter := ⟨7⟩
  handshake := .new slowConfig.timeout slowConfig.retryInterval
  delivery :=
    .new ⟨Bytes.ofString "LOCK_LEVEL=1", Delivery.length_lockPayload_le⟩ slowConfig.timeout
      slowConfig.retryInterval

/-- Once the clock reads less than it did at the last request, no other is due. -/
theorem sessionKey_slowClient :
    ((new { losesRequest := fun number => number < 4 } 100 0 slowClient trustingNode).run
      (.ofMilliseconds 4611686018427387904) 12).2.client.handshake.sessionKey = none := by
  decide +kernel

/-- Whatever is lost at first, the change goes through, unless the clock's counter wraps. -/
theorem not_goes_through :
    ¬ ∀ (_ : SignatureScheme) (_ : LawfulSignatureScheme) (config : ClientConfig)
        (key : PrivateKey) (change : String) (start : UInt32) (client : Client)
        (retry timeout interval : Nat) (authority : Authority) (clientNode : UInt32)
        (losses more : Nat),
      Client.new config key change start = .ok client →
        config.retryInterval = .ofMilliseconds retry → config.timeout = .ofMilliseconds timeout →
          0 < interval → interval < timeout → key.publicKey ∈ authority.keys →
            ∃ k, GoesThrough key config.target start (Bytes.ofString change) authority.parameters
              losses (ticksBetween retry interval) k
              ((new { losesRequest := fun number => number < losses } clientNode config.target
                client authority).run (.ofMilliseconds interval)
                  (losses * ticksBetween retry interval + 3 + more)) := by
  intro h
  obtain ⟨k, hk⟩ := h Line.keyedHash Line.lawful_keyedHash slowConfig Dialogue.operator
    "LOCK_LEVEL=1" 7 slowClient 4611686018427387904 4611686018427388928 4611686018427387904
    trustingNode 100 4 5 rfl rfl rfl (by decide) (by decide) trusted_trustingNode
  cases hk.client_eq.symm.trans sessionKey_slowClient

end KeyedHash

end Loopback

end SignedControl
