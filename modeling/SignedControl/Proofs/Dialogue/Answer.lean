import SignedControl.Proofs.Dialogue.Basic

/-!
# Which answer a client takes

A client waits for a reply to nothing but the change that it sent last, and so the answer that it
takes is the node's answer to that change. Before it has a session key it has sent no change.

* `Dialogue.Concludes`: a handling of the change sent last that gave a result.
* `Dialogue.sound_run`: what is known of every dialogue.
* `Dialogue.Sound.concludes_of_tick`: a result that a tick gives concludes the dialogue.
* `Dialogue.Steps.brings`: a session key comes with a reply that has arrived.
-/

namespace SignedControl

namespace Dialogue

/-- The request sent under a number is the last one for a change. -/
structure LastChange (d : Dialogue) (number : Nat) (s : Sending) : Prop where
  /-- It was sent. -/
  sent : d.sent[number]? = some s
  /-- It is for a change. -/
  operation_eq : s.request.operation = .setConfig
  /-- No later one is. -/
  later : ∀ n s', number < n → d.sent[n]? = some s' → s'.request.operation ≠ .setConfig

theorem LastChange.congr {d d' : Dialogue} {number : Nat} {s : Sending}
    (hl : d.LastChange number s) (hsent : d'.sent = d.sent) : d'.LastChange number s :=
  ⟨by rw [hsent]; exact hl.sent, hl.operation_eq, by rw [hsent]; exact hl.later⟩

/-- Another request for a session key leaves the last change the last. -/
theorem LastChange.push {d d' : Dialogue} {number : Nat} {s s' : Sending}
    (hl : d.LastChange number s) (hsent : d'.sent = d.sent ++ [s'])
    (hop : s'.request.operation = .getSessionKey) : d'.LastChange number s := by
  refine ⟨?_, hl.operation_eq, fun n s'' hn hs'' => ?_⟩
  · rw [hsent, getElem?_concat_eq_some_iff]
    exact .inl hl.sent
  · rw [hsent, getElem?_concat_eq_some_iff] at hs''
    rcases hs'' with hs'' | ⟨-, rfl⟩
    · exact hl.later n s'' hn hs''
    · rw [hop]
      exact Operation.noConfusion

theorem lastChange_concat {d : Dialogue} {sent : List Sending} {s : Sending}
    (hsent : d.sent = sent ++ [s]) (hop : s.request.operation = .setConfig) :
    d.LastChange sent.length s := by
  refine ⟨?_, hop, fun n s' hn hs' => ?_⟩
  · rw [hsent, getElem?_concat_eq_some_iff]
    exact .inr ⟨rfl, rfl⟩
  · have hlt := (List.getElem?_eq_some_iff.mp hs').1
    rw [hsent, List.length_append, List.length_singleton] at hlt
    omega

section Scheme

variable [SignatureScheme]

/-- The node has handled the change sent last and answered it with a result. The request handled is
the one sent under this number, unless numbers have come round. -/
structure Concludes (d : Dialogue) (number : Nat) (s : Sending) (h : Handling)
    (result : CommandResult) : Prop where
  /-- The change was sent last. -/
  last : d.LastChange number s
  /-- The node has handled a request. -/
  mem : h ∈ d.handled
  /-- The request is the change. -/
  request_eq : h.request = s.request.toRequest
  /-- It is the sending itself. -/
  number_eq : d.offered ≤ UInt32.size → h.number = number
  /-- The result is the node's. -/
  result_eq : h.reply.commandResult = result

theorem Concludes.congr {d d' : Dialogue} {number : Nat} {s : Sending} {h : Handling}
    {result : CommandResult} (hc : d.Concludes number s h result) (hsent : d'.sent = d.sent)
    (hoffered : d'.offered = d.offered) (hhandled : d.handled ⊆ d'.handled) :
    d'.Concludes number s h result :=
  { hc with
    last := hc.last.congr hsent
    mem := hhandled hc.mem
    number_eq := by rw [hoffered]; exact hc.number_eq }

/-- What is waited for, and what has come. -/
structure Awaiting (d : Dialogue) : Prop where
  /-- A reply is waited for only for the change sent last. -/
  pending : ∀ p ∈ d.client.delivery.pending.requests, ∃ number s, d.LastChange number s ∧
    s.request.sequence = p.sequence
  /-- The answer taken concludes the dialogue. -/
  outcome : ∀ result, d.client.delivery.outcome = some result →
    ∃ number s h, d.Concludes number s h result

/-- Two changes with the same sequence number are the same request. -/
theorem Authored.change_eq {key : PrivateKey} {payload : ConfigPayload} {d : Dialogue}
    (ha : Authored key payload d) {s s' : Sending} (hs : s ∈ d.sent) (hs' : s' ∈ d.sent)
    (hop : s.request.operation = .setConfig) (hop' : s'.request.operation = .setConfig)
    (hseq : s.request.sequence = s'.request.sequence) : s.request = s'.request := by
  obtain ⟨k, hk, h⟩ := ha.sessionKey_of_change hs hop
  obtain ⟨k', hk', h'⟩ := ha.sessionKey_of_change hs' hop'
  obtain rfl := Option.some.inj (hk.symm.trans hk')
  rw [h, h', hseq]

theorem mem_arrivals {d : Dialogue} {numbers : List Nat} {r : Response}
    (hr : r ∈ d.arrivals numbers) :
    ∃ number h, number ∈ numbers ∧ d.handled[number]? = some h ∧ r = h.reply := by
  obtain ⟨number, hnumber, hr⟩ := List.mem_filterMap.mp hr
  obtain ⟨h, hh, rfl⟩ := Option.map_eq_some_iff.mp hr
  exact ⟨number, h, hnumber, hh, rfl⟩

/-- What is known of a dialogue that began with the client `c` and the node `node`. -/
structure Sound (c : Client) (node : Authority) (d : Dialogue) : Prop where
  /-- The node has gone through the requests handled. -/
  traced : Traced node d
  /-- The requests carry the numbers of the counter. -/
  numbered : Numbered c.counter.next d
  /-- The requests are the client's. -/
  authored : Authored c.key c.delivery.payload d
  /-- Only the change sent last is waited for. -/
  awaiting : Awaiting d

/-- A reply that answers the change was given to the change sent last. -/
theorem Sound.concludes {c : Client} {node : Authority} {d : Dialogue} (hd : Sound c node d)
    {now : Instant} {numbers : List Nat} {r : Response} {p : PendingRequest}
    (hr : r ∈ d.arrivals numbers) (hop : r.operation = Operation.setConfig.code)
    (hp : d.client.delivery.Answers now r p) :
    ∃ number s h, d.Concludes number s h r.commandResult := by
  obtain ⟨number, s, hl, hseq⟩ := hd.awaiting.pending p hp.mem
  obtain ⟨_, h, -, hh, rfl⟩ := mem_arrivals hr
  have hmem := List.mem_of_getElem? hh
  obtain ⟨s', hs', hreq⟩ := hd.traced.sent h hmem
  have hop' : s'.request.operation = .setConfig := by
    rw [Handling.reply, Authority.operation_handle, hreq] at hop
    exact Operation.code_inj hop
  have hseq' : s.request.sequence = s'.request.sequence := by
    rw [hseq, ← hp.sequence_eq, Handling.reply, Authority.sequence_handle, hreq]
    rfl
  have heq := hd.authored.change_eq (List.mem_of_getElem? hl.sent) (List.mem_of_getElem? hs')
    hl.operation_eq hop' hseq'
  refine ⟨number, s, h, hl, hmem, by rw [hreq, heq], fun hle => ?_, rfl⟩
  refine ((List.getElem?_inj ?_ (hd.numbered.nodup hle)).mp ?_).symm
  · rw [List.length_map]
    exact (List.getElem?_eq_some_iff.mp hl.sent).1
  · rw [List.getElem?_map, List.getElem?_map, hl.sent, hs', Option.map_some, Option.map_some, hseq']

theorem Awaiting.step {c : Client} {node : Authority} {d d' : Dialogue} {e : Event}
    (hs : d.Steps e d') (hd : Sound c node d) : Awaiting d' := by
  have hw := hd.awaiting
  cases hs with
  | finished | missed => exact hw
  | answered hout harrived hop hp =>
    next numbers outcome read unread r p =>
    refine ⟨fun p hp => absurd hp List.not_mem_nil, fun result hresult => ?_⟩
    cases hresult
    obtain ⟨number, s, h, hc⟩ := hd.concludes (by rw [harrived]; simp) hop hp
    exact ⟨number, s, h, hc.congr rfl rfl (List.Subset.refl _)⟩
  | idle hout | failed hout =>
    refine ⟨fun p hp => ?_, fun result hresult => ?_⟩
    · obtain ⟨number, s, hl, hseq⟩ := hw.pending p (List.mem_filter.mp hp).1
      exact ⟨number, s, hl.congr rfl, hseq⟩
    · cases hout.symm.trans hresult
  | sent hout hdue =>
    next now numbers =>
    refine ⟨fun p hp => ?_, fun result hresult => ?_⟩
    · rcases (d.client.caughtUp now (d.arrivals numbers)).nextRequest_cases with
        ⟨hk, hnext⟩ | ⟨k, hk, hnext⟩
      · -- The request is for a session key: the change sent last stays the last.
        rw [Client.delivery_sent_of_none hk] at hp
        obtain ⟨number, s, hl, hseq⟩ := hw.pending p (List.mem_filter.mp hp).1
        exact ⟨number, s, hl.push rfl (by rw [hnext]; rfl), hseq⟩
      · -- A change is due only when none is in flight, so the new one is all that is waited for.
        rw [Client.isDue_of_some hk] at hdue
        rw [Client.delivery_sent_of_some hk, Delivery.sent, PendingSet.push,
          Delivery.pending_of_isDue hdue] at hp
        refine ⟨_, _, lastChange_concat rfl (by rw [hnext]; rfl), ?_⟩
        rw [List.mem_singleton.mp hp, Client.sequence_nextRequest]
    · rw [Client.outcome_sent] at hresult
      cases hout.symm.trans hresult
  | delivered =>
    refine ⟨fun p hp => ?_, fun result hresult => ?_⟩
    · obtain ⟨number, s, hl, hseq⟩ := hw.pending p hp
      exact ⟨number, s, hl.congr rfl, hseq⟩
    · obtain ⟨number, s, h, hc⟩ := hw.outcome result hresult
      exact ⟨number, s, h, hc.congr rfl rfl (List.subset_append_left _ _)⟩

theorem Sound.step {c : Client} {node : Authority} {d d' : Dialogue} {e : Event}
    (hs : d.Steps e d') (hd : Sound c node d) : Sound c node d' :=
  ⟨hd.traced.step hs, hd.numbered.step hs, hd.authored.step hs, .step hs hd⟩

theorem sound_new {c : Client} (hc : c.Fresh) (node : Authority) : Sound c node (new c node) := by
  refine ⟨⟨rfl, by simp [new], rfl, by simp [new]⟩, ⟨by simp [new], .refl _⟩,
    ⟨rfl, rfl, by simp [new]⟩, fun p hp => ?_, fun result hresult => ?_⟩
  · exact absurd (hc.pending_eq ▸ hp) List.not_mem_nil
  · cases hc.outcome_eq.symm.trans hresult

theorem sound_run {c : Client} (hc : c.Fresh) (node : Authority) (events : List Event) :
    Sound c node ((new c node).run events) :=
  run_induction (sound_new hc node) (fun _ _ _ => Sound.step) events

theorem Sound.concludes_of_tick {c : Client} {node : Authority} {d : Dialogue}
    (hd : Sound c node d) {now : Instant} {numbers : List Nat}
    {outcome : Except TransportError Unit} {result : CommandResult}
    (hresult : (d.client.tick now (d.arrivals numbers) outcome).result = .ok (some result)) :
    ∃ number s h, d.Concludes number s h result := by
  have hticks := d.client.ticks_tick now (d.arrivals numbers) outcome
  generalize d.client.tick now (d.arrivals numbers) outcome = tick at hticks hresult
  cases hticks with
  | finished hout =>
    cases hresult
    exact hd.awaiting.outcome result hout
  | answered hout harrived hop hp =>
    cases hresult
    exact hd.concludes (by rw [harrived]; simp) hop hp
  | idle | sent | failed => cases hresult

/-! ## Before there is a session key -/

variable {key : PrivateKey} {payload : ConfigPayload} {d d' : Dialogue}

/-- Without a session key no change has been sent, and so none is waited for or answered. -/
theorem Awaiting.of_none (hw : Awaiting d) (ha : Authored key payload d)
    (hk : d.client.handshake.sessionKey = none) :
    (∀ p, p ∉ d.client.delivery.pending.requests) ∧ d.client.delivery.outcome = none := by
  have hnone : ∀ number s, ¬ d.LastChange number s := by
    intro number s hl
    obtain ⟨k, hk', -⟩ := ha.sessionKey_of_change (List.mem_of_getElem? hl.sent) hl.operation_eq
    cases hk.symm.trans hk'
  refine ⟨fun p hp => ?_, ?_⟩
  · obtain ⟨number, s, hl, -⟩ := hw.pending p hp
    exact hnone number s hl
  · rw [Option.eq_none_iff_forall_ne_some]
    intro result hresult
    obtain ⟨number, s, h, hc⟩ := hw.outcome result hresult
    exact hnone number s hc.last

/-- A tick without a session key is all about the handshake. -/
theorem Steps.sessionKey_tick {now : Instant} {arrived : List Nat}
    {outcome : Except TransportError Unit} (hs : d.Steps (.tick now arrived outcome) d')
    (hw : Awaiting d) (ha : Authored key payload d)
    (hk : d.client.handshake.sessionKey = none) :
    d'.client.handshake.sessionKey =
      (d.client.caughtUp now (d.arrivals arrived)).handshake.sessionKey := by
  obtain ⟨hpending, hout⟩ := hw.of_none ha hk
  cases hs with
  | finished hout' => cases hout.symm.trans hout'
  | answered _ _ _ hp => exact absurd hp.mem (hpending _)
  | idle | failed => rfl
  | sent => rw [Client.sessionKey_sent]

/-- The session key comes with a reply that has arrived. -/
theorem Steps.brings {now : Instant} {arrived : List Nat} {outcome : Except TransportError Unit}
    (hs : d.Steps (.tick now arrived outcome) d') (hw : Awaiting d) (ha : Authored key payload d)
    (hk : d.client.handshake.sessionKey = none) {k : SessionKey}
    (hk' : d'.client.handshake.sessionKey = some k) :
    ∃ r ∈ d.arrivals arrived, ∃ p, d.client.handshake.Brings now r p k := by
  rw [hs.sessionKey_tick hw ha hk] at hk'
  rcases d.client.caughtUp_cases now (d.arrivals arrived) with ⟨r, hr, p, k', hb, hk''⟩ | hd
  · obtain rfl := Option.some.inj (hk''.symm.trans hk')
    exact ⟨r, hr, p, hb⟩
  · rw [hd.sessionKey_eq, hk] at hk'
    cases hk'

/-- When there is a session key only changes are sent. -/
theorem Steps.sent_of_sessionKey {e : Event} (hs : d.Steps e d') {k : SessionKey}
    (hk : d'.client.handshake.sessionKey = some k) :
    ∃ changes, d'.sent = d.sent ++ changes ∧ ∀ s ∈ changes, s.request.operation = .setConfig := by
  cases hs with
  | finished | missed | answered | idle | failed | delivered =>
    exact ⟨[], (List.append_nil _).symm, fun s hs => absurd hs List.not_mem_nil⟩
  | sent =>
    next now arrived _ _ =>
    refine ⟨_, rfl, fun s hs => ?_⟩
    rw [List.mem_singleton.mp hs]
    rw [Client.sessionKey_sent] at hk
    rcases (d.client.caughtUp now (d.arrivals arrived)).nextRequest_cases with
      ⟨hnone, -⟩ | ⟨k, -, h⟩
    · cases hnone.symm.trans hk
    · rw [h]
      rfl

theorem Steps.handled_grows {e : Event} (hs : d.Steps e d') :
    ∃ more, d'.handled = d.handled ++ more := by
  cases hs with
  | finished | missed | answered | idle | failed | sent => exact ⟨[], (List.append_nil _).symm⟩
  | delivered => exact ⟨_, rfl⟩

end Scheme

end Dialogue

end SignedControl
