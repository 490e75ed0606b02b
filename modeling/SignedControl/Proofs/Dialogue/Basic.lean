import SignedControl.Proofs.Client.Tick
import SignedControl.Proofs.Node.Authorization

/-!
# A client and a node with a network between them

The network may lose, hold back, reorder and repeat whatever it carries, but it carries only what
was sent: at any time the node may be handed any request sent so far, and a tick of the client may
read any replies given so far. A `Dialogue` is the state of both ends with the history of what was
sent and what was handled; a run of it is a list of events.

* `Dialogue.steps_step`: all that an event can do, one constructor of `Dialogue.Steps` for each way.
* `Dialogue.Traced.step`: the node handles requests that were sent, one after another.
* `Dialogue.Numbered.step`: the requests carry the numbers of the counter, in order.
* `Dialogue.Authored.step`: the requests are the client's, and changes are over the key it holds.
-/

namespace SignedControl

/-- An element of a list with one more at the end. -/
theorem getElem?_concat_eq_some_iff {α : Type} {l : List α} {x y : α} {n : Nat} :
    (l ++ [x])[n]? = some y ↔ l[n]? = some y ∨ n = l.length ∧ x = y := by
  rcases Nat.lt_trichotomy n l.length with h | rfl | h
  · rw [List.getElem?_append_left h]
    exact ⟨.inl, fun hy => hy.resolve_right fun hn => Nat.ne_of_lt h hn.1⟩
  · simp
  · have hnone : ∀ {l' : List α}, l'.length ≤ n → l'[n]? = none := List.getElem?_eq_none
    rw [hnone (by rw [List.length_append]; exact h), hnone (Nat.le_of_lt h)]
    simp only [reduceCtorEq, false_or, false_iff, not_and]
    exact fun hn => absurd hn (Nat.ne_of_gt h)

/-- The sending of a request. -/
structure Sending where
  /-- When it was sent. -/
  time : Instant
  /-- The request. -/
  request : SignedRequest

/-- The handling of a request. -/
structure Handling where
  /-- The place of the request among those that were sent. -/
  number : Nat
  /-- The node before. -/
  before : Authority
  /-- The request. -/
  request : Request

/-- A client and a node, with what has been between them. -/
structure Dialogue where
  /-- The client. -/
  client : Client
  /-- The node. -/
  node : Authority
  /-- How many requests the client has handed to its transport. -/
  offered : Nat
  /-- The requests that the transport has taken, oldest first. -/
  sent : List Sending
  /-- What the node has handled, oldest first. -/
  handled : List Handling

/-- What may happen in a dialogue. -/
inductive Event where
  /-- The client ticks. The replies of the handlings with the given numbers arrive, and if it hands
  a request to the transport, `outcome` is the transport's answer. -/
  | tick (now : Instant) (arrived : List Nat) (outcome : Except TransportError Unit)
  /-- The request with this place among those sent arrives at the node. -/
  | deliver (number : Nat)

/-- What a tick at a time has sent, by the answer of the transport. -/
def Tick.sendings (t : Tick) (now : Instant) : Except TransportError Unit → List Sending
  | .ok () => t.offered.toList.map fun o => ⟨now, o.request⟩
  | .error _ => []

section Scheme

variable [SignatureScheme]

/-- The node's reply. -/
def Handling.reply (h : Handling) : Response := (h.before.handle h.request).1

namespace Dialogue

omit [SignatureScheme] in
/-- A client and a node that have not spoken yet. -/
def new (client : Client) (node : Authority) : Dialogue where
  client := client
  node := node
  offered := 0
  sent := []
  handled := []

/-- The replies of the handlings with some numbers. -/
def arrivals (d : Dialogue) (numbers : List Nat) : List Response :=
  numbers.filterMap fun number => d.handled[number]?.map Handling.reply

/-- What an event does. -/
def step (d : Dialogue) : Event → Dialogue
  | .tick now arrived outcome =>
    let tick := d.client.tick now (d.arrivals arrived) outcome
    { d with
      client := tick.client
      offered := d.offered + tick.offered.toList.length
      sent := d.sent ++ tick.sendings now outcome }
  | .deliver number =>
    match d.sent[number]? with
    | none => d
    | some s =>
      { d with
        node := (d.node.handle s.request.toRequest).2
        handled := d.handled ++ [⟨number, d.node, s.request.toRequest⟩] }

/-- What events do, one after another. -/
def run (d : Dialogue) (events : List Event) : Dialogue := events.foldl step d

/-- All that an event can do. -/
inductive Steps (d : Dialogue) : Event → Dialogue → Prop where
  /-- The client has been answered before. -/
  | finished {now : Instant} {arrived : List Nat} {outcome : Except TransportError Unit}
    {result : CommandResult} (hout : d.client.delivery.outcome = some result) :
    Steps d (.tick now arrived outcome) d
  /-- A reply answers the change. -/
  | answered {now : Instant} {arrived : List Nat} {outcome : Except TransportError Unit}
    {read unread : List Response} {r : Response} {p : PendingRequest}
    (hout : d.client.delivery.outcome = none) (harrived : d.arrivals arrived = read ++ r :: unread)
    (hop : r.operation = Operation.setConfig.code) (ha : d.client.delivery.Answers now r p) :
    Steps d (.tick now arrived outcome) { d with
      client := { d.client with
        handshake := d.client.handshake.receiveAll now read
        delivery := d.client.delivery.answered r.commandResult } }
  /-- The client has nothing to send. -/
  | idle {now : Instant} {arrived : List Nat} {outcome : Except TransportError Unit}
    (hout : d.client.delivery.outcome = none)
    (hdue : (d.client.caughtUp now (d.arrivals arrived)).isDue now = false) :
    Steps d (.tick now arrived outcome)
      { d with client := d.client.caughtUp now (d.arrivals arrived) }
  /-- The client sends. -/
  | sent {now : Instant} {arrived : List Nat} (hout : d.client.delivery.outcome = none)
    (hdue : (d.client.caughtUp now (d.arrivals arrived)).isDue now = true) :
    Steps d (.tick now arrived (.ok ())) { d with
      client := (d.client.caughtUp now (d.arrivals arrived)).sent now
      offered := d.offered + 1
      sent := d.sent ++ [⟨now, (d.client.caughtUp now (d.arrivals arrived)).nextRequest⟩] }
  /-- The client cannot send. -/
  | failed {now : Instant} {arrived : List Nat} {e : TransportError}
    (hout : d.client.delivery.outcome = none)
    (hdue : (d.client.caughtUp now (d.arrivals arrived)).isDue now = true) :
    Steps d (.tick now arrived (.error e)) { d with
      client := { d.client.caughtUp now (d.arrivals arrived) with
        counter := d.client.counter.advance }
      offered := d.offered + 1 }
  /-- There is no such request. -/
  | missed {number : Nat} (hsent : d.sent[number]? = none) : Steps d (.deliver number) d
  /-- The node handles a request. -/
  | delivered {number : Nat} {s : Sending} (hsent : d.sent[number]? = some s) :
    Steps d (.deliver number) { d with
      node := (d.node.handle s.request.toRequest).2
      handled := d.handled ++ [⟨number, d.node, s.request.toRequest⟩] }

theorem steps_step (d : Dialogue) (e : Event) : d.Steps e (d.step e) := by
  cases e with
  | tick now arrived outcome =>
    have hticks := d.client.ticks_tick now (d.arrivals arrived) outcome
    simp only [step]
    revert hticks
    generalize d.client.tick now (d.arrivals arrived) outcome = tick
    intro hticks
    cases hticks with
    | finished hout =>
      have h : d.Steps (.tick now arrived outcome) d := .finished hout
      cases outcome <;> simpa [Tick.sendings] using h
    | answered hout harrived hop ha =>
      have h : d.Steps (.tick now arrived outcome) _ := .answered hout harrived hop ha
      cases outcome <;> simpa [Tick.sendings] using h
    | idle hout hdue =>
      have h : d.Steps (.tick now arrived outcome) _ := .idle hout hdue
      cases outcome <;> simpa [Tick.sendings] using h
    | sent hout hdue htaken =>
      subst htaken
      exact .sent hout hdue
    | failed hout hdue hfailed =>
      subst hfailed
      simp only [Tick.sendings, List.append_nil]
      exact .failed hout hdue
  | deliver number =>
    simp only [step]
    split
    · next hsent => exact .missed hsent
    · next s hsent => exact .delivered hsent

/-- What an event preserves, a run preserves. -/
theorem run_induction {P : Dialogue → Prop} {d : Dialogue} (hd : P d)
    (hstep : ∀ d e d', d.Steps e d' → P d → P d') (events : List Event) : P (d.run events) := by
  induction events generalizing d with
  | nil => exact hd
  | cons e events ih => exact ih (hstep d e _ (d.steps_step e) hd)

/-! ## The node -/

/-- The node has gone through the requests handled, and they had been sent. -/
structure Traced (node : Authority) (d : Dialogue) : Prop where
  /-- It is the first node after all the requests. -/
  node_eq : d.node = (node.handleAll (d.handled.map (·.request))).2
  /-- Before each request it was the first node after the earlier ones. -/
  before_eq : ∀ n h, d.handled[n]? = some h →
    h.before = (node.handleAll ((d.handled.take n).map (·.request))).2
  /-- The replies are those of the first node. -/
  replies_eq : d.handled.map Handling.reply = (node.handleAll (d.handled.map (·.request))).1
  /-- Each request is the one that was sent under its number. -/
  sent : ∀ h ∈ d.handled, ∃ s, d.sent[h.number]? = some s ∧ h.request = s.request.toRequest

theorem Traced.of_eq {node : Authority} {d d' : Dialogue} (ht : Traced node d)
    (hnode : d'.node = d.node) (hhandled : d'.handled = d.handled)
    (hsent : ∃ more, d'.sent = d.sent ++ more) : Traced node d' := by
  refine ⟨?_, ?_, ?_, ?_⟩
  · rw [hnode, hhandled, ht.node_eq]
  · rw [hhandled]; exact ht.before_eq
  · rw [hhandled]; exact ht.replies_eq
  · rw [hhandled]
    intro h hh
    obtain ⟨s, hs, hr⟩ := ht.sent h hh
    obtain ⟨more, hmore⟩ := hsent
    refine ⟨s, ?_, hr⟩
    rw [hmore, List.getElem?_append_left (List.getElem?_eq_some_iff.mp hs).1, hs]

theorem Traced.step {node : Authority} {d d' : Dialogue} {e : Event} (hs : d.Steps e d')
    (ht : Traced node d) : Traced node d' := by
  cases hs with
  | finished | missed => exact ht
  | answered | idle | failed => exact ht.of_eq rfl rfl ⟨[], (List.append_nil _).symm⟩
  | sent => exact ht.of_eq rfl rfl ⟨_, rfl⟩
  | delivered hsent =>
    next number s =>
    refine ⟨?_, fun n h hn => ?_, ?_, fun h hh => ?_⟩
    · rw [List.map_append, Authority.handleAll_append, ← ht.node_eq]
      rfl
    · rcases getElem?_concat_eq_some_iff.mp hn with hn | ⟨rfl, rfl⟩
      · have hlt := (List.getElem?_eq_some_iff.mp hn).1
        rw [List.take_append_of_le_length (Nat.le_of_lt hlt)]
        exact ht.before_eq n h hn
      · rw [List.take_left]
        exact ht.node_eq
    · rw [List.map_append, List.map_append, Authority.handleAll_append, ← ht.node_eq,
        ht.replies_eq]
      rfl
    · rcases List.mem_append.mp hh with hh | hh
      · exact ht.sent h hh
      · rw [List.mem_singleton.mp hh]
        exact ⟨s, hsent, rfl⟩

/-! ## The requests -/

omit [SignatureScheme] in
/-- The requests carry numbers that follow `start`, each another one until the counter wraps. -/
structure Numbered (start : UInt32) (d : Dialogue) : Prop where
  /-- The counter has moved once for every request offered. -/
  next_eq : d.client.counter.next = start + UInt32.ofNat d.offered
  /-- What was sent is some of what was offered. -/
  sublist : (d.sent.map (·.request.sequence)).Sublist
    ((List.range d.offered).map fun n => start + UInt32.ofNat n)

theorem Numbered.step {start : UInt32} {d d' : Dialogue} {e : Event} (hs : d.Steps e d')
    (hn : Numbered start d) : Numbered start d' := by
  have hnext : d.client.counter.advance.next = start + UInt32.ofNat (d.offered + 1) := by
    rw [SequenceCounter.advance, hn.next_eq, UInt32.ofNat_add, UInt32.add_assoc]
    rfl
  have hrange : (List.range (d.offered + 1)).map (fun n => start + UInt32.ofNat n) =
      (List.range d.offered).map (fun n => start + UInt32.ofNat n) ++
        [start + UInt32.ofNat d.offered] := by
    rw [List.range_succ, List.map_append, List.map_singleton]
  cases hs with
  | finished | missed => exact hn
  | answered | idle | delivered => exact ⟨hn.next_eq, hn.sublist⟩
  | failed =>
    refine ⟨hnext, ?_⟩
    rw [hrange]
    exact hn.sublist.trans (List.sublist_append_left _ _)
  | sent =>
    refine ⟨by rw [Client.counter_sent]; exact hnext, ?_⟩
    rw [hrange, List.map_append, List.map_singleton, Client.sequence_nextRequest]
    refine hn.sublist.append ?_
    rw [← hn.next_eq]
    exact .refl _

omit [SignatureScheme] in
/-- As long as the counter has not wrapped no two requests have the same number. -/
theorem Numbered.nodup {start : UInt32} {d : Dialogue} (hn : Numbered start d)
    (hle : d.offered ≤ UInt32.size) : (d.sent.map (·.request.sequence)).Nodup := by
  refine hn.sublist.nodup ?_
  rw [List.Nodup, List.pairwise_map]
  refine List.Pairwise.imp_of_mem ?_ List.nodup_range
  intro n n' hn hn' hne heq
  rw [List.mem_range] at hn hn'
  rw [UInt32.add_right_inj] at heq
  rw [← UInt32.toNat_inj, UInt32.toNat_ofNat_of_lt' (by omega),
    UInt32.toNat_ofNat_of_lt' (by omega)] at heq
  exact hne heq

/-- The requests are made by the client, and changes are over the session key that it holds. -/
structure Authored (key : PrivateKey) (payload : ConfigPayload) (d : Dialogue) : Prop where
  /-- The client's key stays. -/
  key_eq : d.client.key = key
  /-- The change stays. -/
  payload_eq : d.client.delivery.payload = payload
  /-- What the requests are. -/
  sent : ∀ s ∈ d.sent, s.request = key.keyRequest s.request.sequence ∨
    ∃ sessionKey, d.client.handshake.sessionKey = some sessionKey ∧
      s.request = key.changeRequest s.request.sequence payload.bytes sessionKey.bytes

theorem Authored.sessionKey_of_change {key : PrivateKey} {payload : ConfigPayload} {d : Dialogue}
    (ha : Authored key payload d) {s : Sending} (hs : s ∈ d.sent)
    (hop : s.request.operation = .setConfig) :
    ∃ k, d.client.handshake.sessionKey = some k ∧
      s.request = key.changeRequest s.request.sequence payload.bytes k.bytes := by
  rcases ha.sent s hs with h | h
  · rw [h] at hop
    cases hop
  · exact h

theorem Authored.keyRequest_of_ne {key : PrivateKey} {payload : ConfigPayload} {d : Dialogue}
    (ha : Authored key payload d) {s : Sending} (hs : s ∈ d.sent)
    (hop : s.request.operation ≠ .setConfig) :
    s.request = key.keyRequest s.request.sequence := by
  rcases ha.sent s hs with h | ⟨k, -, h⟩
  · exact h
  · rw [h] at hop
    exact absurd rfl hop

/-- A session key is held for good. -/
theorem Steps.sessionKey {d d' : Dialogue} {e : Event} (hs : d.Steps e d') {k : SessionKey}
    (hk : d.client.handshake.sessionKey = some k) : d'.client.handshake.sessionKey = some k := by
  cases hs with
  | finished | missed | delivered => exact hk
  | answered =>
    rw [← hk]
    exact congrArg _ (Handshake.receiveAll_of_haveKey (Handshake.sessionKey_eq_some_iff.mp hk) _ _)
  | idle | failed => rw [← hk]; exact congrArg _ (Client.handshake_caughtUp hk _ _)
  | sent => rw [Client.sessionKey_sent, Client.handshake_caughtUp hk, hk]

theorem Steps.sessionKey_eq_none {d d' : Dialogue} {e : Event} (hs : d.Steps e d')
    (hk : d'.client.handshake.sessionKey = none) : d.client.handshake.sessionKey = none := by
  rw [Option.eq_none_iff_forall_ne_some]
  intro k hk'
  cases hk.symm.trans (hs.sessionKey hk')

theorem Authored.step {key : PrivateKey} {payload : ConfigPayload} {d d' : Dialogue} {e : Event}
    (hs : d.Steps e d') (ha : Authored key payload d) : Authored key payload d' := by
  have hkept : ∀ s ∈ d.sent, s.request = key.keyRequest s.request.sequence ∨
      ∃ sessionKey, d'.client.handshake.sessionKey = some sessionKey ∧
        s.request = key.changeRequest s.request.sequence payload.bytes sessionKey.bytes := by
    intro s hmem
    rcases ha.sent s hmem with h | ⟨sessionKey, hk, h⟩
    · exact .inl h
    · exact .inr ⟨sessionKey, hs.sessionKey hk, h⟩
  cases hs with
  | finished | missed => exact ha
  | answered | idle | failed | delivered => exact ⟨ha.key_eq, ha.payload_eq, hkept⟩
  | sent =>
    next now arrived _ _ =>
    refine ⟨by rw [Client.key_sent]; exact ha.key_eq,
      by rw [Client.payload_sent]; exact ha.payload_eq, fun s hmem => ?_⟩
    rcases List.mem_append.mp hmem with hmem | hmem
    · exact hkept s hmem
    · rw [List.mem_singleton.mp hmem, Client.sequence_nextRequest, Client.sessionKey_sent]
      rcases (d.client.caughtUp now (d.arrivals arrived)).nextRequest_cases with
        ⟨-, h⟩ | ⟨k, hk, h⟩
      · left
        rw [h, ← ha.key_eq]
        rfl
      · right
        refine ⟨k, hk, ?_⟩
        rw [h, ← ha.key_eq, ← ha.payload_eq]
        rfl

end Dialogue

end Scheme

end SignedControl
