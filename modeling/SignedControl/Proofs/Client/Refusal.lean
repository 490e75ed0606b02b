import SignedControl.Link.Channel
import SignedControl.Proofs.Client.Departures
import SignedControl.Proofs.Client.Requester
import SignedControl.Proofs.Client.Schedule

/-!
# Requests that are refused

A request is numbered and signed before it is handed to the transport, so that its number is spent
even if the transport refuses it. Nothing else is: the handshake and the delivery note a request
only when it has been taken.

* `Retries`: what a refusal does to a machine that sends requests. Both machines tick in one form
  (`Handshake.tick_eq`, `Delivery.tick_eq`), and `retries_of_eq` is about that form.
* `Client.turn_error_iff`: a tick of the client fails if its request is refused, and for no other
  reason. `Client.turn_of_error` is what it leaves then.
* `Client.refusal_spares_state`: the two together, and what the error is over a channel.
-/

namespace SignedControl

/-- A machine that is ticked in this way spends a number on a refused request, and no more. -/
structure Retries {σ : Type} (tick : σ → SequenceCounter → Except TransportError Unit → Attempt σ) :
    Prop where
  /-- A request carries the number that the counter stands at. -/
  sequence_eq : ∀ {s counter outcome o}, (tick s counter outcome).offered = some o →
    o.request.sequence = counter.next
  /-- If it is refused, the tick fails with that very error. The state stays, and the counter goes
  on by one. -/
  of_refused : ∀ {s counter e o}, (tick s counter (.error e)).offered = some o →
    tick s counter (.error e) = ⟨s, counter.advance, some o, .error (.transport e)⟩
  /-- The next tick tries again with the next number. -/
  again : ∀ {s counter e o}, (tick s counter (.error e)).offered = some o → ∀ outcome, ∃ o',
    (tick s counter.advance outcome).offered = some o' ∧
      o'.request.sequence = o.request.sequence + 1
  /-- Nothing else makes it fail. -/
  refused_of_error : ∀ {s counter outcome e}, (tick s counter outcome).result = .error e →
    ∃ cause o, e = .transport cause ∧ outcome = .error cause ∧
      (tick s counter outcome).offered = some o

/-- A machine that notes a request only when it has been taken. -/
theorem retries_of_eq {σ : Type}
    {tick : σ → SequenceCounter → Except TransportError Unit → Attempt σ} (isDue : σ → Bool)
    (request : σ → UInt32 → Outgoing) (sent : σ → UInt32 → σ)
    (hsequence : ∀ s n, (request s n).request.sequence = n)
    (htaken : ∀ s counter, tick s counter (.ok ()) =
      if isDue s then
        ⟨sent s counter.next, counter.advance, some (request s counter.next),
          .ok (some counter.next)⟩
      else ⟨s, counter, none, .ok none⟩)
    (hrefused : ∀ s counter e, tick s counter (.error e) =
      if isDue s then
        ⟨s, counter.advance, some (request s counter.next), .error (.transport e)⟩
      else ⟨s, counter, none, .ok none⟩) : Retries tick := by
  -- Whether a request is offered, and which, does not hang on the transport's answer.
  have hoffered : ∀ s counter outcome, (tick s counter outcome).offered =
      if isDue s then some (request s counter.next) else none := by
    intro s counter outcome
    cases outcome with
    | ok => rw [htaken]; split <;> rfl
    | error e => rw [hrefused]; split <;> rfl
  have hdue : ∀ {s counter outcome o}, (tick s counter outcome).offered = some o →
      isDue s = true ∧ request s counter.next = o := by
    intro s counter outcome o h
    rw [hoffered] at h
    split at h
    · next hdue => exact ⟨hdue, Option.some.inj h⟩
    · cases h
  refine ⟨?_, ?_, ?_, ?_⟩
  · intro s counter outcome o h
    obtain ⟨-, rfl⟩ := hdue h
    exact hsequence s _
  · intro s counter e o h
    obtain ⟨hs, rfl⟩ := hdue h
    rw [hrefused, if_pos hs]
  · intro s counter e o h outcome
    obtain ⟨hs, rfl⟩ := hdue h
    refine ⟨request s counter.advance.next, ?_, ?_⟩
    · rw [hoffered, if_pos hs]
    · rw [hsequence, hsequence]
      rfl
  · intro s counter outcome e h
    cases outcome with
    | ok =>
      rw [htaken] at h
      split at h <;> cases h
    | error cause =>
      rw [hrefused] at h
      split at h
      · next hs =>
        cases h
        exact ⟨cause, _, rfl, rfl, by rw [hoffered, if_pos hs]⟩
      · cases h

/-- Forgetting twice is forgetting once. -/
theorem Handshake.expire_expire (h : Handshake) (now : Instant) :
    (h.expire now).expire now = h.expire now := by
  cases hp : h.progress <;> simp only [expire, hp, PendingSet.expire_expire (Nat.le_refl now)]

theorem Delivery.expire_expire (d : Delivery) (now : Instant) :
    (d.expire now).expire now = d.expire now := by
  simp only [expire, PendingSet.expire_expire (Nat.le_refl now)]

section Scheme

variable [SignatureScheme]

theorem Handshake.retries_tick (now : Instant) (key : PrivateKey) (target : UInt32) :
    Retries fun (h : Handshake) counter outcome => h.tick now key counter target outcome :=
  retries_of_eq (fun h => h.isDue now) (fun _ sequence => ⟨target, key.keyRequest sequence⟩)
    (fun h => h.sent now) (fun _ _ => rfl)
    (fun h counter => h.tick_eq now key counter target (.ok ()))
    fun h counter e => h.tick_eq now key counter target (.error e)

theorem Delivery.retries_tick (now : Instant) (sessionKey : SessionKey) (key : PrivateKey)
    (target : UInt32) :
    Retries fun (d : Delivery) counter outcome =>
      d.tick now sessionKey key counter target outcome :=
  retries_of_eq (fun d => d.isDue now)
    (fun d sequence => ⟨target, key.changeRequest sequence d.payload.bytes sessionKey.bytes⟩)
    (fun d => d.sent now) (fun _ _ => rfl)
    (fun d counter => d.tick_eq now sessionKey key counter target (.ok ()))
    fun d counter e => d.tick_eq now sessionKey key counter target (.error e)

namespace Client

/-- The client after a request that was refused in some turn. -/
def refused (c : Client) (t : Turn) : Client :=
  { c.caughtUp t.now t.arrived with counter := c.counter.advance }

omit [SignatureScheme] in
/-- At the same time there is nothing more to forget. -/
theorem caughtUp_refused (c : Client) (t : Turn) :
    (c.refused t).caughtUp t.now [] = c.refused t := by
  simp only [refused, caughtUp, Handshake.receiveAll, Handshake.expire_expire,
    Delivery.expire_expire]

/-- A tick fails if its request is refused, with the transport's error, and for no other reason. -/
theorem turn_error_iff {c : Client} {t : Turn} {e : ClientError} :
    (c.turn t).result = .error e ↔
      ∃ cause o, e = .transport cause ∧ t.outcome = .error cause ∧
        (c.turn t).offered = some o := by
  have ht := c.ticks_turn t
  generalize c.turn t = tick at ht ⊢
  cases ht with
  | finished | answered | idle =>
    constructor
    · rintro ⟨⟩
    · rintro ⟨_, _, _, _, ⟨⟩⟩
  | sent hout hdue htaken =>
    rw [htaken]
    constructor
    · rintro ⟨⟩
    · rintro ⟨_, _, _, ⟨⟩, _⟩
  | failed hout hdue hfailed =>
    rw [hfailed]
    constructor
    · rintro ⟨⟩
      exact ⟨_, _, rfl, rfl, rfl⟩
    · rintro ⟨_, _, rfl, ⟨⟩, _⟩
      rfl

/-- A tick that fails has read the replies and spent a number. The request is still due. -/
theorem turn_of_error {c : Client} {t : Turn} {e : ClientError}
    (h : (c.turn t).result = .error e) :
    (c.turn t).client = c.refused t ∧ (c.refused t).delivery.outcome = none ∧
      (c.refused t).isDue t.now = true := by
  have ht := c.ticks_turn t
  generalize c.turn t = tick at ht h ⊢
  cases ht with
  | finished | answered | idle | sent => cases h
  | failed hout hdue hfailed => exact ⟨rfl, hout, hdue⟩

/-- What is due is offered, whatever the transport answers. -/
theorem offered_of_isDue {c : Client} {now : Instant} (hout : c.delivery.outcome = none)
    (hdue : (c.caughtUp now []).isDue now = true) (outcome : Except TransportError Unit) :
    (c.turn ⟨now, [], outcome⟩).offered = some ⟨c.target, (c.caughtUp now []).nextRequest⟩ := by
  rw [turn_of_unanswered hout (List.forall_mem_nil _), send_eq, if_pos hdue]
  cases outcome <;> rfl

/-- A refused request costs its number and nothing else. In the handshake and in the delivery, in
every state, at every time and with every error, the tick fails with that error, the state stays,
and a further tick tries again with the next number. A tick of the client, in every state, fails if
its request is refused, with the transport's error, and for no other reason; over a channel, in any
state of it, the error is that the channel is closed. -/
theorem refusal_spares_state :
    (∀ now key target,
      Retries fun (h : Handshake) counter outcome => h.tick now key counter target outcome) ∧
    (∀ now sessionKey key target,
      Retries fun (d : Delivery) counter outcome =>
        d.tick now sessionKey key counter target outcome) ∧
    ∀ (c : Client) (t : Turn) (e : ClientError),
      ((c.turn t).result = .error e ↔
        ∃ cause o, e = .transport cause ∧ t.outcome = .error cause ∧
          (c.turn t).offered = some o) ∧
      ((c.turn t).result = .error e →
        (c.turn t).client =
            { c.caughtUp t.now t.arrived with counter := c.counter.advance } ∧
          ∀ outcome, ∃ o, ((c.turn t).client.turn ⟨t.now, [], outcome⟩).offered = some o ∧
            o.request.sequence = c.counter.next + 1) ∧
      ∀ channel : Channel,
        (∀ o, (c.turn t).offered = some o →
          t.outcome = (channel.send o.request o.target).1) →
        (c.turn t).result = .error e → ∃ reason, e = .transport (.closed reason) := by
  refine ⟨Handshake.retries_tick, Delivery.retries_tick, fun c t e => ⟨turn_error_iff, ?_, ?_⟩⟩
  · intro h
    obtain ⟨hclient, hout, hdue⟩ := turn_of_error h
    refine ⟨hclient, fun outcome => ?_⟩
    rw [hclient]
    rw [← caughtUp_refused] at hdue
    refine ⟨_, offered_of_isDue hout hdue outcome, ?_⟩
    rw [sequence_nextRequest]
    rfl
  · intro channel hchannel h
    obtain ⟨cause, o, rfl, hcause, hoffered⟩ := turn_error_iff.mp h
    obtain ⟨reason, rfl⟩ := Channel.eq_closed_of_send ((hchannel o hoffered).symm.trans hcause)
    exact ⟨reason, rfl⟩

end Client

end Scheme

namespace Client

/-- A channel whose task has left. -/
def abandonedChannel : Channel := (Channel.new 7 32 32).dropTask

/-- A turn over that channel. -/
def abandonedTurn : Turn := ⟨0, [], .error (.closed "link writer closed")⟩

theorem refusal_spares_state_abandonedTurn :
    (∃ o, (locking 3).handshake.tick 0 (locking 3).key ⟨3⟩ 0 (.error (.timeout 2 5)) =
      ⟨(locking 3).handshake, ⟨4⟩, some o, .error (.transport (.timeout 2 5))⟩) ∧
    (∃ o, (locking 3).delivery.tick 0 ⟨[1], by decide⟩ (locking 3).key ⟨3⟩ 0
        (.error (.timeout 2 5)) =
      ⟨(locking 3).delivery, ⟨4⟩, some o, .error (.transport (.timeout 2 5))⟩) ∧
    (∀ o, ((locking 3).turn abandonedTurn).offered = some o →
      abandonedTurn.outcome = (abandonedChannel.send o.request o.target).1) ∧
    ((locking 3).turn abandonedTurn).result =
      .error (.transport (.closed "link writer closed")) ∧
    (∃ reason, ClientError.transport (.closed "link writer closed") =
      .transport (.closed reason)) ∧
    ∃ o, (((locking 3).turn abandonedTurn).client.turn ⟨0, [], .ok ()⟩).offered = some o ∧
      o.request.sequence = 4 := by
  have hchannel : ∀ o, ((locking 3).turn abandonedTurn).offered = some o →
      abandonedTurn.outcome = (abandonedChannel.send o.request o.target).1 := fun _ _ => rfl
  have herror : ((locking 3).turn abandonedTurn).result =
      .error (.transport (.closed "link writer closed")) := rfl
  obtain ⟨hhandshake, hdelivery, hclient⟩ := refusal_spares_state
  have h := hclient (locking 3) abandonedTurn (.transport (.closed "link writer closed"))
  exact ⟨⟨_, (hhandshake 0 _ 0).of_refused rfl⟩, ⟨_, (hdelivery 0 _ _ 0).of_refused rfl⟩,
    hchannel, herror, h.2.2 abandonedChannel hchannel herror, (h.2.1 herror).2 (.ok ())⟩

end Client

end SignedControl
