import SignedControl.Client.Basic

/-!
# What a tick of the client does

`Client.Ticks` lists all that a tick can do, one constructor for each way through it, and
`ticks_tick` says that there is no other. A proof about runs of the client has these five cases and
opens none of the functions behind them.

* `Handshake.receiveAll_cases`: the replies read in a tick either bring the session key, or make the
  handshake wait for fewer requests (`Handshake.Drops`) and leave all else as it is.
* `Client.receive_cases`: the replies are read up to the first that answers the delivery.
* `Client.send_eq`: what is due is `Client.nextRequest`, and it always can be signed.
-/

namespace SignedControl

theorem PendingSet.sublist_takeLive? (s : PendingSet) (sequence : UInt32) (now : Instant) :
    (s.takeLive? sequence now).2.requests.Sublist s.requests := List.eraseP_sublist

theorem PendingSet.mem_of_takeLive? {s : PendingSet} {sequence : UInt32} {now : Instant}
    {p : PendingRequest} (h : (s.takeLive? sequence now).1 = some p) : p ∈ s.requests :=
  List.mem_of_find?_eq_some h

/-! ## The handshake -/

namespace Handshake

/-- When the last request was sent. -/
def lastAttempt (h : Handshake) : Option Instant :=
  match h.progress with
  | .awaitingKey lastAttempt _ => some lastAttempt
  | _ => none

/-- The handshake `h'` is `h`, but for requests that it does not wait for any more. -/
structure Drops (h h' : Handshake) : Prop where
  /-- The time-out is the same. -/
  timeout_eq : h'.timeout = h.timeout
  /-- The retry interval is the same. -/
  retryInterval_eq : h'.retryInterval = h.retryInterval
  /-- The session key is the same. -/
  sessionKey_eq : h'.sessionKey = h.sessionKey
  /-- The last attempt is the same. -/
  lastAttempt_eq : h'.lastAttempt = h.lastAttempt
  /-- No request has come in or changed its place. -/
  sublist : h'.pending.requests.Sublist h.pending.requests

theorem Drops.refl (h : Handshake) : h.Drops h := ⟨rfl, rfl, rfl, rfl, .refl _⟩

theorem Drops.trans {h h' h'' : Handshake} (hd : h.Drops h') (hd' : h'.Drops h'') : h.Drops h'' :=
  ⟨hd'.timeout_eq.trans hd.timeout_eq, hd'.retryInterval_eq.trans hd.retryInterval_eq,
    hd'.sessionKey_eq.trans hd.sessionKey_eq, hd'.lastAttempt_eq.trans hd.lastAttempt_eq,
    hd'.sublist.trans hd.sublist⟩

/-- Reply `r` brings `key` as the answer to `p`. -/
structure Brings (h : Handshake) (now : Instant) (r : Response) (p : PendingRequest)
    (key : SessionKey) : Prop where
  /-- The request is in flight. -/
  mem : p ∈ h.pending.requests
  /-- Its reply is still waited for. -/
  isLive : p.isLive now = true
  /-- The reply is to a request for a session key. -/
  operation_eq : r.operation = Operation.getSessionKey.code
  /-- The reply is to this one. -/
  sequence_eq : r.sequence = p.sequence
  /-- It carries the key. -/
  data_eq : r.data = key.bytes

theorem Brings.of_drops {h h' : Handshake} {now : Instant} {r : Response} {p : PendingRequest}
    {key : SessionKey} (hb : h'.Brings now r p key) (hd : h.Drops h') : h.Brings now r p key :=
  { hb with mem := hd.sublist.subset hb.mem }

theorem sessionKey_eq_some_iff {h : Handshake} {key : SessionKey} :
    h.sessionKey = some key ↔ h.progress = .haveKey key := by
  cases hp : h.progress <;> simp [sessionKey, hp]

theorem expire_of_haveKey {h : Handshake} {key : SessionKey} (hp : h.progress = .haveKey key)
    (now : Instant) : h.expire now = h := by
  simp only [expire, hp]

theorem expire_drops (h : Handshake) (now : Instant) : h.Drops (h.expire now) := by
  unfold expire
  split
  · next last pending hp =>
    exact ⟨rfl, rfl, by simp [sessionKey, hp], by simp [lastAttempt, hp],
      by simp only [Handshake.pending, hp]; exact List.filter_sublist⟩
  · exact .refl h

theorem receive_cases (h : Handshake) (now : Instant) (r : Response)
    (hop : r.operation = Operation.getSessionKey.code) :
    (∃ p key, h.Brings now r p key ∧
      (h.receive now r).2 = { h with progress := .haveKey key }) ∨
    h.Drops (h.receive now r).2 := by
  cases hp : h.progress with
  | awaitingKey last pending =>
    have hpending : h.pending = pending := by simp [Handshake.pending, hp]
    simp only [receive, hp]
    cases htake : pending.takeLive? r.sequence now with
    | mk taken rest =>
      cases taken with
      | none => exact .inr (.refl h)
      | some p =>
        have hfound : (pending.takeLive? r.sequence now).1 = some p := by rw [htake]
        obtain ⟨hs, hl, -⟩ := PendingSet.takeLive?_eq hfound
        cases hkey : SessionKey.ofBytes? r.data with
        | some key =>
          refine .inl ⟨p, key, ⟨?_, hl, hop, hs.symm, ?_⟩, rfl⟩
          · rw [hpending]
            exact PendingSet.mem_of_takeLive? hfound
          · exact SessionKey.ofBytes?_eq_some_iff.mp hkey
        | none =>
          have hrest := PendingSet.sublist_takeLive? pending r.sequence now
          rw [htake] at hrest
          exact .inr ⟨rfl, rfl, by simp [sessionKey, hp], by simp [lastAttempt, hp],
            by rw [hpending]; exact hrest⟩
  | init => simp only [receive, hp]; exact .inr (.refl h)
  | haveKey key => simp only [receive, hp]; exact .inr (.refl h)

/-- Without a key, a request is due unless the last one is too recent. -/
theorem isDue_iff {h : Handshake} (hk : h.sessionKey = none) (now : Instant) :
    h.isDue now = true ↔ ∀ last, h.lastAttempt = some last → h.retryInterval ≤ now.since last := by
  cases hp : h.progress with
  | init => simp [isDue, lastAttempt, hp]
  | awaitingKey last pending => simp [isDue, lastAttempt, hp]
  | haveKey key => simp [sessionKey, hp] at hk

/-- The handshake after the replies among some that are for it. -/
def receiveAll (h : Handshake) (now : Instant) : List Response → Handshake
  | [] => h
  | r :: rest =>
    if r.operation = Operation.getSessionKey.code then (h.receive now r).2.receiveAll now rest
    else h.receiveAll now rest

theorem receiveAll_of_haveKey {h : Handshake} {key : SessionKey} (hp : h.progress = .haveKey key)
    (now : Instant) (rs : List Response) : h.receiveAll now rs = h := by
  induction rs with
  | nil => rfl
  | cons r rest ih =>
    rw [receiveAll]
    split
    · have hr : (h.receive now r).2 = h := by simp only [receive, hp]
      rw [hr, ih]
    · exact ih

/-- Replies bring the key, or else change nothing but what is waited for. -/
theorem receiveAll_cases (h : Handshake) (now : Instant) (rs : List Response) :
    (∃ r ∈ rs, ∃ p key, h.Brings now r p key ∧
      h.receiveAll now rs = { h with progress := .haveKey key }) ∨
    h.Drops (h.receiveAll now rs) := by
  induction rs generalizing h with
  | nil => exact .inr (.refl h)
  | cons r rest ih =>
    rw [receiveAll]
    split
    · next hop =>
      rcases h.receive_cases now r hop with ⟨p, key, hb, he⟩ | hd
      · refine .inl ⟨r, List.mem_cons_self, p, key, hb, ?_⟩
        rw [he, receiveAll_of_haveKey rfl]
      · rcases ih (h.receive now r).2 with ⟨r', hr', p, key, hb, he⟩ | hd'
        · refine .inl ⟨r', List.mem_cons_of_mem _ hr', p, key, hb.of_drops hd, ?_⟩
          rw [he, hd.timeout_eq, hd.retryInterval_eq]
        · exact .inr (hd.trans hd')
    · rcases ih h with ⟨r', hr', hb⟩ | hd
      · exact .inl ⟨r', List.mem_cons_of_mem _ hr', hb⟩
      · exact .inr hd

/-- The handshake after a request has been sent. -/
def sent (h : Handshake) (now : Instant) (sequence : UInt32) : Handshake :=
  { h with progress := .awaitingKey now (h.pending.push ⟨sequence, now, h.timeout⟩) }

@[simp] theorem sessionKey_sent (h : Handshake) (now : Instant) (sequence : UInt32) :
    (h.sent now sequence).sessionKey = none := rfl

@[simp] theorem lastAttempt_sent (h : Handshake) (now : Instant) (sequence : UInt32) :
    (h.sent now sequence).lastAttempt = some now := rfl

end Handshake

/-! ## The delivery -/

namespace Delivery

/-- Reply `r` is the answer to `p`. -/
structure Answers (d : Delivery) (now : Instant) (r : Response) (p : PendingRequest) : Prop where
  /-- The request is in flight. -/
  mem : p ∈ d.pending.requests
  /-- Its reply is still waited for. -/
  isLive : p.isLive now = true
  /-- The reply is to this one. -/
  sequence_eq : r.sequence = p.sequence

/-- The delivery after its answer. -/
def answered (d : Delivery) (result : CommandResult) : Delivery :=
  { d with pending := .empty, outcome := some result }

theorem receive_cases {d : Delivery} (hout : d.outcome = none) (now : Instant) (r : Response) :
    (∃ p, d.Answers now r p ∧
      d.receive now r = (some r.commandResult, d.answered r.commandResult)) ∨
    d.receive now r = (none, d) := by
  simp only [receive, hout, Option.isSome_none, Bool.false_eq_true, if_false]
  cases htake : d.pending.takeLive? r.sequence now with
  | mk taken rest =>
    cases taken with
    | none => exact .inr rfl
    | some p =>
      have hfound : (d.pending.takeLive? r.sequence now).1 = some p := by rw [htake]
      obtain ⟨hs, hl, -⟩ := PendingSet.takeLive?_eq hfound
      exact .inl ⟨p, ⟨PendingSet.mem_of_takeLive? hfound, hl, hs.symm⟩, rfl⟩

/-- A change is sent only when no other is in flight. -/
theorem pending_of_isDue {d : Delivery} {now : Instant} (h : d.isDue now = true) :
    d.pending.requests = [] := by
  unfold isDue at h
  split at h
  · cases h
  · next hidle =>
    simp only [Bool.or_eq_true, Bool.not_eq_true', not_or, Bool.not_eq_false,
      List.isEmpty_iff] at hidle
    exact hidle.2

end Delivery

/-! ## Requests -/

section Requests

variable [SignatureScheme]

/-- The request for a session key that a key signs. -/
def PrivateKey.keyRequest (key : PrivateKey) (sequence : UInt32) : SignedRequest where
  sequence := sequence
  operation := .getSessionKey
  payload := []
  signature := key.sign (Bytes.le32 sequence ++ Bytes.le32 1)

/-- The request for a change that a key signs over a session key. -/
def PrivateKey.changeRequest (key : PrivateKey) (sequence : UInt32) (payload sessionKey : Bytes) :
    SignedRequest where
  sequence := sequence
  operation := .setConfig
  payload := payload
  signature := key.sign (Bytes.le32 sequence ++ Bytes.le32 5 ++ payload ++ sessionKey)

theorem PrivateKey.signRequest_getSessionKey (key : PrivateKey) (sequence : UInt32) :
    key.signRequest sequence .getSessionKey [] none = .ok (key.keyRequest sequence) := by
  simp [signRequest, signCommand, canonicalMessage_getSessionKey, Except.map, keyRequest]

theorem PrivateKey.signRequest_setConfig (key : PrivateKey) (sequence : UInt32)
    (payload sessionKey : Bytes) :
    key.signRequest sequence .setConfig payload (some sessionKey) =
      .ok (key.changeRequest sequence payload sessionKey) := by
  simp [signRequest, signCommand, canonicalMessage_setConfig, Except.map, changeRequest]

omit [SignatureScheme] in
theorem Attempt.send_eq {σ : Type} {state : σ} {counter : SequenceCounter} {target : UInt32}
    {outcome : Except TransportError Unit} {signed : UInt32 → Except SignError SignedRequest}
    {after : UInt32 → σ} {request : UInt32 → SignedRequest}
    (h : ∀ sequence, signed sequence = .ok (request sequence)) :
    Attempt.send state counter target outcome signed after =
      match outcome with
      | .ok () =>
        ⟨after counter.next, counter.advance, some ⟨target, request counter.next⟩,
          .ok (some counter.next)⟩
      | .error e =>
        ⟨state, counter.advance, some ⟨target, request counter.next⟩, .error (.transport e)⟩ := by
  unfold Attempt.send
  rw [h]
  cases outcome <;> rfl

end Requests

/-! ## The client -/

namespace Client

/-- The client has no change in flight, and none has been answered. -/
structure Fresh (c : Client) : Prop where
  /-- No change is in flight. -/
  pending_eq : c.delivery.pending.requests = []
  /-- No answer has come. -/
  outcome_eq : c.delivery.outcome = none

theorem new_eq_ok {config : ClientConfig} {key : PrivateKey} {change : String} {start : UInt32}
    {c : Client} (h : new config key change start = .ok c) :
    ∃ payload : ConfigPayload, payload.bytes = Bytes.ofString change ∧
      c = ⟨config.target, key, ⟨start⟩, .new config.timeout config.retryInterval,
        .new payload config.timeout config.retryInterval⟩ := by
  unfold new ConfigPayload.ofString at h
  dsimp only at h
  split at h
  · next hlen =>
    cases h
    exact ⟨⟨Bytes.ofString change, hlen⟩, rfl, rfl⟩
  · cases h

/-- What reading replies can do: all are read and none answers the delivery, or they are read up to
the first that does. -/
theorem receive_cases {c : Client} (hout : c.delivery.outcome = none) (now : Instant)
    (rs : List Response) :
    (∃ read r unread p, rs = read ++ r :: unread ∧ r.operation = Operation.setConfig.code ∧
      c.delivery.Answers now r p ∧
      c.receive now rs = ({ c with
        handshake := c.handshake.receiveAll now read
        delivery := c.delivery.answered r.commandResult }, unread, some r.commandResult)) ∨
    c.receive now rs = ({ c with handshake := c.handshake.receiveAll now rs }, [], none) := by
  induction rs generalizing c with
  | nil => exact .inr rfl
  | cons r rest ih =>
    rw [receive]
    split
    · next hop =>
      have hcode := Operation.ofCode?_eq_some_iff.mp hop
      rcases ih (c := { c with handshake := (c.handshake.receive now r).2 }) hout with
        ⟨read, r', unread, p, rfl, hr', ha, he⟩ | he
      · refine .inl ⟨r :: read, r', unread, p, rfl, hr', ha, ?_⟩
        rw [he, Handshake.receiveAll, if_pos hcode]
      · rw [he, Handshake.receiveAll, if_pos hcode]
        exact .inr rfl
    · next hop =>
      have hcode := Operation.ofCode?_eq_some_iff.mp hop
      have hne : ¬ r.operation = Operation.getSessionKey.code := by rw [hcode]; decide
      rcases Delivery.receive_cases hout now r with ⟨p, ha, he⟩ | he
      · rw [he]
        exact .inl ⟨[], r, rest, p, rfl, hcode, ha, rfl⟩
      · rw [he]
        rcases ih hout with ⟨read, r', unread, p, rfl, hr', ha, he'⟩ | he'
        · refine .inl ⟨r :: read, r', unread, p, rfl, hr', ha, ?_⟩
          rw [Handshake.receiveAll, if_neg hne]
          exact he'
        · rw [Handshake.receiveAll, if_neg hne]
          exact .inr he'
    · next hop =>
      have hne : ¬ r.operation = Operation.getSessionKey.code := fun h => by
        rw [h, Operation.ofCode?_code] at hop
        cases hop
      rcases ih hout with ⟨read, r', unread, p, rfl, hr', ha, he⟩ | he
      · refine .inl ⟨r :: read, r', unread, p, rfl, hr', ha, ?_⟩
        rw [he, Handshake.receiveAll, if_neg hne]
      · rw [Handshake.receiveAll, if_neg hne]
        exact .inr he

theorem fresh_of_new {config : ClientConfig} {key : PrivateKey} {change : String} {start : UInt32}
    {c : Client} (h : new config key change start = .ok c) : c.Fresh := by
  obtain ⟨payload, -, rfl⟩ := new_eq_ok h
  exact ⟨rfl, rfl⟩

/-- Whether a request is due. -/
def isDue (c : Client) (now : Instant) : Bool :=
  match c.handshake.sessionKey with
  | none => c.handshake.isDue now
  | some _ => c.delivery.isDue now

/-- The client after its next request has been sent. -/
def sent (c : Client) (now : Instant) : Client :=
  match c.handshake.sessionKey with
  | none =>
    { c with handshake := c.handshake.sent now c.counter.next, counter := c.counter.advance }
  | some _ =>
    { c with delivery := c.delivery.sent now c.counter.next, counter := c.counter.advance }

/-- The client when it has read replies and looked at the time. -/
def caughtUp (c : Client) (now : Instant) (arrived : List Response) : Client :=
  { c with
    handshake := (c.handshake.receiveAll now arrived).expire now
    delivery := c.delivery.expire now }

@[simp] theorem sessionKey_sent (c : Client) (now : Instant) :
    (c.sent now).handshake.sessionKey = c.handshake.sessionKey := by
  cases hk : c.handshake.sessionKey <;> simp [sent, hk]

theorem delivery_sent_of_none {c : Client} (h : c.handshake.sessionKey = none) (now : Instant) :
    (c.sent now).delivery = c.delivery := by
  simp only [sent, h]

theorem delivery_sent_of_some {c : Client} {key : SessionKey}
    (h : c.handshake.sessionKey = some key) (now : Instant) :
    (c.sent now).delivery = c.delivery.sent now c.counter.next := by
  simp only [sent, h]

theorem isDue_of_some {c : Client} {key : SessionKey} (h : c.handshake.sessionKey = some key)
    (now : Instant) : c.isDue now = c.delivery.isDue now := by
  simp only [isDue, h]

@[simp] theorem key_sent (c : Client) (now : Instant) : (c.sent now).key = c.key := by
  unfold sent; split <;> rfl

@[simp] theorem counter_sent (c : Client) (now : Instant) :
    (c.sent now).counter = c.counter.advance := by
  unfold sent; split <;> rfl

@[simp] theorem payload_sent (c : Client) (now : Instant) :
    (c.sent now).delivery.payload = c.delivery.payload := by
  unfold sent; split <;> rfl

@[simp] theorem outcome_sent (c : Client) (now : Instant) :
    (c.sent now).delivery.outcome = c.delivery.outcome := by
  unfold sent; split <;> rfl

/-- Once there is a session key, reading and forgetting leave the handshake alone. -/
theorem handshake_caughtUp {c : Client} {key : SessionKey} (h : c.handshake.sessionKey = some key)
    (now : Instant) (arrived : List Response) :
    (c.caughtUp now arrived).handshake = c.handshake := by
  have hp := Handshake.sessionKey_eq_some_iff.mp h
  simp only [caughtUp, Handshake.receiveAll_of_haveKey hp, Handshake.expire_of_haveKey hp]

/-- Reading and forgetting bring the key, or else take nothing but requests waited for. -/
theorem caughtUp_cases (c : Client) (now : Instant) (arrived : List Response) :
    (∃ r ∈ arrived, ∃ p key, c.handshake.Brings now r p key ∧
      (c.caughtUp now arrived).handshake.sessionKey = some key) ∨
    c.handshake.Drops (c.caughtUp now arrived).handshake := by
  rcases c.handshake.receiveAll_cases now arrived with ⟨r, hr, p, key, hb, he⟩ | hd
  · have hp : (c.handshake.receiveAll now arrived).progress = .haveKey key := by rw [he]
    refine .inl ⟨r, hr, p, key, hb, ?_⟩
    rw [Handshake.sessionKey_eq_some_iff, caughtUp, Handshake.expire_of_haveKey hp, hp]
  · exact .inr (hd.trans (Handshake.expire_drops _ now))

theorem isDue_of_none {c : Client} (h : c.handshake.sessionKey = none) (now : Instant) :
    c.isDue now = c.handshake.isDue now := by
  simp only [isDue, h]

theorem handshake_sent_of_none {c : Client} (h : c.handshake.sessionKey = none) (now : Instant) :
    (c.sent now).handshake = c.handshake.sent now c.counter.next := by
  simp only [sent, h]

variable [SignatureScheme]

/-- The request that the client sends next. -/
def nextRequest (c : Client) : SignedRequest :=
  match c.handshake.sessionKey with
  | none => c.key.keyRequest c.counter.next
  | some sessionKey =>
    c.key.changeRequest c.counter.next c.delivery.payload.bytes sessionKey.bytes

@[simp] theorem sequence_nextRequest (c : Client) : c.nextRequest.sequence = c.counter.next := by
  unfold nextRequest; split <;> rfl

theorem nextRequest_cases (c : Client) :
    (c.handshake.sessionKey = none ∧ c.nextRequest = c.key.keyRequest c.counter.next) ∨
    ∃ key, c.handshake.sessionKey = some key ∧
      c.nextRequest = c.key.changeRequest c.counter.next c.delivery.payload.bytes key.bytes := by
  cases hk : c.handshake.sessionKey with
  | none => exact .inl ⟨rfl, by simp only [nextRequest, hk]⟩
  | some key => exact .inr ⟨key, rfl, by simp only [nextRequest, hk]⟩

theorem send_eq (c : Client) (now : Instant) (outcome : Except TransportError Unit) :
    c.send now outcome =
      if c.isDue now then
        match outcome with
        | .ok () =>
          ⟨c.sent now, c.counter.advance, some ⟨c.target, c.nextRequest⟩, .ok (some c.counter.next)⟩
        | .error e =>
          ⟨{ c with counter := c.counter.advance }, c.counter.advance,
            some ⟨c.target, c.nextRequest⟩, .error (.transport e)⟩
      else ⟨c, c.counter, none, .ok none⟩ := by
  cases hk : c.handshake.sessionKey with
  | none =>
    simp only [send, isDue, hk, Handshake.tick]
    split
    · rw [Attempt.send_eq fun sequence => c.key.signRequest_getSessionKey sequence]
      cases outcome <;> simp [sent, nextRequest, hk, Handshake.sent]
    · rfl
  | some key =>
    simp only [send, isDue, hk, Delivery.tick]
    split
    · rw [Attempt.send_eq fun sequence => c.key.signRequest_setConfig sequence _ _]
      cases outcome <;> simp [sent, nextRequest, hk]
    · rfl

/-- All that a tick can do. -/
inductive Ticks (c : Client) (now : Instant) (arrived : List Response)
    (outcome : Except TransportError Unit) : Tick → Prop where
  /-- The change has been answered before. -/
  | finished {result : CommandResult} (hout : c.delivery.outcome = some result) :
    Ticks c now arrived outcome ⟨c, arrived, none, .ok (some result)⟩
  /-- A reply answers the change. -/
  | answered {read unread : List Response} {r : Response} {p : PendingRequest}
    (hout : c.delivery.outcome = none) (harrived : arrived = read ++ r :: unread)
    (hop : r.operation = Operation.setConfig.code) (ha : c.delivery.Answers now r p) :
    Ticks c now arrived outcome ⟨{ c with
      handshake := c.handshake.receiveAll now read
      delivery := c.delivery.answered r.commandResult }, unread, none, .ok (some r.commandResult)⟩
  /-- No request is due. -/
  | idle (hout : c.delivery.outcome = none) (hdue : (c.caughtUp now arrived).isDue now = false) :
    Ticks c now arrived outcome ⟨c.caughtUp now arrived, [], none, .ok none⟩
  /-- A request is sent. -/
  | sent (hout : c.delivery.outcome = none) (hdue : (c.caughtUp now arrived).isDue now = true)
    (htaken : outcome = .ok ()) :
    Ticks c now arrived outcome ⟨(c.caughtUp now arrived).sent now, [],
      some ⟨c.target, (c.caughtUp now arrived).nextRequest⟩, .ok none⟩
  /-- A request cannot be sent. -/
  | failed {e : TransportError} (hout : c.delivery.outcome = none)
    (hdue : (c.caughtUp now arrived).isDue now = true) (hfailed : outcome = .error e) :
    Ticks c now arrived outcome ⟨{ c.caughtUp now arrived with counter := c.counter.advance }, [],
      some ⟨c.target, (c.caughtUp now arrived).nextRequest⟩, .error (.transport e)⟩

theorem ticks_tick (c : Client) (now : Instant) (arrived : List Response)
    (outcome : Except TransportError Unit) :
    c.Ticks now arrived outcome (c.tick now arrived outcome) := by
  unfold tick
  split
  · next result hout => exact .finished hout
  · next hout =>
    rcases receive_cases hout now arrived with ⟨read, r, unread, p, harr, hop, ha, he⟩ | he
    · rw [he]
      exact .answered hout harr hop ha
    · rw [he]
      have hcaught : expire { c with handshake := c.handshake.receiveAll now arrived } now =
          c.caughtUp now arrived := rfl
      simp only [hcaught, send_eq]
      split
      · next hdue =>
        cases outcome with
        | ok => exact .sent hout hdue rfl
        | error e => exact .failed hout hdue rfl
      · next hdue => exact .idle hout (Bool.eq_false_iff.mpr hdue)

end Client

end SignedControl
