import Mathlib.Data.List.Chain
import SignedControl.Proofs.Client.Order
import SignedControl.Proofs.Client.Requester

/-!
# The handshake goes forward

A handshake asks for a session key until it has one, and then it rests. Whatever order its events
come in, it takes the three states one after another and never goes back.

A handshake holds its last attempt and its requests in flight only while it waits, and its key only
when it has finished, so that the type rules out most disorder. `LooseHandshake` has no such help:
its state, key, last attempt and requests are fields of their own, each written where it changes.
`LooseHandshake.shows_run` is that they never contradict one another.

* `Handshake.HasSent`: what a handshake has sent. `Handshake.hasSent_run`: this holds after every
  run.
* `Handshake.exists_keyFrom`: where a key comes from.
* `Handshake.in_order`: all of this for every run.
-/

namespace SignedControl

open Requester (Event Sending)

/-- The state that comes after a state, if one does. -/
def HandshakeState.next? : HandshakeState → Option HandshakeState
  | .init => some .awaitingKey
  | .awaitingKey => some .haveKey
  | .haveKey => none

theorem Handshake.state_eq_of_drops {h h' : Handshake} (hd : h.Drops h') : h'.state = h.state := by
  have hkey := hd.sessionKey_eq
  have hlast := hd.lastAttempt_eq
  cases hp : h.progress <;> cases hp' : h'.progress <;>
    simp_all [sessionKey, lastAttempt, state]

/-! ## A handshake in separate fields -/

/-- A handshake whose fields nothing but its steps holds together. -/
structure LooseHandshake where
  /-- How long a reply is waited for. -/
  timeout : Duration
  /-- The least time between two requests. -/
  retryInterval : Duration
  /-- How far it has come. -/
  state : HandshakeState
  /-- The key. -/
  sessionKey : Option SessionKey
  /-- When the last request was sent. -/
  lastAttempt : Option Instant
  /-- The requests in flight. -/
  pending : PendingSet

namespace LooseHandshake

/-- A handshake that has not begun. -/
def new (timeout retryInterval : Duration) : LooseHandshake where
  timeout := timeout
  retryInterval := retryInterval
  state := .init
  sessionKey := none
  lastAttempt := none
  pending := .empty

/-- Whether a request is due. -/
def isDue (x : LooseHandshake) (now : Instant) : Bool :=
  if x.sessionKey.isSome then false
  else
    match x.lastAttempt with
    | none => true
    | some last => x.retryInterval ≤ now.since last

/-- The handshake after a request has been sent. -/
def sent (x : LooseHandshake) (now : Instant) (sequence : UInt32) : LooseHandshake :=
  { x with
    lastAttempt := some now
    pending := x.pending.push ⟨sequence, now, x.timeout⟩
    state := .awaitingKey }

/-- Sends a request if one is due. -/
def tick [SignatureScheme] (x : LooseHandshake) (now : Instant) (key : PrivateKey)
    (counter : SequenceCounter) (target : UInt32) (outcome : Except TransportError Unit) :
    Attempt LooseHandshake :=
  if x.isDue now then
    .send x counter target outcome
      (fun sequence => key.signRequest sequence .getSessionKey [] none) (x.sent now)
  else ⟨x, counter, none, .ok none⟩

/-- Takes a reply, and says whether it brought the key. -/
def receive (x : LooseHandshake) (now : Instant) (r : Response) : Bool × LooseHandshake :=
  if x.sessionKey.isSome then (false, x)
  else
    match x.pending.takeLive? r.sequence now with
    | (none, _) => (false, x)
    | (some _, rest) =>
      match SessionKey.ofBytes? r.data with
      | some key => (true, { x with sessionKey := some key, state := .haveKey, pending := .empty })
      | none => (false, { x with pending := rest })

/-- Forgets the requests that are no longer waited for. -/
def expire (x : LooseHandshake) (now : Instant) : LooseHandshake :=
  { x with pending := (x.pending.expire now).2 }

/-- The loose handshake on its own. -/
def requester [SignatureScheme] : Requester LooseHandshake Sender where
  tick x now sender outcome := x.tick now sender.key sender.counter sender.target outcome
  receive x now r := (x.receive now r).2
  expire := expire

/-- The fields say of the handshake `h` what is so. The time of the last attempt, which nobody asks
for when there is a key, is kept all the same. -/
structure Shows (x : LooseHandshake) (h : Handshake) : Prop where
  /-- The time-out is the same. -/
  timeout_eq : x.timeout = h.timeout
  /-- The retry interval is the same. -/
  retryInterval_eq : x.retryInterval = h.retryInterval
  /-- The state is the same. -/
  state_eq : x.state = h.state
  /-- The key is the same. -/
  sessionKey_eq : x.sessionKey = h.sessionKey
  /-- The same requests are in flight. -/
  pending_eq : x.pending = h.pending
  /-- While there is no key, the last attempt is the same. -/
  lastAttempt_eq : h.sessionKey = none → x.lastAttempt = h.lastAttempt

variable {x : LooseHandshake} {h : Handshake}

theorem shows_new (timeout retryInterval : Duration) :
    (new timeout retryInterval).Shows (.new timeout retryInterval) :=
  ⟨rfl, rfl, rfl, rfl, rfl, fun _ => rfl⟩

theorem Shows.isDue_eq (hx : x.Shows h) (now : Instant) : x.isDue now = h.isDue now := by
  obtain ⟨-, hretry, -, hkey, -, hlast⟩ := hx
  cases hp : h.progress with
  | init | awaitingKey =>
    simp only [Handshake.sessionKey, hp, Handshake.lastAttempt, forall_const] at hkey hlast
    simp [isDue, Handshake.isDue, hp, hkey, hlast, hretry]
  | haveKey key =>
    simp only [Handshake.sessionKey, hp] at hkey
    simp [isDue, Handshake.isDue, hp, hkey]

theorem Shows.sent (hx : x.Shows h) (hk : h.sessionKey = none) (now : Instant)
    (sequence : UInt32) : (x.sent now sequence).Shows (h.sent now sequence) := by
  refine ⟨hx.timeout_eq, hx.retryInterval_eq, rfl, hx.sessionKey_eq.trans hk, ?_, fun _ => rfl⟩
  simp only [LooseHandshake.sent, Handshake.sent, hx.pending_eq, hx.timeout_eq, Handshake.pending]

theorem Shows.receive (hx : x.Shows h) (now : Instant) (r : Response) :
    (x.receive now r).1 = (h.receive now r).1 ∧ (x.receive now r).2.Shows (h.receive now r).2 := by
  have hkey := hx.sessionKey_eq
  have hpending := hx.pending_eq
  have hlast := hx.lastAttempt_eq
  cases hp : h.progress with
  | init =>
    simp only [Handshake.sessionKey, Handshake.pending, hp] at hkey hpending
    simp only [LooseHandshake.receive, Handshake.receive, hp, hkey, hpending, Option.isSome_none,
      Bool.false_eq_true, if_false]
    exact ⟨rfl, hx⟩
  | awaitingKey last pending =>
    simp only [Handshake.sessionKey, Handshake.pending, Handshake.lastAttempt, hp,
      forall_const] at hkey hpending hlast
    simp only [LooseHandshake.receive, Handshake.receive, hp, hkey, hpending, Option.isSome_none,
      Bool.false_eq_true, if_false]
    cases pending.takeLive? r.sequence now with
    | mk taken rest =>
      cases taken with
      | none => exact ⟨rfl, hx⟩
      | some p =>
        cases SessionKey.ofBytes? r.data with
        | some key =>
          refine ⟨rfl, hx.timeout_eq, hx.retryInterval_eq, rfl, rfl, rfl, ?_⟩
          intro hk
          cases hk
        | none =>
          have hstate : x.state = .awaitingKey := by rw [hx.state_eq, Handshake.state, hp]
          exact ⟨rfl, hx.timeout_eq, hx.retryInterval_eq, hstate, rfl, rfl, fun _ => hlast⟩
  | haveKey key =>
    simp only [Handshake.sessionKey, hp] at hkey
    simp only [LooseHandshake.receive, Handshake.receive, hp, hkey, Option.isSome_some, if_true]
    exact ⟨trivial, hx⟩

theorem Shows.expire (hx : x.Shows h) (now : Instant) : (x.expire now).Shows (h.expire now) := by
  have hd := h.expire_drops now
  have hpending : (h.expire now).pending = (h.pending.expire now).2 := by
    cases hp : h.progress with
    | init | haveKey => simp only [Handshake.expire, Handshake.pending, hp]; rfl
    | awaitingKey last pending => simp only [Handshake.expire, Handshake.pending, hp]
  refine ⟨hx.timeout_eq.trans hd.timeout_eq.symm,
    hx.retryInterval_eq.trans hd.retryInterval_eq.symm, ?_, hx.sessionKey_eq.trans hd.sessionKey_eq.symm, ?_, fun hk => ?_⟩
  · rw [Handshake.state_eq_of_drops hd]
    exact hx.state_eq
  · rw [hpending, ← hx.pending_eq]
    rfl
  · rw [hd.lastAttempt_eq]
    exact hx.lastAttempt_eq (hd.sessionKey_eq ▸ hk)

section Scheme

variable [SignatureScheme]

theorem tick_eq (x : LooseHandshake) (now : Instant) (key : PrivateKey)
    (counter : SequenceCounter) (target : UInt32) (outcome : Except TransportError Unit) :
    x.tick now key counter target outcome =
      if x.isDue now then
        match outcome with
        | .ok () =>
          ⟨x.sent now counter.next, counter.advance, some ⟨target, key.keyRequest counter.next⟩,
            .ok (some counter.next)⟩
        | .error e =>
          ⟨x, counter.advance, some ⟨target, key.keyRequest counter.next⟩, .error (.transport e)⟩
      else ⟨x, counter, none, .ok none⟩ := by
  unfold tick
  split
  · exact Attempt.send_eq fun sequence => key.signRequest_getSessionKey sequence
  · rfl

/-- A tick of the fields does what a tick of the handshake does, and gives the same. -/
theorem Shows.tick (hx : x.Shows h) (now : Instant) (key : PrivateKey) (counter : SequenceCounter)
    (target : UInt32) (outcome : Except TransportError Unit) :
    (x.tick now key counter target outcome).state.Shows
        (h.tick now key counter target outcome).state ∧
      (x.tick now key counter target outcome).counter =
        (h.tick now key counter target outcome).counter ∧
      (x.tick now key counter target outcome).offered =
        (h.tick now key counter target outcome).offered ∧
      (x.tick now key counter target outcome).result =
        (h.tick now key counter target outcome).result := by
  rw [tick_eq, Handshake.tick_eq, hx.isDue_eq]
  cases hdue : h.isDue now with
  | true =>
    cases outcome with
    | ok answer => exact ⟨hx.sent (Handshake.sessionKey_of_isDue hdue) now _, rfl, rfl, rfl⟩
    | error e => exact ⟨hx, rfl, rfl, rfl⟩
  | false => exact ⟨hx, rfl, rfl, rfl⟩

theorem Shows.step (hx : x.Shows h) (e : Event Sender) :
    (requester.step x e).Shows (Handshake.requester.step h e) ∧
      requester.sending? x e = Handshake.requester.sending? h e := by
  cases e with
  | tick now sender outcome =>
    have htick := hx.tick now sender.key sender.counter sender.target outcome
    refine ⟨htick.1, ?_⟩
    cases outcome with
    | ok answer =>
      cases answer
      exact congrArg (Option.map _) htick.2.2.1
    | error e => rfl
  | reply now r => exact ⟨(hx.receive now r).2, rfl⟩
  | expiry now => exact ⟨hx.expire now, rfl⟩

/-- In every run the fields say of the handshake what is so, and the same requests are sent. -/
theorem shows_run (timeout retryInterval : Duration) (events : List (Event Sender)) :
    (requester.run (.new timeout retryInterval) events).Shows
        (Handshake.requester.run (.new timeout retryInterval) events) ∧
      requester.sendings (.new timeout retryInterval) events =
        Handshake.requester.sendings (.new timeout retryInterval) events := by
  induction events using List.reverseRecOn with
  | nil => exact ⟨shows_new timeout retryInterval, rfl⟩
  | append_singleton events e ih =>
    obtain ⟨hshows, hsendings⟩ := ih
    have hstep := hshows.step e
    simp only [Requester.run_concat, Requester.sendings_concat]
    exact ⟨hstep.1, by rw [hsendings, hstep.2]⟩

end Scheme

end LooseHandshake

/-! ## What has been sent -/

namespace Handshake

/-- The handshake has sent these requests, as its other fields show. -/
structure HasSent (h : Handshake) (timeout retry : Duration) (sent : List Sending) : Prop where
  /-- A reply is waited for as long. -/
  timeout_eq : h.timeout = timeout
  /-- Between two requests there is as much time. -/
  retryInterval_eq : h.retryInterval = retry
  /-- While there is no key, the last attempt is the request sent last. -/
  lastAttempt_eq : h.sessionKey = none → h.lastAttempt = sent.getLast?.map (·.time)
  /-- There is no key without a request. -/
  ne_nil : ∀ k, h.sessionKey = some k → sent ≠ []
  /-- What is in flight has been sent. -/
  mem_sent : ∀ p ∈ h.pending.requests, ∃ s ∈ sent, p = ⟨s.sequence, s.time, timeout⟩
  /-- From one request to the next the retry interval has passed. -/
  isChain : sent.IsChain fun s s' => retry ≤ s'.time.since s.time

variable {h h' : Handshake} {timeout retry : Duration} {sent new : List Sending} {e : Event Sender}

theorem hasSent_new (timeout retry : Duration) :
    (Handshake.new timeout retry).HasSent timeout retry [] :=
  ⟨rfl, rfl, fun _ => rfl, nofun, List.forall_mem_nil _, .nil⟩

theorem HasSent.step (hh : h.HasSent timeout retry sent) (hs : h.Steps e h' new) :
    h'.HasSent timeout retry (sent ++ new) := by
  cases hs with
  | @sent now sender hdue =>
    have hk := sessionKey_of_isDue hdue
    refine ⟨hh.timeout_eq, hh.retryInterval_eq, fun _ => ?_, nofun, ?_, ?_⟩
    · rw [lastAttempt_sent, List.getLast?_concat, Option.map_some]
    · intro p hp
      rcases List.mem_append.mp hp with hp | hp
      · obtain ⟨s, hmem, hs⟩ := hh.mem_sent p hp
        exact ⟨s, List.mem_append_left _ hmem, hs⟩
      · rw [List.mem_singleton.mp hp, hh.timeout_eq]
        exact ⟨_, List.mem_append_right _ (List.mem_singleton_self _), rfl⟩
    · refine List.isChain_append.mpr ⟨hh.isChain, .singleton _, ?_⟩
      intro s hlast s' hs'
      cases hs'
      rw [isDue_iff hk, hh.lastAttempt_eq hk, hlast, hh.retryInterval_eq] at hdue
      exact hdue s.time rfl
  | @brought now r p key hmem =>
    rw [List.append_nil]
    obtain ⟨s, hs, -⟩ := hh.mem_sent p hmem
    exact ⟨hh.timeout_eq, hh.retryInterval_eq, nofun, fun _ _ => List.ne_nil_of_mem hs,
      List.forall_mem_nil _, hh.isChain⟩
  | dropped hd =>
    rw [List.append_nil]
    refine ⟨hd.timeout_eq.trans hh.timeout_eq, hd.retryInterval_eq.trans hh.retryInterval_eq,
      ?_, ?_, fun p hp => hh.mem_sent p (hd.sublist.subset hp), hh.isChain⟩
    · rw [hd.sessionKey_eq, hd.lastAttempt_eq]
      exact hh.lastAttempt_eq
    · rw [hd.sessionKey_eq]
      exact hh.ne_nil

theorem HasSent.state_eq_init_iff (hh : h.HasSent timeout retry sent) :
    h.state = .init ↔ sent = [] := by
  have hlast := hh.lastAttempt_eq
  have hne := hh.ne_nil
  cases hp : h.progress with
  | init =>
    simp only [sessionKey, lastAttempt, hp, forall_const, eq_comm (a := none),
      Option.map_eq_none_iff, List.getLast?_eq_none_iff] at hlast
    simp only [state, hp, hlast]
  | awaitingKey last pending =>
    have hsent : sent ≠ [] := by
      rintro rfl
      simp [sessionKey, lastAttempt, hp] at hlast
    simp [state, hp, hsent]
  | haveKey key =>
    have hsent : sent ≠ [] := hne key (by simp only [sessionKey, hp])
    simp [state, hp, hsent]

theorem state_eq_haveKey_iff (h : Handshake) : h.state = .haveKey ↔ h.sessionKey.isSome = true := by
  cases hp : h.progress <;> simp [state, sessionKey, hp]

/-- The state stays, or the next one comes. -/
theorem Steps.state (hs : h.Steps e h' new) :
    h'.state = h.state ∨ h.state.next? = some h'.state := by
  cases hs with
  | sent hdue =>
    cases hp : h.progress with
    | init => exact .inr (by simp only [Handshake.state, Handshake.sent, hp, HandshakeState.next?])
    | awaitingKey last pending => exact .inl (by simp only [Handshake.state, Handshake.sent, hp])
    | haveKey key => simp [isDue, hp] at hdue
  | @brought now r p key hmem =>
    -- Only a waiting handshake has a request in flight.
    cases hp : h.progress with
    | init | haveKey =>
      simp only [pending, hp, PendingSet.empty] at hmem
      cases hmem
    | awaitingKey last pending =>
      exact .inr (by simp only [Handshake.state, hp, HandshakeState.next?])
  | dropped hd => exact .inl (state_eq_of_drops hd)

section Scheme

variable [SignatureScheme]

theorem hasSent_run (timeout retry : Duration) (events : List (Event Sender)) :
    (requester.run (.new timeout retry) events).HasSent timeout retry
      (requester.sendings (.new timeout retry) events) :=
  requester.run_induction (P := fun h sent => h.HasSent timeout retry sent)
    (hasSent_new timeout retry) (fun h _ e hh => hh.step (h.steps_step e)) events

/-- A tick hands a request to the transport if one is due, and else none. -/
theorem isDue_iff_offered (h : Handshake) (now : Instant) (sender : Sender)
    (outcome : Except TransportError Unit) :
    h.isDue now = true ↔ (requester.tick h now sender outcome).offered.isSome = true := by
  simp only [requester, tick_eq]
  cases hdue : h.isDue now with
  | true => cases outcome <;> simp
  | false => simp

/-! ## The key -/

/-- Once there is a key, it stays, and nothing is handed to the transport. -/
theorem step_of_sessionKey {k : SessionKey} (hk : h.sessionKey = some k) (e : Event Sender) :
    (requester.step h e).sessionKey = some k ∧ requester.offered h e = none := by
  have hp := sessionKey_eq_some_iff.mp hk
  cases e with
  | tick now sender outcome =>
    have hdue : h.isDue now = false := by simp only [isDue, hp]
    simp only [Requester.step, Requester.offered, requester, tick_eq, hdue, Bool.false_eq_true,
      if_false]
    exact ⟨hk, trivial⟩
  | reply now r =>
    have hreceive : h.receive now r = (false, h) := by simp only [receive, hp]
    simp only [Requester.step, Requester.offered, requester, hreceive]
    exact ⟨hk, trivial⟩
  | expiry now =>
    simp only [Requester.step, Requester.offered, requester, expire_of_haveKey hp]
    exact ⟨hk, trivial⟩

theorem sessionKey_of_run {k : SessionKey} (hk : h.sessionKey = some k)
    (events : List (Event Sender)) : (requester.run h events).sessionKey = some k :=
  requester.settled_run sessionKey (fun _ _ e hk => (step_of_sessionKey hk e).1) hk events

/-- After the events `before` the reply `r` brings the key `k`. -/
structure KeyFrom (first : Handshake) (before : List (Event Sender)) (now : Instant) (r : Response)
    (k : SessionKey) : Prop where
  /-- There was no key until then. -/
  sessionKey_eq : (requester.run first before).sessionKey = none
  /-- The reply is taken as one that brings a key. -/
  receive_eq : ((requester.run first before).receive now r).1 = true
  /-- Its data are the key, and there are some. -/
  data_eq : r.data = k.bytes ∧ r.data ≠ []
  /-- It has the number of a request that was sent less than the time-out before. -/
  answers : ∃ s ∈ requester.sendings first before, r.sequence = s.sequence ∧
    now.since s.time < first.timeout

theorem exists_keyFrom (timeout retry : Duration) {events : List (Event Sender)} {k : SessionKey}
    (hk : (requester.run (.new timeout retry) events).sessionKey = some k) :
    ∃ before now r after, events = before ++ .reply now r :: after ∧
      (Handshake.new timeout retry).KeyFrom before now r k := by
  obtain ⟨before, e, after, rfl, hbefore, hafter⟩ :=
    requester.exists_settling sessionKey (fun _ _ e hk => (step_of_sessionKey hk e).1) rfl hk
  have hsent := hasSent_run timeout retry before
  have hs := steps_step (requester.run (.new timeout retry) before) e
  generalize requester.step _ e = h' at hs hafter
  generalize (requester.sending? _ e).toList = new at hs
  cases hs with
  | @brought now r p key hmem hlive hsequence hdata hreceive =>
    cases hafter
    refine ⟨before, now, r, after, rfl, hbefore, by rw [hreceive], ⟨hdata, ?_⟩, ?_⟩
    · rw [hdata]
      exact k.ne_nil
    · obtain ⟨s, hs, rfl⟩ := hsent.mem_sent p hmem
      exact ⟨s, hs, hsequence.symm, of_decide_eq_true hlive⟩
  | sent => cases hafter
  | dropped hd =>
    rw [hd.sessionKey_eq, hbefore] at hafter
    cases hafter

/-! ## Every run -/

/-- What is so after some events of a handshake that had not begun. -/
structure InOrder (first : Handshake) (events : List (Event Sender)) : Prop where
  /-- The next event leaves the state, or brings the one that comes after it. -/
  follows : ∀ e, (requester.step (requester.run first events) e).state =
      (requester.run first events).state ∨
    (requester.run first events).state.next? =
      some (requester.step (requester.run first events) e).state
  /-- The state is the first one until a request has been sent. -/
  init_iff : (requester.run first events).state = .init ↔ requester.sendings first events = []
  /-- It is the last one when there is a key. -/
  haveKey_iff : (requester.run first events).state = .haveKey ↔
    (requester.run first events).sessionKey.isSome = true
  /-- A key comes from a reply that was taken, and stays. -/
  key : ∀ k, (requester.run first events).sessionKey = some k →
    (∃ before now r after, events = before ++ .reply now r :: after ∧
      first.KeyFrom before now r k) ∧
    ∀ later, (requester.run first (events ++ later)).sessionKey = some k
  /-- In the last state nothing is in flight, and nothing is handed to the transport any more. -/
  finished : (requester.run first events).state = .haveKey →
    (requester.run first events).pending.requests = [] ∧
      ∀ later e, requester.offered (requester.run first (events ++ later)) e = none
  /-- A request is said to be due when a tick would hand one to the transport. -/
  isDue_iff : ∀ now sender outcome, (requester.run first events).isDue now = true ↔
    (requester.tick (requester.run first events) now sender outcome).offered.isSome = true
  /-- From one request that is sent to the next the retry interval passes. -/
  spaced : (requester.sendings first events).IsChain fun s s' =>
    first.retryInterval ≤ s'.time.since s.time
  /-- Fields that are written separately say the same, and make it send the same. -/
  shows : (LooseHandshake.requester.run (.new first.timeout first.retryInterval) events).Shows
      (requester.run first events) ∧
    LooseHandshake.requester.sendings (.new first.timeout first.retryInterval) events =
      requester.sendings first events

/-- Whatever happens to a handshake, in any order and at any times, it goes forward. -/
theorem in_order (timeout retry : Duration) (events : List (Event Sender)) :
    (Handshake.new timeout retry).InOrder events := by
  have hsent := hasSent_run timeout retry events
  refine {
    follows := fun e => (steps_step _ e).state
    init_iff := hsent.state_eq_init_iff
    haveKey_iff := state_eq_haveKey_iff _
    key := fun k hk => ⟨exists_keyFrom timeout retry hk, fun later => ?_⟩
    finished := fun hstate => ?_
    isDue_iff := isDue_iff_offered _
    spaced := hsent.isChain
    shows := LooseHandshake.shows_run timeout retry events }
  · rw [Requester.run_append]
    exact sessionKey_of_run hk later
  · obtain ⟨k, hk⟩ := Option.isSome_iff_exists.mp ((state_eq_haveKey_iff _).mp hstate)
    refine ⟨pending_of_sessionKey hk, fun later e => ?_⟩
    rw [Requester.run_append]
    exact (step_of_sessionKey (sessionKey_of_run hk later) e).2

end Scheme

/-- The operator, when the counter stands at a number. -/
def operator (number : UInt32) : Sender := ⟨⟨Block.fill keyLength 1⟩, ⟨number⟩, 0⟩

/-- The first request is refused, the second is answered without a key while the clock goes back,
and the third brings one. -/
def keyEvents : List (Event Sender) :=
  [.tick 5 (operator 3) (.error (.closed "")), .tick 5 (operator 4) (.ok ()),
    .reply 3 ⟨4, 1, 0, []⟩, .tick (5 + defaultRetryInterval) (operator 5) (.ok ()),
    .reply (6 + defaultRetryInterval) ⟨5, 1, 0, [7]⟩]

theorem sendings_keyEvents :
    requester.sendings (.new defaultTimeout defaultRetryInterval) keyEvents =
      [⟨4, 5⟩, ⟨5, 5 + defaultRetryInterval⟩] := by
  decide +kernel

theorem sessionKey_keyEvents :
    (requester.run (.new defaultTimeout defaultRetryInterval) keyEvents).sessionKey =
      some ⟨[7], by decide⟩ := by
  decide +kernel

theorem in_order_keyEvents :
    (requester.run (.new defaultTimeout defaultRetryInterval) keyEvents).state = .haveKey ∧
    (∃ before now r after, keyEvents = before ++ .reply now r :: after ∧
      (Handshake.new defaultTimeout defaultRetryInterval).KeyFrom before now r ⟨[7], by decide⟩) ∧
    [(⟨4, 5⟩ : Sending), ⟨5, 5 + defaultRetryInterval⟩].IsChain fun s s' =>
      defaultRetryInterval ≤ s'.time.since s.time := by
  have h := in_order defaultTimeout defaultRetryInterval keyEvents
  have hspaced := h.spaced
  rw [sendings_keyEvents] at hspaced
  refine ⟨h.haveKey_iff.mpr ?_, (h.key _ sessionKey_keyEvents).1, hspaced⟩
  rw [sessionKey_keyEvents]
  rfl

end Handshake

end SignedControl
