import Mathlib.Data.List.Induction
import SignedControl.Proofs.Client.Taken

/-!
# The handshake and the delivery on their own

The handshake and the delivery are driven alike: a tick sends a request if one is due, a reply is
taken, and requests whose time is up are forgotten. A client does the three in a fixed order, but
neither machine relies on that. Here each of them runs on its own: the three come in any order, the
clock may go back, any reply may come, and the transport may refuse any request.

* `Requester.run`, `Requester.sendings`: where a run leads, and the requests that the transport took
  in it. `Requester.offered`: what an event hands to the transport.
* `Requester.exists_settling`: what stays once it is there has been brought by one event.
* `Handshake.steps_step`, `Delivery.steps_step`: all that an event can do to either machine, one
  constructor for each way through it.
-/

namespace SignedControl

/-- Who sends a request: the key that signs it, the source of its number, and the node that it is
for. -/
structure Sender where
  /-- The key. -/
  key : PrivateKey
  /-- The source of numbers. -/
  counter : SequenceCounter
  /-- The node that is addressed. -/
  target : UInt32

/-- A machine that sends requests and takes replies. Its ticks are given an `α` beside the time and
the transport's answer. -/
structure Requester (σ α : Type) where
  /-- Sends a request if one is due. -/
  tick : σ → Instant → α → Except TransportError Unit → Attempt σ
  /-- Takes a reply. -/
  receive : σ → Instant → Response → σ
  /-- Forgets the requests that are no longer waited for. -/
  expire : σ → Instant → σ

namespace Requester

/-- What happens to such a machine. -/
inductive Event (α : Type) where
  /-- A tick, with the transport's answer if a request is handed to it. -/
  | tick (now : Instant) (given : α) (outcome : Except TransportError Unit)
  /-- A reply comes. -/
  | reply (now : Instant) (r : Response)
  /-- Requests may be forgotten. -/
  | expiry (now : Instant)

/-- When an event happens. -/
def Event.time {α : Type} : Event α → Instant
  | .tick now _ _ => now
  | .reply now _ => now
  | .expiry now => now

/-- A request that the transport has taken. -/
structure Sending where
  /-- Its number. -/
  sequence : UInt32
  /-- When it was sent. -/
  time : Instant
deriving DecidableEq

variable {σ α : Type}

/-- What an event does. -/
def step (m : Requester σ α) (s : σ) : Event α → σ
  | .tick now given outcome => (m.tick s now given outcome).state
  | .reply now r => m.receive s now r
  | .expiry now => m.expire s now

/-- The request that an event hands to the transport, whether it is taken or not. -/
def offered (m : Requester σ α) (s : σ) : Event α → Option Outgoing
  | .tick now given outcome => (m.tick s now given outcome).offered
  | _ => none

/-- The request that an event sends. -/
def sending? (m : Requester σ α) (s : σ) : Event α → Option Sending
  | .tick now given (.ok ()) =>
    (m.tick s now given (.ok ())).offered.map fun o => ⟨o.request.sequence, now⟩
  | _ => none

/-- The state after some events. -/
def run (m : Requester σ α) (s : σ) (events : List (Event α)) : σ := events.foldl m.step s

/-- The requests that are sent in some events, oldest first. -/
def sendings (m : Requester σ α) (s : σ) : List (Event α) → List Sending
  | [] => []
  | e :: later => (m.sending? s e).toList ++ m.sendings (m.step s e) later

theorem run_append (m : Requester σ α) (s : σ) (events later : List (Event α)) :
    m.run s (events ++ later) = m.run (m.run s events) later := List.foldl_append

theorem run_concat (m : Requester σ α) (s : σ) (events : List (Event α)) (e : Event α) :
    m.run s (events ++ [e]) = m.step (m.run s events) e := m.run_append s events [e]

theorem sendings_append (m : Requester σ α) (s : σ) (events later : List (Event α)) :
    m.sendings s (events ++ later) = m.sendings s events ++ m.sendings (m.run s events) later := by
  induction events generalizing s with
  | nil => rfl
  | cons e events ih => rw [List.cons_append, sendings, sendings, ih, List.append_assoc]; rfl

theorem sendings_concat (m : Requester σ α) (s : σ) (events : List (Event α)) (e : Event α) :
    m.sendings s (events ++ [e]) =
      m.sendings s events ++ (m.sending? (m.run s events) e).toList := by
  rw [sendings_append, sendings, sendings, List.append_nil]

/-- What an event preserves, together with what it sends, a run preserves. -/
theorem run_induction {P : σ → List Sending → Prop} (m : Requester σ α) {s : σ} (hs : P s [])
    (hstep : ∀ s sent e, P s sent → P (m.step s e) (sent ++ (m.sending? s e).toList))
    (events : List (Event α)) : P (m.run s events) (m.sendings s events) := by
  induction events using List.reverseRecOn with
  | nil => exact hs
  | append_singleton events e ih =>
    rw [run_concat, sendings_concat]
    exact hstep _ _ e ih

section Settled

variable {β : Type} (m : Requester σ α) (result : σ → Option β) {s : σ} {b : β}
  {events : List (Event α)}

/-- What no event changes once it is there stays for the rest of a run. -/
theorem settled_run (hstays : ∀ s b e, result s = some b → result (m.step s e) = some b)
    (h : result s = some b) (events : List (Event α)) : result (m.run s events) = some b := by
  induction events generalizing s with
  | nil => exact h
  | cons e events ih => exact ih (hstays s b e h)

/-- One event has brought it. -/
theorem exists_settling (hstays : ∀ s b e, result s = some b → result (m.step s e) = some b)
    (hs : result s = none) (h : result (m.run s events) = some b) :
    ∃ before e after, events = before ++ e :: after ∧ result (m.run s before) = none ∧
      result (m.step (m.run s before) e) = some b := by
  induction events generalizing s with
  | nil => cases hs.symm.trans h
  | cons e events ih =>
    cases he : result (m.step s e) with
    | some b' =>
      cases (settled_run m result hstays he events).symm.trans h
      exact ⟨[], e, events, rfl, hs, he⟩
    | none =>
      obtain ⟨before, e', after, rfl, hbefore, hafter⟩ := ih he h
      exact ⟨e :: before, e', after, rfl, hbefore, hafter⟩

end Settled

end Requester

/-! ## The handshake -/

namespace Handshake

theorem sessionKey_of_isDue {h : Handshake} {now : Instant} (hdue : h.isDue now = true) :
    h.sessionKey = none := by
  cases hp : h.progress with
  | init | awaitingKey => simp only [sessionKey, hp]
  | haveKey key => simp [isDue, hp] at hdue

/-- A reply to a request that is waited for brings a key, if it carries one, and otherwise the
request is no longer waited for. Any other reply is passed over. -/
theorem receive_brings_or_drops (h : Handshake) (now : Instant) (r : Response) :
    (∃ p key, p ∈ h.pending.requests ∧ p.isLive now = true ∧ p.sequence = r.sequence ∧
      r.data = key.bytes ∧ h.receive now r = (true, { h with progress := .haveKey key })) ∨
    ((h.receive now r).1 = false ∧ h.Drops (h.receive now r).2) := by
  cases hp : h.progress with
  | init | haveKey =>
    have hreceive : h.receive now r = (false, h) := by simp only [receive, hp]
    rw [hreceive]
    exact .inr ⟨rfl, .refl h⟩
  | awaitingKey last pending =>
    have hpending : h.pending = pending := by simp only [Handshake.pending, hp]
    simp only [receive, hp]
    cases htake : pending.takeLive? r.sequence now with
    | mk taken rest =>
      cases taken with
      | none => exact .inr ⟨rfl, .refl h⟩
      | some p =>
        have hfound : (pending.takeLive? r.sequence now).1 = some p := by rw [htake]
        obtain ⟨hs, hl, -⟩ := PendingSet.takeLive?_eq hfound
        cases hkey : SessionKey.ofBytes? r.data with
        | some key =>
          refine .inl ⟨p, key, ?_, hl, hs, SessionKey.ofBytes?_eq_some_iff.mp hkey, rfl⟩
          rw [hpending]
          exact PendingSet.mem_of_takeLive? hfound
        | none =>
          have hrest := PendingSet.sublist_takeLive? pending r.sequence now
          rw [htake] at hrest
          exact .inr ⟨rfl, rfl, rfl, by simp [sessionKey, hp], by simp [lastAttempt, hp],
            by rw [hpending]; exact hrest⟩

end Handshake

section Scheme

variable [SignatureScheme]

namespace Handshake

theorem tick_eq (h : Handshake) (now : Instant) (key : PrivateKey) (counter : SequenceCounter)
    (target : UInt32) (outcome : Except TransportError Unit) :
    h.tick now key counter target outcome =
      if h.isDue now then
        match outcome with
        | .ok () =>
          ⟨h.sent now counter.next, counter.advance, some ⟨target, key.keyRequest counter.next⟩,
            .ok (some counter.next)⟩
        | .error e =>
          ⟨h, counter.advance, some ⟨target, key.keyRequest counter.next⟩, .error (.transport e)⟩
      else ⟨h, counter, none, .ok none⟩ := by
  unfold tick
  split
  · exact Attempt.send_eq fun sequence => key.signRequest_getSessionKey sequence
  · rfl

/-- The handshake on its own. -/
def requester : Requester Handshake Sender where
  tick h now sender outcome := h.tick now sender.key sender.counter sender.target outcome
  receive h now r := (h.receive now r).2
  expire := expire

/-- All that an event can do to the handshake, and what it sends. -/
inductive Steps (h : Handshake) :
    Requester.Event Sender → Handshake → List Requester.Sending → Prop where
  /-- A request is sent. -/
  | sent {now : Instant} {sender : Sender} (hdue : h.isDue now = true) :
    Steps h (.tick now sender (.ok ())) (h.sent now sender.counter.next)
      [⟨sender.counter.next, now⟩]
  /-- A reply to a request that is waited for brings a key. -/
  | brought {now : Instant} {r : Response} {p : PendingRequest} {key : SessionKey}
    (hmem : p ∈ h.pending.requests) (hlive : p.isLive now = true)
    (hsequence : p.sequence = r.sequence) (hdata : r.data = key.bytes)
    (hreceive : h.receive now r = (true, { h with progress := .haveKey key })) :
    Steps h (.reply now r) { h with progress := .haveKey key } []
  /-- Requests are forgotten at most. -/
  | dropped {e : Requester.Event Sender} {h' : Handshake} (hd : h.Drops h') : Steps h e h' []

theorem steps_step (h : Handshake) (e : Requester.Event Sender) :
    h.Steps e (requester.step h e) (requester.sending? h e).toList := by
  cases e with
  | tick now sender outcome =>
    cases outcome with
    | ok answer =>
      cases answer
      simp only [Requester.step, Requester.sending?, requester, tick_eq]
      cases hdue : h.isDue now with
      | true => exact .sent hdue
      | false => exact .dropped (.refl h)
    | error e =>
      have hstep : requester.step h (.tick now sender (.error e)) = h := by
        simp only [Requester.step, requester, tick_eq]
        split <;> rfl
      rw [hstep]
      exact .dropped (.refl h)
  | reply now r =>
    rcases h.receive_brings_or_drops now r with ⟨p, key, hmem, hlive, hs, hdata, he⟩ | ⟨-, hd⟩
    · have hstep : requester.step h (.reply now r) = { h with progress := .haveKey key } := by
        simp only [Requester.step, requester, he]
      rw [hstep]
      exact .brought hmem hlive hs hdata he
    · exact .dropped hd
  | expiry now => exact .dropped (h.expire_drops now)

end Handshake

/-! ## The delivery -/

namespace Delivery

theorem tick_eq (d : Delivery) (now : Instant) (sessionKey : SessionKey) (key : PrivateKey)
    (counter : SequenceCounter) (target : UInt32) (outcome : Except TransportError Unit) :
    d.tick now sessionKey key counter target outcome =
      if d.isDue now then
        match outcome with
        | .ok () =>
          ⟨d.sent now counter.next, counter.advance,
            some ⟨target, key.changeRequest counter.next d.payload.bytes sessionKey.bytes⟩,
            .ok (some counter.next)⟩
        | .error e =>
          ⟨d, counter.advance,
            some ⟨target, key.changeRequest counter.next d.payload.bytes sessionKey.bytes⟩,
            .error (.transport e)⟩
      else ⟨d, counter, none, .ok none⟩ := by
  unfold tick
  split
  · exact Attempt.send_eq fun sequence => key.signRequest_setConfig sequence _ _
  · rfl

/-- The delivery on its own. Its ticks are given the session key, too. -/
def requester : Requester Delivery (SessionKey × Sender) where
  tick d now given outcome :=
    d.tick now given.1 given.2.key given.2.counter given.2.target outcome
  receive d now r := (d.receive now r).2
  expire := expire

/-- All that an event can do to the delivery, and what it sends. -/
inductive Steps (d : Delivery) :
    Requester.Event (SessionKey × Sender) → Delivery → List Requester.Sending → Prop where
  /-- The change is sent. -/
  | sent {now : Instant} {sessionKey : SessionKey} {sender : Sender} (hdue : d.isDue now = true) :
    Steps d (.tick now (sessionKey, sender) (.ok ())) (d.sent now sender.counter.next)
      [⟨sender.counter.next, now⟩]
  /-- A reply answers it. -/
  | answered {now : Instant} {r : Response} {p : PendingRequest} (hout : d.outcome = none)
    (ha : d.Answers now r p)
    (hreceive : d.receive now r = (some r.commandResult, d.answered r.commandResult)) :
    Steps d (.reply now r) (d.answered r.commandResult) []
  /-- Requests are forgotten if their time is up. -/
  | expired {now : Instant} : Steps d (.expiry now) (d.expire now) []
  /-- Nothing is done. -/
  | idle {e : Requester.Event (SessionKey × Sender)} : Steps d e d []

theorem steps_step (d : Delivery) (e : Requester.Event (SessionKey × Sender)) :
    d.Steps e (requester.step d e) (requester.sending? d e).toList := by
  cases e with
  | tick now given outcome =>
    cases outcome with
    | ok answer =>
      cases answer
      simp only [Requester.step, Requester.sending?, requester, tick_eq]
      cases hdue : d.isDue now with
      | true => exact .sent hdue
      | false => exact .idle
    | error e =>
      have hstep : requester.step d (.tick now given (.error e)) = d := by
        simp only [Requester.step, requester, tick_eq]
        split <;> rfl
      rw [hstep]
      exact .idle
  | reply now r =>
    simp only [Requester.step, requester, Requester.sending?, Option.toList_none]
    cases hout : d.outcome with
    | some result =>
      have he : d.receive now r = (none, d) := by rw [receive, hout]; rfl
      rw [he]
      exact .idle
    | none =>
      rcases receive_cases hout now r with ⟨p, ha, he⟩ | he
      · rw [he]
        exact .answered hout ha he
      · rw [he]
        exact .idle
  | expiry now => exact .expired

end Delivery

end Scheme

end SignedControl
