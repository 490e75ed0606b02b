import Mathlib.Data.List.Chain
import Mathlib.Data.List.MinMax
import SignedControl.Proofs.Client.Requester

/-!
# One request at a time

The delivery sends its change again and again, but never while a request may still be answered: a
request is in flight until its reply comes or its time is up, and there is no other until then. So
a reply that ends the delivery can only be one to the request that was sent last.

* `Delivery.HasSent`: the last attempt, the count of attempts and what is in flight are all views of
  the requests that have been sent. `Delivery.hasSent_run`: this holds after every run.
* `Delivery.Spaced`: how far apart they were sent, if the clock does not go back.
* `Delivery.exists_answer`: where an outcome comes from.
* `Delivery.one_in_flight`: all of this for every run.
-/

namespace SignedControl.Delivery

open Requester (Event Sending)

/-! ## What has been sent -/

/-- The delivery has sent these requests, as its other fields show. -/
structure HasSent (d : Delivery) (timeout retry : Duration) (sent : List Sending) : Prop where
  /-- A reply is waited for as long. -/
  timeout_eq : d.timeout = timeout
  /-- Between two requests there is as much time. -/
  retryInterval_eq : d.retryInterval = retry
  /-- The last attempt is the request sent last. -/
  lastAttempt_eq : d.lastAttempt = sent.getLast?.map (·.time)
  /-- The attempts are counted, on the circle. -/
  attempts_eq : d.attempts = UInt32.ofNat sent.length
  /-- Nothing is in flight, or the request sent last is. -/
  pending_eq : d.pending.requests = [] ∨
    ∃ s, sent.getLast? = some s ∧ d.pending.requests = [⟨s.sequence, s.time, timeout⟩]

section Scheme

variable [SignatureScheme] {d d' : Delivery} {timeout retry : Duration} {sent new : List Sending}
  {e : Event (SessionKey × Sender)}

omit [SignatureScheme] in
theorem hasSent_new (payload : ConfigPayload) (timeout retry : Duration) :
    (Delivery.new payload timeout retry).HasSent timeout retry [] :=
  ⟨rfl, rfl, rfl, rfl, .inl rfl⟩

omit [SignatureScheme] in
theorem HasSent.step (hd : d.HasSent timeout retry sent) (hs : d.Steps e d' new) :
    d'.HasSent timeout retry (sent ++ new) := by
  cases hs with
  | @sent now _ sender hdue =>
    refine ⟨hd.timeout_eq, hd.retryInterval_eq, ?_, ?_, .inr ⟨_, List.getLast?_concat, ?_⟩⟩
    · rw [List.getLast?_concat]
      rfl
    · rw [List.length_append, UInt32.ofNat_add, ← hd.attempts_eq]
      rfl
    · -- A request is due only when nothing is in flight.
      have hempty := pending_of_isDue hdue
      simp only [Delivery.sent, PendingSet.push, hempty, List.nil_append, hd.timeout_eq]
  | answered =>
    rw [List.append_nil]
    exact ⟨hd.timeout_eq, hd.retryInterval_eq, hd.lastAttempt_eq, hd.attempts_eq, .inl rfl⟩
  | @expired now =>
    rw [List.append_nil]
    refine ⟨hd.timeout_eq, hd.retryInterval_eq, hd.lastAttempt_eq, hd.attempts_eq, ?_⟩
    rcases hd.pending_eq with hnil | ⟨s, hlast, hone⟩
    · exact .inl (by simp [expire, PendingSet.expire, hnil])
    · simp only [expire, PendingSet.expire, hone, List.filter_singleton]
      cases PendingRequest.isLive ⟨s.sequence, s.time, timeout⟩ now with
      | true => exact .inr ⟨s, hlast, rfl⟩
      | false => exact .inl rfl
  | idle =>
    rw [List.append_nil]
    exact hd

theorem hasSent_run (payload : ConfigPayload) (timeout retry : Duration)
    (events : List (Event (SessionKey × Sender))) :
    (requester.run (.new payload timeout retry) events).HasSent timeout retry
      (requester.sendings (.new payload timeout retry) events) :=
  requester.run_induction (P := fun d sent => d.HasSent timeout retry sent)
    (hasSent_new payload timeout retry) (fun d _ e hd => hd.step (d.steps_step e)) events

/-! ## The answer -/

omit [SignatureScheme] in
theorem isDue_of_outcome {result : CommandResult} (h : d.outcome = some result) (now : Instant) :
    d.isDue now = false := by
  simp only [isDue, h, Option.isSome_some, Bool.true_or, if_true]

/-- Once there is an outcome, it stays, and nothing is handed to the transport. -/
theorem step_of_outcome {result : CommandResult} (h : d.outcome = some result)
    (e : Event (SessionKey × Sender)) :
    (requester.step d e).outcome = some result ∧ requester.offered d e = none := by
  have hdue := isDue_of_outcome h
  cases e with
  | tick now given outcome =>
    simp only [Requester.step, Requester.offered, requester, tick_eq, hdue, Bool.false_eq_true,
      if_false]
    exact ⟨h, trivial⟩
  | reply now r =>
    have hreceive : d.receive now r = (none, d) := by rw [receive, h]; rfl
    simp only [Requester.step, Requester.offered, requester, hreceive]
    exact ⟨h, trivial⟩
  | expiry now => exact ⟨h, rfl⟩

theorem outcome_run {result : CommandResult} (h : d.outcome = some result)
    (events : List (Event (SessionKey × Sender))) :
    (requester.run d events).outcome = some result :=
  requester.settled_run Delivery.outcome (fun _ _ e h => (step_of_outcome h e).1) h events

/-- After the events `before` the reply `r` ends the delivery, as the answer to the request that was
sent last. -/
structure EndsWith (d : Delivery) (before : List (Event (SessionKey × Sender))) (now : Instant)
    (r : Response) (result : CommandResult) : Prop where
  /-- There was no outcome until then. -/
  outcome_eq : (requester.run d before).outcome = none
  /-- The result is given back. -/
  receive_eq : ((requester.run d before).receive now r).1 = some result
  /-- It is the reply's own. -/
  commandResult_eq : r.commandResult = result
  /-- The reply has the number of the request sent last, and comes in time. -/
  last : ∃ s, (requester.sendings d before).getLast? = some s ∧ r.sequence = s.sequence ∧
    now.since s.time < d.timeout

/-- An outcome comes from a reply to the request that was sent last. -/
theorem exists_answer (payload : ConfigPayload) (timeout retry : Duration)
    {events : List (Event (SessionKey × Sender))} {result : CommandResult}
    (h : (requester.run (.new payload timeout retry) events).outcome = some result) :
    ∃ before now r after, events = before ++ .reply now r :: after ∧
      (Delivery.new payload timeout retry).EndsWith before now r result := by
  obtain ⟨before, e, after, rfl, hbefore, hafter⟩ :=
    requester.exists_settling Delivery.outcome (fun _ _ e h => (step_of_outcome h e).1) rfl h
  have hsent := hasSent_run payload timeout retry before
  have hs := steps_step (requester.run (.new payload timeout retry) before) e
  generalize requester.step _ e = d' at hs hafter
  generalize (requester.sending? _ e).toList = new at hs
  cases hs with
  | @answered now r p hout ha hreceive =>
    cases hafter
    refine ⟨before, now, r, after, rfl, hbefore, by rw [hreceive], rfl, ?_⟩
    obtain ⟨hmem, hlive, hsequence⟩ := ha
    rcases hsent.pending_eq with hnil | ⟨s, hlast, hone⟩
    · rw [hnil] at hmem
      cases hmem
    · rw [hone, List.mem_singleton] at hmem
      subst hmem
      exact ⟨s, hlast, hsequence, of_decide_eq_true hlive⟩
  | sent | expired | idle => cases hbefore.symm.trans hafter

/-! ## The time between two requests -/

/-- The requests sent so far, when the clock reads `latest` and has not gone back. -/
structure Spaced (d : Delivery) (timeout retry : Duration) (sent : List Sending)
    (latest : Instant) : Prop where
  /-- None was sent later. -/
  time_le : ∀ s, sent.getLast? = some s → s.time ≤ latest
  /-- If a request that was not answered is forgotten, its time is up. -/
  forgotten : d.pending.requests = [] → d.outcome = none →
    ∀ s, sent.getLast? = some s → s.time + timeout ≤ latest
  /-- From one to the next both the time-out and the retry interval have passed. -/
  isChain : sent.IsChain fun s s' => s.time + max timeout retry ≤ s'.time

omit [SignatureScheme] in
theorem Spaced.mono {latest now : Instant} (h : d.Spaced timeout retry sent latest)
    (hle : latest ≤ now) : d.Spaced timeout retry sent now :=
  ⟨fun s hs => Nat.le_trans (h.time_le s hs) hle,
    fun hp ho s hs => Nat.le_trans (h.forgotten hp ho s hs) hle, h.isChain⟩

omit [SignatureScheme] in
/-- A request that is due comes late enough after the last one. -/
theorem Spaced.le_of_isDue {now : Instant} (h : d.Spaced timeout retry sent now)
    (hd : d.HasSent timeout retry sent) (hdue : d.isDue now = true) {s : Sending}
    (hlast : sent.getLast? = some s) : s.time + max timeout retry ≤ now := by
  have hout : d.outcome = none := by
    rw [Option.eq_none_iff_forall_ne_some]
    intro result hresult
    rw [isDue_of_outcome hresult] at hdue
    cases hdue
  have htimeout := h.forgotten (pending_of_isDue hdue) hout s hlast
  have hretry : retry ≤ now - s.time := by
    have hattempt : d.lastAttempt = some s.time := by rw [hd.lastAttempt_eq, hlast, Option.map_some]
    simpa [isDue, hout, pending_of_isDue hdue, hattempt, hd.retryInterval_eq, Instant.since]
      using hdue
  have hlater := Nat.add_le_of_le_sub' (h.time_le s hlast) hretry
  rw [← Nat.add_max_add_left]
  exact Nat.max_le.mpr ⟨htimeout, hlater⟩

omit [SignatureScheme] in
theorem Spaced.step (h : d.Spaced timeout retry sent e.time) (hd : d.HasSent timeout retry sent)
    (hs : d.Steps e d' new) : d'.Spaced timeout retry (sent ++ new) e.time := by
  cases hs with
  | @sent now _ sender hdue =>
    refine ⟨?_, ?_, ?_⟩
    · intro s hs
      rw [List.getLast?_concat] at hs
      cases hs
      exact Nat.le_refl now
    · intro hpending
      simp [Delivery.sent, PendingSet.push] at hpending
    · refine List.isChain_append.mpr ⟨h.isChain, .singleton _, ?_⟩
      intro s hlast s' hs'
      cases hs'
      exact h.le_of_isDue hd hdue hlast
  | answered =>
    rw [List.append_nil]
    refine ⟨h.time_le, ?_, h.isChain⟩
    intro _ hout
    cases hout
  | @expired now =>
    rw [List.append_nil]
    refine ⟨h.time_le, ?_, h.isChain⟩
    intro hpending hout s hlast
    rcases hd.pending_eq with hnil | ⟨s', hlast', hone⟩
    · exact h.forgotten hnil hout s hlast
    · cases hlast.symm.trans hlast'
      have hover : PendingRequest.isLive ⟨s.sequence, s.time, timeout⟩ now = false := by
        simpa [expire, PendingSet.expire, hone] using hpending
      have hexpired : timeout ≤ now - s.time := Nat.le_of_not_lt (of_decide_eq_false hover)
      exact Nat.add_le_of_le_sub' (h.time_le s hlast) hexpired
  | idle =>
    rw [List.append_nil]
    exact h

theorem spaced_run (payload : ConfigPayload) (timeout retry : Duration)
    {events : List (Event (SessionKey × Sender))}
    (htimes : (events.map Event.time).Pairwise (· ≤ ·)) {latest : Instant}
    (hlatest : ∀ e ∈ events, e.time ≤ latest) :
    (requester.run (.new payload timeout retry) events).Spaced timeout retry
      (requester.sendings (.new payload timeout retry) events) latest := by
  induction events using List.reverseRecOn generalizing latest with
  | nil => exact ⟨nofun, fun _ _ => nofun, .nil⟩
  | append_singleton events e ih =>
    rw [List.map_append, List.pairwise_append] at htimes
    obtain ⟨hbefore, -, hlater⟩ := htimes
    have hle : ∀ e' ∈ events, e'.time ≤ e.time := fun e' he' =>
      hlater _ (List.mem_map_of_mem he') _ (List.mem_singleton_self _)
    have hspaced := ih hbefore hle
    rw [Requester.run_concat, Requester.sendings_concat]
    exact (hspaced.step (hasSent_run payload timeout retry events) (steps_step _ e)).mono
      (hlatest e (by simp))

/-! ## Every run -/

/-- Any run of a delivery. At most one request is in flight, and it is the one sent last; the
attempts are counted as long as the counter does not wrap. An outcome comes from a reply to the
request sent last, within the time-out; from then on it stays, and nothing is handed to the
transport. If the clock does not go back, two requests are at least the time-out and the retry
interval apart. -/
theorem one_in_flight (payload : ConfigPayload) (timeout retry : Duration)
    (events : List (Event (SessionKey × Sender))) :
    ((requester.run (.new payload timeout retry) events).pending.requests = [] ∨
      ∃ s, (requester.sendings (.new payload timeout retry) events).getLast? = some s ∧
        (requester.run (.new payload timeout retry) events).pending.requests =
          [⟨s.sequence, s.time, timeout⟩]) ∧
    ((requester.sendings (.new payload timeout retry) events).length < UInt32.size →
      (requester.run (.new payload timeout retry) events).attempts.toNat =
        (requester.sendings (.new payload timeout retry) events).length) ∧
    (∀ result, (requester.run (.new payload timeout retry) events).outcome = some result →
      (∃ before now r after, events = before ++ .reply now r :: after ∧
        (Delivery.new payload timeout retry).EndsWith before now r result) ∧
      ∀ later, (requester.run (.new payload timeout retry) (events ++ later)).outcome =
          some result ∧
        ∀ e, requester.offered (requester.run (.new payload timeout retry) (events ++ later)) e =
          none) ∧
    ((events.map Event.time).Pairwise (· ≤ ·) →
      (requester.sendings (.new payload timeout retry) events).IsChain fun s s' =>
        s.time + max timeout retry ≤ s'.time) := by
  have hsent := hasSent_run payload timeout retry events
  refine ⟨hsent.pending_eq, ?_, ?_, ?_⟩
  · intro hfew
    rw [hsent.attempts_eq, UInt32.toNat_ofNat_of_lt' hfew]
  · intro result hout
    refine ⟨exists_answer payload timeout retry hout, fun later => ?_⟩
    rw [Requester.run_append]
    have hlater := outcome_run hout later
    exact ⟨hlater, fun e => (step_of_outcome hlater e).2⟩
  · intro htimes
    obtain ⟨latest, hlatest⟩ : ∃ latest, ∀ e ∈ events, e.time ≤ latest := by
      refine ⟨(events.map Event.time).foldr max 0, fun e he => ?_⟩
      exact List.le_max_of_le' 0 (List.mem_map_of_mem he) (Nat.le_refl _)
    exact (spaced_run payload timeout retry htimes hlatest).isChain

end Scheme

/-- What a delivery's tick is given when the counter stands at a number. -/
def given (number : UInt32) : SessionKey × Sender :=
  (⟨[7], by decide⟩, ⟨⟨Block.fill keyLength 1⟩, ⟨number⟩, 0⟩)

/-- The change is sent, the reply is too late, and the second request is answered. -/
def resentEvents : List (Event (SessionKey × Sender)) :=
  [.tick 0 (given 3) (.ok ()), .reply defaultTimeout ⟨3, 5, 0, []⟩, .expiry defaultTimeout,
    .tick defaultTimeout (given 4) (.ok ()), .reply defaultTimeout ⟨4, 5, 0, []⟩]

theorem length_lockPayload_le : (Bytes.ofString "LOCK_LEVEL=1").length ≤ maxConfigPayload := by
  decide

/-- The change of `resentEvents`. -/
def lockPayload : ConfigPayload := ⟨Bytes.ofString "LOCK_LEVEL=1", length_lockPayload_le⟩

theorem sendings_resentEvents :
    requester.sendings (.new lockPayload defaultTimeout defaultRetryInterval) resentEvents =
      [⟨3, 0⟩, ⟨4, defaultTimeout⟩] := by
  decide +kernel

theorem outcome_resentEvents :
    (requester.run (.new lockPayload defaultTimeout defaultRetryInterval) resentEvents).outcome =
      some .accepted := by
  decide +kernel

theorem one_in_flight_resentEvents :
    (requester.run (.new lockPayload defaultTimeout defaultRetryInterval)
      resentEvents).attempts.toNat = 2 ∧
    (∃ before now r after, resentEvents = before ++ .reply now r :: after ∧
      (new lockPayload defaultTimeout defaultRetryInterval).EndsWith before now r .accepted) ∧
    [(⟨3, 0⟩ : Sending), ⟨4, defaultTimeout⟩].IsChain fun s s' =>
      s.time + max defaultTimeout defaultRetryInterval ≤ s'.time := by
  have h := one_in_flight lockPayload defaultTimeout defaultRetryInterval resentEvents
  rw [sendings_resentEvents] at h
  obtain ⟨-, hattempts, hanswer, hspaced⟩ := h
  exact ⟨hattempts (by decide), (hanswer .accepted outcome_resentEvents).1, hspaced (by decide)⟩

end SignedControl.Delivery
