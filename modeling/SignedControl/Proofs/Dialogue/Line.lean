import SignedControl.Proofs.Dialogue.Answer

/-!
# A client and a node on a line

The network is a line if it only holds messages back: each request and each reply arrives once, in
order. A `Line` is a dialogue with the places that have been reached on both sides, and a clock:
the client ticks at the interval of the command-line tool. An event on it is an event of the
dialogue (`Line.event`), so that whatever holds of a dialogue holds of it too.

* `Line.ordered_run`: the node handles the requests in the order in which they were sent.
* `Line.paced_run`: until there is a session key, requests for one are sent every retry interval.
-/

namespace SignedControl

/-- A client and a node, joined by a line. -/
structure Line where
  /-- Both ends, and what has been between them. -/
  dialogue : Dialogue
  /-- How many replies the client has read. -/
  read : Nat
  /-- When the client ticks first. -/
  begun : Instant
  /-- How many times it has ticked. -/
  ticks : Nat

/-- What may happen on a line. -/
inductive LineEvent where
  /-- The client ticks, when some more replies have arrived. -/
  | tick (arrived : Nat)
  /-- The next request arrives at the node. -/
  | deliver

namespace Line

open Dialogue (Sound)

/-- A client and a node that have not spoken yet. -/
def new (client : Client) (node : Authority) (begun : Instant) : Line where
  dialogue := .new client node
  read := 0
  begun := begun
  ticks := 0

/-- When the client ticks next. -/
def now (l : Line) : Instant := l.begun + l.ticks * tickInterval

variable [SignatureScheme]

/-- What an event does. -/
def step (l : Line) : LineEvent → Line
  | .tick arrived =>
    let numbers := List.range' l.read arrived
    let replies := l.dialogue.arrivals numbers
    let tick := l.dialogue.client.tick l.now replies (.ok ())
    { l with
      dialogue := l.dialogue.step (.tick l.now numbers (.ok ()))
      read := l.read + (replies.length - tick.unread.length)
      ticks := l.ticks + 1 }
  | .deliver => { l with dialogue := l.dialogue.step (.deliver l.dialogue.handled.length) }

/-- What events do, one after another. -/
def run (l : Line) (events : List LineEvent) : Line := events.foldl step l

/-- What happens on a line, seen as a dialogue. -/
def event (l : Line) : LineEvent → Event
  | .tick arrived => .tick l.now (List.range' l.read arrived) (.ok ())
  | .deliver => .deliver l.dialogue.handled.length

theorem steps_step (l : Line) (e : LineEvent) :
    l.dialogue.Steps (l.event e) (l.step e).dialogue := by
  have h : (l.step e).dialogue = l.dialogue.step (l.event e) := by cases e <;> rfl
  rw [h]
  exact l.dialogue.steps_step _

theorem run_append (l : Line) (events events' : List LineEvent) :
    l.run (events ++ events') = (l.run events).run events' := List.foldl_append

/-- What an event preserves, a run preserves. -/
theorem run_induction {P : Line → Prop} {l : Line} (hl : P l)
    (hstep : ∀ l e, P l → P (l.step e)) (events : List LineEvent) : P (l.run events) := by
  induction events generalizing l with
  | nil => exact hl
  | cons e events ih => exact ih (hstep l e hl)

/-- What comes to hold in a run comes to hold at an event of it. -/
theorem exists_crossing {P : Line → Prop} {l : Line} {events : List LineEvent} (hl : ¬ P l)
    (hrun : P (l.run events)) : ∃ before e after, events = before ++ e :: after ∧
      ¬ P (l.run before) ∧ P ((l.run before).step e) := by
  induction events generalizing l with
  | nil => exact absurd hrun hl
  | cons e events ih =>
    by_cases he : P (l.step e)
    · exact ⟨[], e, events, rfl, hl, he⟩
    · obtain ⟨before, e', after, rfl, hbefore, hcross⟩ := ih he hrun
      exact ⟨e :: before, e', after, rfl, hbefore, hcross⟩

/-! ## The order of requests -/

/-- What is known of a line that began with the client `c` and the node `node`. -/
structure Ordered (c : Client) (node : Authority) (l : Line) : Prop where
  /-- It is a dialogue. -/
  sound : Sound c node l.dialogue
  /-- No request overtakes another. -/
  number_eq : ∀ n (h : Handling), l.dialogue.handled[n]? = some h → h.number = n

theorem Ordered.step {c : Client} {node : Authority} {l : Line} (hl : Ordered c node l)
    (e : LineEvent) : Ordered c node (l.step e) := by
  have hs := l.steps_step e
  refine ⟨hl.sound.step hs, ?_⟩
  generalize (l.step e).dialogue = d' at hs
  cases e with
  | tick arrived =>
    rw [event] at hs
    cases hs <;> exact hl.number_eq
  | deliver =>
    rw [event] at hs
    cases hs with
    | missed => exact hl.number_eq
    | delivered =>
      intro n h hn
      rcases getElem?_concat_eq_some_iff.mp hn with hn | ⟨rfl, rfl⟩
      · exact hl.number_eq n h hn
      · rfl

theorem ordered_new {c : Client} (hc : c.Fresh) (node : Authority) (begun : Instant) :
    Ordered c node (new c node begun) :=
  ⟨Dialogue.sound_new hc node, by simp [new, Dialogue.new]⟩

theorem ordered_run {c : Client} (hc : c.Fresh) (node : Authority) (begun : Instant)
    (events : List LineEvent) : Ordered c node ((new c node begun).run events) :=
  run_induction (ordered_new hc node begun) (fun _ e hl => hl.step e) events

/-- A request handled is the one that was sent in its place. -/
theorem Ordered.sent {c : Client} {node : Authority} {l : Line} (hl : Ordered c node l) {n : Nat}
    {h : Handling} (hn : l.dialogue.handled[n]? = some h) :
    ∃ s, l.dialogue.sent[n]? = some s ∧ h.request = s.request.toRequest := by
  have hs := hl.sound.traced.sent h (List.mem_of_getElem? hn)
  rw [hl.number_eq n h hn] at hs
  exact hs

end Line

namespace Dialogue

/-! ## The pace of requests -/

/-- The requests sent so far by a client that ticks at the interval since `begun`. -/
structure Paced (begun : Instant) (ticks : Nat) (d : Dialogue) : Prop where
  /-- The retry interval is the usual one. -/
  retryInterval_eq : d.client.handshake.retryInterval = defaultRetryInterval
  /-- The last attempt is the last request sent. -/
  lastAttempt_eq : d.client.handshake.lastAttempt = d.sent.getLast?.map (·.time)
  /-- Requests are sent at ticks. -/
  onTick : ∀ s ∈ d.sent, ∃ i, i < ticks ∧ s.time = begun + i * tickInterval
  /-- There is at least the retry interval between any two. -/
  spaced : d.sent.Pairwise fun s s' => s.time + defaultRetryInterval ≤ s'.time
  /-- The next one is not due before the next tick. -/
  recent : ∀ s, d.sent.getLast? = some s →
    begun + ticks * tickInterval ≤ s.time + defaultRetryInterval

/-- The retry interval is a whole number of ticks. -/
theorem next_tick_le {begun i n : Nat}
    (h : begun + n * tickInterval < begun + i * tickInterval + defaultRetryInterval) :
    begun + (n + 1) * tickInterval ≤ begun + i * tickInterval + defaultRetryInterval := by
  have htick : tickInterval = (100000000 : Nat) := rfl
  have hretry : defaultRetryInterval = (2000000000 : Nat) := rfl
  rw [htick, hretry] at h ⊢
  omega

theorem eq_or_rel_of_getLast? {α : Type} {R : α → α → Prop} {l : List α} (hl : l.Pairwise R)
    {x y : α} (hx : l.getLast? = some x) (hy : y ∈ l) : y = x ∨ R y x := by
  obtain ⟨front, rfl⟩ := List.getLast?_eq_some_iff.mp hx
  rcases List.mem_append.mp hy with hy | hy
  · exact .inr ((List.pairwise_append.mp hl).2.2 y hy x (List.mem_singleton_self x))
  · exact .inl (List.mem_singleton.mp hy)

/-- A request is the last one sent as long as the retry interval has not passed since. -/
theorem Paced.le_iff {begun : Instant} {ticks : Nat} {d : Dialogue} (hp : Paced begun ticks d)
    {number : Nat} {s : Sending} (hs : d.sent[number]? = some s) :
    begun + ticks * tickInterval ≤ s.time + defaultRetryInterval ↔
      number = d.sent.length - 1 := by
  obtain ⟨hlt, hs'⟩ := List.getElem?_eq_some_iff.mp hs
  constructor
  · intro hle
    refine Nat.le_antisymm (Nat.le_sub_one_of_lt hlt) (Nat.le_of_not_lt fun hearly => ?_)
    have hlast : d.sent.length - 1 < d.sent.length := by omega
    have hgap := List.pairwise_iff_getElem.mp hp.spaced number (d.sent.length - 1) hlt hlast hearly
    obtain ⟨i, hi, htime⟩ := hp.onTick _ (List.getElem_mem hlast)
    rw [hs', htime] at hgap
    have htick : begun + i * tickInterval < begun + ticks * tickInterval :=
      Nat.add_lt_add_left (Nat.mul_lt_mul_of_pos_right hi (by decide)) begun
    exact absurd (Nat.lt_of_lt_of_le htick hle) (Nat.not_lt.mpr hgap)
  · rintro rfl
    refine hp.recent s ?_
    rw [List.getLast?_eq_getElem?, hs]

variable [SignatureScheme] {key : PrivateKey} {payload : ConfigPayload} {d d' : Dialogue}

omit [SignatureScheme] in
/-- A request is due once the retry interval has passed since the last one. -/
theorem Paced.isDue_iff {begun : Instant} {ticks : Nat} (hp : Paced begun ticks d) {h : Handshake}
    (hd : d.client.handshake.Drops h) (hk : h.sessionKey = none) :
    h.isDue (begun + ticks * tickInterval) = true ↔ ∀ s, d.sent.getLast? = some s →
      s.time + defaultRetryInterval ≤ begun + ticks * tickInterval := by
  rw [Handshake.isDue_iff hk, hd.lastAttempt_eq, hp.lastAttempt_eq, hd.retryInterval_eq,
    hp.retryInterval_eq]
  cases hlast : d.sent.getLast? with
  | none => simp
  | some s =>
    obtain ⟨i, hi, htime⟩ := hp.onTick s (List.mem_of_getLast? hlast)
    have hle : i * tickInterval ≤ ticks * tickInterval := Nat.mul_le_mul_right _ (Nat.le_of_lt hi)
    simp only [Option.map_some, Option.some.injEq, forall_eq', Instant.since]
    rw [htime, Nat.le_sub_iff_add_le (Nat.add_le_add_left hle begun), Nat.add_comm]

omit [SignatureScheme] in
/-- What is far enough from the last request is so from all. -/
theorem Paced.le_of_due {begun now : Instant} {ticks : Nat} (hp : Paced begun ticks d)
    (hdue : ∀ s, d.sent.getLast? = some s → s.time + defaultRetryInterval ≤ now) :
    ∀ s ∈ d.sent, s.time + defaultRetryInterval ≤ now := by
  intro s hs
  cases hlast : d.sent.getLast? with
  | none =>
    rw [List.getLast?_eq_none_iff.mp hlast] at hs
    cases hs
  | some last =>
    have hle := hdue last hlast
    rcases eq_or_rel_of_getLast? hp.spaced hlast hs with rfl | hrel
    · exact hle
    · exact Nat.le_trans hrel (Nat.le_trans (Nat.le_add_right _ _) hle)

omit [SignatureScheme] in
theorem Paced.onTick_succ {begun : Instant} {ticks : Nat} (hp : Paced begun ticks d) :
    ∀ s ∈ d.sent, ∃ i, i < ticks + 1 ∧ s.time = begun + i * tickInterval := by
  intro s hs
  obtain ⟨i, hi, htime⟩ := hp.onTick s hs
  exact ⟨i, Nat.lt_succ_of_lt hi, htime⟩

theorem Paced.step {begun : Instant} {ticks : Nat} {arrived : List Nat}
    (hs : d.Steps (.tick (begun + ticks * tickInterval) arrived (.ok ())) d') (hw : Awaiting d)
    (ha : Authored key payload d) (hp : Paced begun ticks d)
    (hk : d'.client.handshake.sessionKey = none) : Paced begun (ticks + 1) d' := by
  have hk₀ := hs.sessionKey_eq_none hk
  obtain ⟨hpending, hout⟩ := hw.of_none ha hk₀
  rw [hs.sessionKey_tick hw ha hk₀] at hk
  generalize hnow : begun + ticks * tickInterval = now at hs hk
  have hd : d.client.handshake.Drops (d.client.caughtUp now (d.arrivals arrived)).handshake := by
    rcases d.client.caughtUp_cases now (d.arrivals arrived) with ⟨r, -, p, k, -, hk'⟩ | hd
    · cases hk.symm.trans hk'
    · exact hd
  -- Without a key there is no change that could be answered: the tick sends, or it waits.
  have hdue := hp.isDue_iff hd hk
  rw [hnow, ← Client.isDue_of_none hk] at hdue
  cases hs with
  | finished hout' => cases hout.symm.trans hout'
  | answered _ _ _ hp => exact absurd hp.mem (hpending _)
  | idle _ hidle =>
    refine ⟨hd.retryInterval_eq.trans hp.retryInterval_eq,
      hd.lastAttempt_eq.trans hp.lastAttempt_eq, hp.onTick_succ, hp.spaced, fun s hlast => ?_⟩
    have hlt : now < s.time + defaultRetryInterval := by
      refine Nat.lt_of_not_le fun hle => ?_
      rw [hdue.mpr fun s' hlast' => Option.some.inj (hlast.symm.trans hlast') ▸ hle] at hidle
      cases hidle
    obtain ⟨i, hi, htime⟩ := hp.onTick s (List.mem_of_getLast? hlast)
    rw [htime, ← hnow] at hlt
    rw [htime]
    exact next_tick_le hlt
  | sent _ hsend =>
    refine ⟨?_, ?_, fun s hs => ?_, ?_, fun s hlast => ?_⟩
    · rw [Client.handshake_sent_of_none hk]
      exact hd.retryInterval_eq.trans hp.retryInterval_eq
    · rw [Client.handshake_sent_of_none hk, Handshake.lastAttempt_sent, List.getLast?_concat,
        Option.map_some]
    · rcases List.mem_append.mp hs with hs | hs
      · exact hp.onTick_succ s hs
      · rw [List.mem_singleton.mp hs]
        exact ⟨ticks, Nat.lt_succ_self ticks, hnow.symm⟩
    · refine List.pairwise_append.mpr ⟨hp.spaced, List.pairwise_singleton _ _, ?_⟩
      intro s hs s' hs'
      rw [List.mem_singleton.mp hs']
      exact hp.le_of_due (hdue.mp hsend) s hs
    · rw [List.getLast?_concat] at hlast
      obtain rfl := Option.some.inj hlast
      rw [← hnow]
      exact next_tick_le (Nat.lt_add_of_pos_right (by decide))

end Dialogue

namespace Line

open Dialogue (Paced)

variable [SignatureScheme]

theorem paced_step {c : Client} {node : Authority} {l : Line} (hl : Ordered c node l)
    (hp : Paced l.begun l.ticks l.dialogue) (e : LineEvent)
    (hk : (l.step e).dialogue.client.handshake.sessionKey = none) :
    Paced (l.step e).begun (l.step e).ticks (l.step e).dialogue := by
  have hs := l.steps_step e
  cases e with
  | tick arrived => exact hp.step hs hl.sound.awaiting hl.sound.authored hk
  | deliver =>
    have hbegun : (l.step .deliver).begun = l.begun := rfl
    have hticks : (l.step .deliver).ticks = l.ticks := rfl
    rw [hbegun, hticks]
    generalize (l.step .deliver).dialogue = d' at hs
    rw [event] at hs
    cases hs with
    | missed => exact hp
    | delivered =>
      exact ⟨hp.retryInterval_eq, hp.lastAttempt_eq, hp.onTick, hp.spaced, hp.recent⟩

/-- As long as there is no session key the requests keep the pace. -/
theorem paced_run {c : Client} (hc : c.Fresh) {timeout : Duration}
    (hhandshake : c.handshake = .new timeout defaultRetryInterval) (node : Authority)
    (begun : Instant) (events : List LineEvent)
    (hk : ((new c node begun).run events).dialogue.client.handshake.sessionKey = none) :
    Paced ((new c node begun).run events).begun ((new c node begun).run events).ticks
      ((new c node begun).run events).dialogue := by
  let P (l : Line) : Prop := Ordered c node l ∧
    (l.dialogue.client.handshake.sessionKey = none → Paced l.begun l.ticks l.dialogue)
  have hnew : P (new c node begun) := by
    refine ⟨ordered_new hc node begun, fun _ => ⟨?_, ?_, ?_, .nil, ?_⟩⟩
    all_goals simp [new, Dialogue.new, hhandshake, Handshake.new, Handshake.lastAttempt]
  have hstep : ∀ l e, P l → P (l.step e) := by
    rintro l e ⟨hl, hp⟩
    exact ⟨hl.step e, fun hk =>
      paced_step hl (hp ((l.steps_step e).sessionKey_eq_none hk)) e hk⟩
  exact (run_induction (P := P) hnew hstep events).2 hk

end Line

end SignedControl
