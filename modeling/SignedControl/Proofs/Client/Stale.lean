import SignedControl.Proofs.Client.Order
import SignedControl.Proofs.Client.Taken

/-!
# Stale and repeated replies

Replies may come late, for the wrong operation or a second time. Such a reply does no harm: with it
and without it the client does the same, tick after tick.

* `Client.receive_own`: reading replies among which extra ones stand that are not waited for comes
  to the same as reading the others alone. `Client.turn_own` and `Client.run_own` are the same for a
  turn and a run.
* `Client.Harmless`: the replies that the client must not fall for, by the place where they stand.
* `Client.extras_harmless`: it does not.
-/

namespace SignedControl

/-- A reply that arrives. -/
structure Arrival where
  /-- The reply. -/
  reply : Response
  /-- Whether it is one of the extra ones. -/
  extra : Bool

/-- A turn in which extra replies stand among the others, at any place. -/
structure MixedTurn where
  /-- The clock's reading. -/
  now : Instant
  /-- The replies that can be taken. -/
  arrivals : List Arrival
  /-- What the transport answers if a request is handed to it. -/
  outcome : Except TransportError Unit

namespace MixedTurn

/-- The turn with the extra replies. -/
def all (t : MixedTurn) : Turn := ⟨t.now, t.arrivals.map (·.reply), t.outcome⟩

/-- The turn without the extra replies. -/
def own (t : MixedTurn) : Turn := ⟨t.now, (t.arrivals.filter (!·.extra)).map (·.reply), t.outcome⟩

end MixedTurn

/-- Two ticks give the same, except for the replies that are left. -/
structure Tick.Agrees (tick tick' : Tick) : Prop where
  /-- The client is the same afterwards. -/
  client_eq : tick.client = tick'.client
  /-- The same request is handed to the transport, or none. -/
  offered_eq : tick.offered = tick'.offered
  /-- The tick returns the same. -/
  result_eq : tick.result = tick'.result

namespace Client

variable {c : Client}

/-- None of the extra replies would be taken at its place. -/
def PassesBy (c : Client) (now : Instant) (arrivals : List Arrival) : Prop :=
  ∀ read r rest, arrivals = read ++ ⟨r, true⟩ :: rest →
    (c.receive now (read.map (·.reply))).1.awaits now r = false

/-- Extra replies that pass by leave no trace in what is read. -/
theorem receive_own {now : Instant} {arrivals : List Arrival} (hout : c.delivery.outcome = none)
    (hpass : c.PassesBy now arrivals) :
    (c.receive now ((arrivals.filter (!·.extra)).map (·.reply))).1 =
        (c.receive now (arrivals.map (·.reply))).1 ∧
      (c.receive now ((arrivals.filter (!·.extra)).map (·.reply))).2.2 =
        (c.receive now (arrivals.map (·.reply))).2.2 := by
  induction arrivals generalizing c with
  | nil => exact ⟨rfl, rfl⟩
  | cons a arrivals ih =>
    obtain ⟨r, _ | _⟩ := a
    · -- A reply that is not extra is read in both cases, and either ends the reading or not.
      have hcons := c.receive_cons now r
      have hread := outcome_receive hout now [r]
      rw [List.filter_cons_of_pos rfl, List.map_cons, List.map_cons, hcons, hcons (arrivals.map _)]
      cases hreceive : c.receive now [r] with
      | mk c' given =>
        obtain ⟨unread, _ | result⟩ := given
        · simp only [hreceive] at hread hcons
          refine ih hread fun read r' rest hsplit => ?_
          have hlater := hpass (⟨r, false⟩ :: read) r' rest (by rw [hsplit, List.cons_append])
          rw [List.map_cons, hcons] at hlater
          exact hlater
        · exact ⟨rfl, rfl⟩
    · -- An extra one leaves the client that reads the next ones as it is.
      have hskip := receive_of_not_awaits hout (hpass [] r arrivals rfl)
      rw [List.filter_cons_of_neg (by simp), List.map_cons, hskip]
      refine ih hout fun read r' rest hsplit => ?_
      have hlater := hpass (⟨r, true⟩ :: read) r' rest (by rw [hsplit, List.cons_append])
      rw [List.map_cons, hskip] at hlater
      exact hlater

section Scheme

variable [SignatureScheme]

/-- A tick depends on the replies only through what reading them does. -/
theorem turn_own {t : MixedTurn} (hpass : c.PassesBy t.now t.arrivals) :
    (c.turn t.own).Agrees (c.turn t.all) := by
  cases hout : c.delivery.outcome with
  | some result =>
    rw [turn_of_outcome hout, turn_of_outcome hout]
    exact ⟨rfl, rfl, rfl⟩
  | none =>
    obtain ⟨hclient, hresult⟩ := receive_own hout hpass
    simp only [turn, tick, hout, MixedTurn.own, MixedTurn.all]
    cases hown : c.receive t.now ((t.arrivals.filter (!·.extra)).map (·.reply)) with
    | mk c' given =>
      cases hall : c.receive t.now (t.arrivals.map (·.reply)) with
      | mk c'' given' =>
        obtain ⟨unread, result⟩ := given
        obtain ⟨unread', result'⟩ := given'
        rw [hown, hall] at hclient hresult
        obtain rfl : c' = c'' := hclient
        obtain rfl : result = result' := hresult
        cases result <;> exact ⟨rfl, rfl, rfl⟩

/-- If at every turn the extra replies pass by, they leave no trace in the run. -/
theorem run_own {turns : List MixedTurn}
    (hpass : ∀ before t later, turns = before ++ t :: later →
      (c.run (before.map (·.all))).PassesBy t.now t.arrivals) :
    c.run (turns.map (·.own)) = c.run (turns.map (·.all)) := by
  induction turns using List.reverseRecOn with
  | nil => rfl
  | append_singleton turns t ih =>
    have hbefore := ih fun before t' later hsplit =>
      hpass before t' (later ++ [t]) (by rw [hsplit, List.append_assoc, List.cons_append])
    rw [List.map_append, List.map_append, List.map_singleton, List.map_singleton, run_concat,
      run_concat, hbefore]
    exact (turn_own (hpass turns t [] rfl)).client_eq

/-- The reply `r` is nothing to the client, where it stands: in the turn `t` after the turns
`before`, when the replies `read` have been read. -/
inductive Harmless (c : Client) (before : List MixedTurn) (t : MixedTurn) (read : List Arrival)
    (r : Response) : Prop where
  /-- It is a reply to neither of the client's operations. -/
  | foreign (hkey : r.operation ≠ Operation.getSessionKey.code)
      (hchange : r.operation ≠ Operation.setConfig.code)
  /-- No live request of its operation is in flight with its number. -/
  | unawaited (h : ((c.run (before.map (·.all))).receive t.now (read.map (·.reply))).1.awaits t.now
      r = false)
  /-- It has been taken before, and the numbers have not come round again since. Requests that the
  transport refuses use up numbers too. -/
  | repeated (hfew : (c.calls (before.map (·.all))).length ≤ UInt32.size)
      (h : r ∈ c.taken (before.map (·.all)) ++
        (c.run (before.map (·.all))).takes t.now (read.map (·.reply)))

omit [SignatureScheme] in
theorem awaits_of_foreign {r : Response} (hkey : r.operation ≠ Operation.getSessionKey.code)
    (hchange : r.operation ≠ Operation.setConfig.code) (now : Instant) :
    c.awaits now r = false := by
  cases hop : Operation.ofCode? r.operation with
  | none => rw [awaits, hop, Bool.and_false]
  | some op =>
    cases op with
    | getSessionKey => exact absurd (Operation.ofCode?_eq_some_iff.mp hop) hkey
    | setConfig => exact absurd (Operation.ofCode?_eq_some_iff.mp hop) hchange

theorem Harmless.not_awaits {before : List MixedTurn} {t : MixedTurn} {read : List Arrival}
    {r : Response} (hnew : c.inFlight = []) (h : c.Harmless before t read r) :
    ((c.run (before.map (·.all))).receive t.now (read.map (·.reply))).1.awaits t.now r = false := by
  cases h with
  | foreign hkey hchange => exact awaits_of_foreign hkey hchange t.now
  | unawaited h => exact h
  | repeated hfew h => exact not_awaits_of_mem_taken hnew hfew h

omit [SignatureScheme] in
theorem inFlight_of_new {config : ClientConfig} {key : PrivateKey} {change : String}
    {start : UInt32} (hc : new config key change start = .ok c) : c.inFlight = [] := by
  obtain ⟨payload, -, rfl⟩ := new_eq_ok hc
  rfl

/-- Two runs of a client, of which one meets extra replies that are harmless where they stand and
the other does not. The clock and the transport's answers are the same, whatever they are. Then the
client is the same after every tick, and every tick offers the same request and returns the same. -/
theorem extras_harmless {config : ClientConfig} {key : PrivateKey} {change : String}
    {start : UInt32} (hc : new config key change start = .ok c) {turns : List MixedTurn}
    (hharmless : ∀ before t later, turns = before ++ t :: later →
      ∀ read r rest, t.arrivals = read ++ ⟨r, true⟩ :: rest → c.Harmless before t read r) :
    c.run (turns.map (·.own)) = c.run (turns.map (·.all)) ∧
    ∀ before t later, turns = before ++ t :: later →
      ((c.run (before.map (·.own))).turn t.own).Agrees
        ((c.run (before.map (·.all))).turn t.all) := by
  have hnew := inFlight_of_new hc
  have hpass : ∀ before t later, turns = before ++ t :: later →
      (c.run (before.map (·.all))).PassesBy t.now t.arrivals :=
    fun before t later hsplit read r rest harrivals =>
      (hharmless before t later hsplit read r rest harrivals).not_awaits hnew
  refine ⟨run_own hpass, ?_⟩
  rintro before t later rfl
  have hbefore : c.run (before.map (·.own)) = c.run (before.map (·.all)) :=
    run_own fun before' t' later' hsplit =>
      hpass before' t' (later' ++ t :: later) (by rw [hsplit, List.append_assoc, List.cons_append])
  rw [hbefore]
  exact turn_own (hpass before t later rfl)

end Scheme

/-- A reply that brings no key. -/
def emptyReply : Response := ⟨3, 1, 0, []⟩

/-- A reply to a change that has not been sent, with the number of a request for a session key. -/
def strayReply : Response := ⟨3, 5, 0, []⟩

/-- A turn in which a reply that brings no key comes twice, after a stray one. -/
def noisyTurn : MixedTurn :=
  ⟨tickInterval, [⟨strayReply, true⟩, ⟨emptyReply, false⟩, ⟨emptyReply, true⟩], .ok ()⟩

theorem awaits_strayReply :
    ((locking 3).run [askTurn]).awaits tickInterval strayReply = false := by
  decide +kernel

theorem mem_taken_emptyReply :
    emptyReply ∈ (locking 3).taken [askTurn] ++
      ((locking 3).run [askTurn]).takes tickInterval [strayReply, emptyReply] := by
  decide +kernel

theorem extras_harmless_locking :
    (((locking 3).run [askTurn]).turn ⟨tickInterval, [emptyReply], .ok ()⟩).Agrees
      (((locking 3).run [askTurn]).turn
        ⟨tickInterval, [strayReply, emptyReply, emptyReply], .ok ()⟩) := by
  have hharmless : ∀ before t later, [⟨0, [], .ok ()⟩, noisyTurn] = before ++ t :: later →
      ∀ read r rest, t.arrivals = read ++ ⟨r, true⟩ :: rest →
        (locking 3).Harmless before t read r := by
    intro before t later hsplit read r rest harrivals
    rcases before with _ | ⟨t₀, _ | ⟨t₁, before⟩⟩
    · cases hsplit
      cases read <;> cases harrivals
    · cases hsplit
      rcases read with _ | ⟨a, _ | ⟨a', _ | ⟨a'', read⟩⟩⟩
      · cases harrivals
        exact .unawaited awaits_strayReply
      · cases harrivals
      · cases harrivals
        exact .repeated (by decide +kernel) mem_taken_emptyReply
      · simp [noisyTurn] at harrivals
    · simp at hsplit
  exact (extras_harmless (new_locking 3) hharmless).2 [⟨0, [], .ok ()⟩] noisyTurn [] rfl

end Client

end SignedControl
