import Mathlib.Data.List.Induction
import SignedControl.Proofs.Client.Run

/-!
# First the session key, then the change

Replies are not signed, so that anything may come at any time. Still the client goes its way in
order: it asks for a session key, takes one from a reply to a request of its own, sends the change
over this key and no other, and rests when the change has been answered.

* `Client.turn_handshake_cases`: a turn brings the key from a reply, sends a request for one, or
  only forgets requests.
* `Client.exists_asks`: what is in flight in the handshake was sent at some turn.
* `Client.exists_takesKey`: a session key that is held was taken at some turn, as the answer to a
  request sent at an earlier one.
* `Client.keeps_order`: every turn of every run is in order.
-/

namespace SignedControl

/-! ## The handshake in a turn -/

namespace Handshake

theorem pending_of_sessionKey {h : Handshake} {k : SessionKey} (hk : h.sessionKey = some k) :
    h.pending.requests = [] := by
  simp only [pending, sessionKey_eq_some_iff.mp hk, PendingSet.empty]

/-- A key comes only while there is none. -/
theorem Brings.sessionKey_eq_none {h : Handshake} {now : Instant} {r : Response}
    {p : PendingRequest} {k : SessionKey} (hb : h.Brings now r p k) : h.sessionKey = none := by
  rw [Option.eq_none_iff_forall_ne_some]
  intro k' hk'
  have hmem := hb.mem
  rw [pending_of_sessionKey hk'] at hmem
  cases hmem

end Handshake

namespace Client

theorem handshake_sent_of_some {c : Client} {k : SessionKey}
    (h : c.handshake.sessionKey = some k) (now : Instant) :
    (c.sent now).handshake = c.handshake := by
  simp only [sent, h]

section Scheme

variable [SignatureScheme] {c : Client} {t : Turn} {k : SessionKey}

/-- What a turn does to the handshake: a reply that is read brings the key, a request for a key goes
out, or requests are forgotten. -/
theorem turn_handshake_cases (c : Client) (t : Turn) :
    (∃ read r p k, t.arrived = read ++ (c.turn t).unread ∧ r ∈ read ∧
      c.handshake.Brings t.now r p k ∧ (c.turn t).client.handshake.sessionKey = some k) ∨
    (c.handshake.sessionKey = none ∧ t.outcome = .ok () ∧
      (c.turn t).offered = some ⟨c.target, c.key.keyRequest c.counter.next⟩ ∧
      ∃ h, c.handshake.Drops h ∧ (c.turn t).client.handshake = h.sent t.now c.counter.next) ∨
    c.handshake.Drops (c.turn t).client.handshake := by
  have ht := c.ticks_turn t
  have hcaught := c.caughtUp_cases t.now t.arrived
  generalize c.turn t = tick at ht ⊢
  cases ht with
  | finished => exact .inr (.inr (.refl _))
  | @answered read unread r' p' _ harrived =>
    rcases c.handshake.receiveAll_cases t.now read with ⟨r, hr, p, k, hb, he⟩ | hd
    · refine .inl ⟨read ++ [r'], r, p, k, ?_, List.mem_append_left _ hr, hb, ?_⟩
      · rw [harrived, List.append_assoc, List.singleton_append]
      · rw [Handshake.sessionKey_eq_some_iff, he]
    · exact .inr (.inr hd)
  | idle | failed =>
    rcases hcaught with ⟨r, hr, p, k, hb, hk⟩ | hd
    · exact .inl ⟨t.arrived, r, p, k, (List.append_nil _).symm, hr, hb, hk⟩
    · exact .inr (.inr hd)
  | sent _ _ htaken =>
    rcases hcaught with ⟨r, hr, p, k, hb, hk⟩ | hd
    · refine .inl ⟨t.arrived, r, p, k, (List.append_nil _).symm, hr, hb, ?_⟩
      rw [sessionKey_sent, hk]
    · rcases (c.caughtUp t.now t.arrived).nextRequest_cases with ⟨hk, hnext⟩ | ⟨k, hk, -⟩
      · refine .inr (.inl ⟨hd.sessionKey_eq ▸ hk, htaken, ?_, _, hd, handshake_sent_of_none hk _⟩)
        rw [hnext]
        rfl
      · refine .inr (.inr ?_)
        rw [handshake_sent_of_some hk]
        exact hd

/-- A session key stays. -/
theorem sessionKey_turn (hk : c.handshake.sessionKey = some k) (t : Turn) :
    (c.turn t).client.handshake.sessionKey = some k := by
  obtain ⟨_, _, _, _, -, -, hb, -⟩ | ⟨hnone, -⟩ | hd := c.turn_handshake_cases t
  · cases hb.sessionKey_eq_none.symm.trans hk
  · cases hnone.symm.trans hk
  · rw [hd.sessionKey_eq, hk]

theorem sessionKey_run (hk : c.handshake.sessionKey = some k) (turns : List Turn) :
    (c.run turns).handshake.sessionKey = some k := by
  induction turns generalizing c with
  | nil => exact hk
  | cons t turns ih => exact ih (sessionKey_turn hk t)

/-- What a turn hands to the transport is a request for a key if there is none after it, and else
the change over the key that there is. -/
theorem request_of_offered {o : Outgoing} (h : (c.turn t).offered = some o) :
    ((c.turn t).client.handshake.sessionKey = none ∧
      o.request = c.key.keyRequest c.counter.next) ∨
    ∃ k, (c.turn t).client.handshake.sessionKey = some k ∧
      o.request = c.key.changeRequest c.counter.next c.delivery.payload.bytes k.bytes := by
  have ht := c.ticks_turn t
  generalize c.turn t = tick at ht h ⊢
  have hnext := (c.caughtUp t.now t.arrived).nextRequest_cases
  cases ht with
  | finished | answered | idle => cases h
  | sent =>
    cases h
    rw [sessionKey_sent]
    exact hnext
  | failed =>
    cases h
    exact hnext

/-- Where there is a key, what is handed to the transport is the change, signed over this key. -/
theorem signRequest_of_offered (hk : (c.turn t).client.handshake.sessionKey = some k)
    {o : Outgoing} (h : (c.turn t).offered = some o) :
    c.key.signRequest o.request.sequence .setConfig c.delivery.payload.bytes (some k.bytes) =
      .ok o.request := by
  obtain ⟨hnone, -⟩ | ⟨k', hk', hchange⟩ := request_of_offered h
  · cases hnone.symm.trans hk
  · cases hk'.symm.trans hk
    rw [hchange]
    exact c.key.signRequest_setConfig c.counter.next c.delivery.payload.bytes k.bytes

/-! ## Where the session key comes from -/

/-- At the turn `ask`, which follows the turns `before`, the request `p` for a session key was
sent. -/
structure Asks (c : Client) (before : List Turn) (ask : Turn) (p : PendingRequest) : Prop where
  /-- It was handed to the transport. -/
  offered : ∃ o, ((c.run before).turn ask).offered = some o ∧
    o.request.operation = .getSessionKey ∧ o.request.sequence = p.sequence
  /-- The transport took it. -/
  outcome_eq : ask.outcome = .ok ()
  /-- Its time counts from this turn. -/
  sentAt_eq : p.sentAt = ask.now
  /-- Its reply is waited for as long as any. -/
  timeout_eq : p.timeout = c.handshake.timeout

/-- What is in flight in the handshake was sent at some turn. -/
theorem exists_asks (hnew : c.handshake.pending.requests = []) (turns : List Turn)
    {p : PendingRequest} (hp : p ∈ (c.run turns).handshake.pending.requests) :
    ∃ before ask after, turns = before ++ ask :: after ∧ c.Asks before ask p := by
  induction turns using List.reverseRecOn with
  | nil =>
    rw [run, List.foldl_nil, hnew] at hp
    cases hp
  | append_singleton turns t ih =>
    -- A request in flight before the turn is found by the induction hypothesis.
    have hold : p ∈ (c.run turns).handshake.pending.requests →
        ∃ before ask after, turns ++ [t] = before ++ ask :: after ∧ c.Asks before ask p := by
      intro hmem
      obtain ⟨before, ask, after, rfl, hasks⟩ := ih hmem
      exact ⟨before, ask, after ++ [t], by rw [List.append_assoc, List.cons_append], hasks⟩
    rw [run_concat] at hp
    obtain ⟨_, _, _, _, -, -, -, hk⟩ | ⟨-, houtcome, hoffered, h, hd, hsent⟩ | hd :=
      (c.run turns).turn_handshake_cases t
    · rw [Handshake.pending_of_sessionKey hk] at hp
      cases hp
    · rw [hsent] at hp
      rcases List.mem_append.mp hp with hmem | hmem
      · exact hold (hd.sublist.subset hmem)
      · cases List.mem_singleton.mp hmem
        exact ⟨turns, t, [], rfl, ⟨_, hoffered, rfl, rfl⟩, houtcome, rfl,
          hd.timeout_eq.trans (c.sameTask_run turns).timeout_eq⟩
    · exact hold (hd.sublist.subset hp)

/-- After the turns `before`, the turn `ask` and the turns `between`, the client takes the key `k`
from the reply `r` at the turn `take`. -/
structure TakesKey (c : Client) (before : List Turn) (ask : Turn) (between : List Turn)
    (take : Turn) (r : Response) (k : SessionKey) : Prop where
  /-- At `ask` a request for a session key was handed to the transport, with the number that the
  reply has. -/
  offered : ∃ o, ((c.run before).turn ask).offered = some o ∧
    o.request.operation = .getSessionKey ∧ o.request.sequence = r.sequence
  /-- The transport took it. -/
  outcome_eq : ask.outcome = .ok ()
  /-- That was less than the time-out before. -/
  since_lt : take.now.since ask.now < c.handshake.timeout
  /-- There was no key until then. -/
  before_eq : (c.run (before ++ ask :: between)).handshake.sessionKey = none
  /-- The reply is one of those that are read. -/
  mem_read : ∃ read, take.arrived =
    read ++ ((c.run (before ++ ask :: between)).turn take).unread ∧ r ∈ read
  /-- It is a reply to a request for a session key. -/
  operation_eq : r.operation = Operation.getSessionKey.code
  /-- Its data are the key. -/
  data_eq : r.data = k.bytes
  /-- The client has the key from then on. -/
  after_eq : ((c.run (before ++ ask :: between)).turn take).client.handshake.sessionKey = some k

/-- A session key that is held was taken at some turn. -/
theorem exists_takesKey (hnew : c.handshake.progress = .init) (turns : List Turn)
    (hk : (c.run turns).handshake.sessionKey = some k) :
    ∃ before ask between take later r, turns = before ++ ask :: (between ++ take :: later) ∧
      c.TakesKey before ask between take r k := by
  induction turns using List.reverseRecOn with
  | nil =>
    have hinit := Handshake.sessionKey_eq_some_iff.mp hk
    cases hnew.symm.trans hinit
  | append_singleton turns t ih =>
    rw [run_concat] at hk
    cases hbefore : (c.run turns).handshake.sessionKey with
    | some k' =>
      cases (sessionKey_turn hbefore t).symm.trans hk
      obtain ⟨before, ask, between, take, later, r, rfl, htakes⟩ := ih hbefore
      exact ⟨before, ask, between, take, later ++ [t], r, by simp, htakes⟩
    | none =>
      obtain ⟨read, r, p, k', hread, hr, hb, hk'⟩ | ⟨-, -, -, h, -, hsent⟩ | hd :=
        (c.run turns).turn_handshake_cases t
      · cases hk'.symm.trans hk
        have hnone : c.handshake.pending.requests = [] := by
          simp only [Handshake.pending, hnew, PendingSet.empty]
        obtain ⟨before, ask, between, rfl, hasks⟩ := exists_asks hnone turns hb.mem
        have hlive : t.now - p.sentAt < p.timeout := of_decide_eq_true hb.isLive
        rw [hasks.sentAt_eq, hasks.timeout_eq] at hlive
        refine ⟨before, ask, between, t, [], r, by simp, ?_, hasks.outcome_eq, hlive, hbefore,
          ⟨read, hread, hr⟩, hb.operation_eq, hb.data_eq, hk⟩
        rw [hb.sequence_eq]
        exact hasks.offered
      · rw [hsent, Handshake.sessionKey_sent] at hk
        cases hk
      · rw [hd.sessionKey_eq, hbefore] at hk
        cases hk

/-! ## The end of a run -/

/-- Once the change has been answered, a turn does nothing. -/
theorem turn_of_outcome {result : CommandResult} (h : c.delivery.outcome = some result)
    (t : Turn) : c.turn t = ⟨c, t.arrived, none, .ok (some result)⟩ := by
  rw [turn, tick, h]

theorem run_of_outcome {result : CommandResult} (h : c.delivery.outcome = some result)
    (turns : List Turn) : c.run turns = c := by
  induction turns with
  | nil => rfl
  | cons t turns ih => rw [run_cons, turn_of_outcome h, ih]

/-- A result that a turn gives stays. -/
theorem outcome_of_result {result : CommandResult} (h : (c.turn t).result = .ok (some result)) :
    (c.turn t).client.delivery.outcome = some result := by
  have ht := c.ticks_turn t
  generalize c.turn t = tick at ht h ⊢
  cases ht with
  | finished hout => cases h; exact hout
  | answered => cases h; rfl
  | idle | sent | failed => cases h

/-! ## Order -/

/-- The turn `t` of any run, after the turns `earlier` and before the turns `later`. If a change is
handed to the transport, the client holds a key by then, and it has taken it from a reply to a
request that it had sent less than the time-out before. A key that is held stays, and whatever is
handed to the transport from then on is the change, signed over this key. When there is a result,
later turns give it again, read nothing and send nothing. -/
theorem keeps_order {config : ClientConfig} {key : PrivateKey} {change : String} {start : UInt32}
    {c : Client} (hc : new config key change start = .ok c) (earlier : List Turn) (t : Turn) :
    (∀ o, ((c.run earlier).turn t).offered = some o → o.request.operation = .setConfig →
      ∃ k, ((c.run earlier).turn t).client.handshake.sessionKey = some k ∧
        ∃ before ask between take later r,
          earlier ++ [t] = before ++ ask :: (between ++ take :: later) ∧
            c.TakesKey before ask between take r k) ∧
    (∀ k, ((c.run earlier).turn t).client.handshake.sessionKey = some k →
      (∀ o, ((c.run earlier).turn t).offered = some o →
        key.signRequest o.request.sequence .setConfig (Bytes.ofString change) (some k.bytes) =
          .ok o.request) ∧
      ∀ later t', (c.run (earlier ++ t :: later)).handshake.sessionKey = some k ∧
        ∀ o, ((c.run (earlier ++ t :: later)).turn t').offered = some o →
          key.signRequest o.request.sequence .setConfig (Bytes.ofString change) (some k.bytes) =
            .ok o.request) ∧
    ∀ result, ((c.run earlier).turn t).result = .ok (some result) → ∀ later t',
      (c.run (earlier ++ t :: later)).turn t' =
        ⟨c.run (earlier ++ t :: later), t'.arrived, none, .ok (some result)⟩ := by
  obtain ⟨hkey, hpayload, hinit⟩ : c.key = key ∧
      c.delivery.payload.bytes = Bytes.ofString change ∧ c.handshake.progress = .init := by
    obtain ⟨payload, hpayload, rfl⟩ := new_eq_ok hc
    exact ⟨rfl, hpayload, rfl⟩
  have hsigned : ∀ turns t' k, ((c.run turns).turn t').client.handshake.sessionKey = some k →
      ∀ o, ((c.run turns).turn t').offered = some o →
        key.signRequest o.request.sequence .setConfig (Bytes.ofString change) (some k.bytes) =
          .ok o.request := by
    intro turns t' k hk o ho
    rw [← hkey, ← hpayload, ← (c.sameTask_run turns).key_eq,
      ← (c.sameTask_run turns).payload_eq]
    exact signRequest_of_offered hk ho
  have hsplit : ∀ later,
      c.run (earlier ++ t :: later) = ((c.run earlier).turn t).client.run later := by
    intro later
    rw [run_append, run_cons]
  refine ⟨?_, ?_, ?_⟩
  · intro o ho hop
    obtain ⟨-, hask⟩ | ⟨k, hk, -⟩ := request_of_offered ho
    · rw [hask] at hop
      cases hop
    · have hheld : (c.run (earlier ++ [t])).handshake.sessionKey = some k := by
        rw [run_concat, hk]
      exact ⟨k, hk, exists_takesKey hinit (earlier ++ [t]) hheld⟩
  · intro k hk
    refine ⟨hsigned earlier t k hk, ?_⟩
    intro later t'
    have hstays : (c.run (earlier ++ t :: later)).handshake.sessionKey = some k := by
      rw [hsplit, sessionKey_run hk]
    exact ⟨hstays, hsigned _ t' k (sessionKey_turn hstays t')⟩
  · intro result hresult later t'
    have hout := outcome_of_result hresult
    rw [hsplit, run_of_outcome hout, turn_of_outcome hout]

end Scheme

theorem new_locking (start : UInt32) :
    new {} ⟨Block.fill keyLength 1⟩ "LOCK_LEVEL=1" start = .ok (locking start) := rfl

/-- A turn that sends a request for a session key. -/
def askTurn : Turn := ⟨0, [], .ok ()⟩

/-- A turn that takes a key and sends the change. -/
def takeTurn : Turn := ⟨tickInterval, [⟨3, 1, 0, [7]⟩], .ok ()⟩

/-- A turn that finds the change answered. -/
def answerTurn : Turn := ⟨2 * tickInterval, [⟨4, 5, 0, []⟩], .ok ()⟩

theorem sessionKey_takeTurn :
    (((locking 3).run [askTurn]).turn takeTurn).client.handshake.sessionKey =
      some ⟨[7], by decide⟩ := by
  decide +kernel

theorem offered_takeTurn :
    ((((locking 3).run [askTurn]).turn takeTurn).offered.map (·.request.operation)) =
      some .setConfig := by
  decide +kernel

theorem result_answerTurn :
    (((locking 3).run [askTurn, takeTurn]).turn answerTurn).result = .ok (some .accepted) := by
  rfl

theorem keeps_order_locking :
    (∃ o, (((locking 3).run [askTurn]).turn takeTurn).offered = some o ∧
      (∃ before ask between take later r,
        [askTurn] ++ [takeTurn] = before ++ ask :: (between ++ take :: later) ∧
          (locking 3).TakesKey before ask between take r ⟨[7], by decide⟩) ∧
      (locking 3).key.signRequest o.request.sequence .setConfig (Bytes.ofString "LOCK_LEVEL=1")
        (some [7]) = .ok o.request) ∧
    ∀ later t', (((locking 3).run ([askTurn, takeTurn] ++ answerTurn :: later)).turn t').result =
      .ok (some .accepted) := by
  obtain ⟨hchange, hover, -⟩ := keeps_order (new_locking 3) [askTurn] takeTurn
  obtain ⟨-, -, hrest⟩ := keeps_order (new_locking 3) [askTurn, takeTurn] answerTurn
  obtain ⟨o, ho, hop⟩ := Option.map_eq_some_iff.mp offered_takeTurn
  refine ⟨⟨o, ho, ?_, (hover _ sessionKey_takeTurn).1 o ho⟩, fun later t' => ?_⟩
  · obtain ⟨k, hk, htakes⟩ := hchange o ho hop
    cases hk.symm.trans sessionKey_takeTurn
    exact htakes
  · rw [hrest .accepted result_answerTurn later t']

end Client

end SignedControl
