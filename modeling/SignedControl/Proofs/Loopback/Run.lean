import Mathlib.Data.List.TakeWhile
import SignedControl.Loopback
import SignedControl.Proofs.Client.Tick
import SignedControl.Proofs.Node.Exchange
import SignedControl.Proofs.Node.Service

/-!
# Runs of a loopback, tick by tick

A run is put together from its ticks. What a tick does follows from what it does to the client: the
replies underway are read, and a request that is sent is lost, or handled by the node at once.

* `Authority.exchange_eq`: as far as the node can tell, a request that travels as bytes is handed to
  it directly.
* `Loopback.Passes`: ticks that do not end a run. `Passes.run_eq`: a run goes through them and on
  from where they lead.
* `Loopback.tick_eq`: a tick of the loopback by what the client does in it.
-/

namespace SignedControl

section Scheme

variable [SignatureScheme]

/-! ## The client's side -/

namespace Client

variable {c : Client} {now : Instant} {rs : List Response}

/-- Without an answer to the change, a request goes out if one is due. -/
theorem tick_of_due (hout : c.delivery.outcome = none)
    (hrs : ∀ r ∈ rs, r.operation ≠ Operation.setConfig.code)
    (hdue : (c.caughtUp now rs).isDue now = true) :
    c.tick now rs (.ok ()) = ⟨(c.caughtUp now rs).sent now, [],
      some ⟨c.target, (c.caughtUp now rs).nextRequest⟩, .ok none⟩ := by
  have ht := c.ticks_tick now rs (.ok ())
  generalize c.tick now rs (.ok ()) = tick at ht ⊢
  cases ht with
  | finished hout' => cases hout.symm.trans hout'
  | answered _ harrived hop =>
    exact absurd hop (hrs _ (harrived ▸ List.mem_append_right _ List.mem_cons_self))
  | idle _ hdue' => cases hdue.symm.trans hdue'
  | sent => rfl
  | failed _ _ hfailed => cases hfailed

theorem tick_of_not_due (hout : c.delivery.outcome = none)
    (hrs : ∀ r ∈ rs, r.operation ≠ Operation.setConfig.code)
    (hdue : (c.caughtUp now rs).isDue now = false) :
    c.tick now rs (.ok ()) = ⟨c.caughtUp now rs, [], none, .ok none⟩ := by
  have ht := c.ticks_tick now rs (.ok ())
  generalize c.tick now rs (.ok ()) = tick at ht ⊢
  cases ht with
  | finished hout' => cases hout.symm.trans hout'
  | answered _ harrived hop =>
    exact absurd hop (hrs _ (harrived ▸ List.mem_append_right _ List.mem_cons_self))
  | idle => rfl
  | sent _ hdue' | failed _ hdue' => cases hdue.symm.trans hdue'

end Client

/-! ## The node's side -/

/-- The node handles the request that was written, and the reply comes back. -/
theorem Authority.exchange_eq (a : Authority) (nodeId source : UInt32) {r : Request}
    (h : r.data.length + 38 ≤ Wire.maxFrameSize) :
    a.exchange nodeId (.ofRequest source nodeId r) = (some (a.handle r).1, (a.handle r).2) := by
  obtain ⟨bytes, hbytes⟩ := Wire.exists_encode_ofRequest source nodeId h
  have hframed := Wire.eq_framed_of_encode hbytes
  have hsize := (Wire.encode_eq_ok_iff.mp hbytes).1
  have hframes : Wire.frames bytes = ([.ofRequest source nodeId r], none) := by
    rw [hframed, ← List.append_nil (Wire.framed _)]
    have hread := Wire.decodeFrame_encodeFrame (Nat.lt_of_le_of_lt hsize (by decide))
    rw [Wire.frames_of_good (Wire.front_framed hsize []) hread, Wire.frames_of_incomplete rfl]
  have hne : bytes.isEmpty = false := by
    rw [hframed, Wire.framed]
    rfl
  have hreceive : ∃ d, Node.Connection.new.receive nodeId a bytes =
      (Wire.framed (Wire.encodeFrame (.ofResponse nodeId source (a.handle r).1)), d,
        (a.handle r).2) := by
    -- The connection has read nothing before.
    obtain ⟨d, hserved, -⟩ := Node.serveBuffered_eq nodeId a (Wire.Decoder.empty.extend bytes)
    have hbuffer : (Wire.Decoder.empty.extend bytes).buffer = bytes := rfl
    simp only [hbuffer, hframes, answerFrames, handleFrame_ofRequest, Option.toList_some,
      List.append_nil, Wire.streamOf_cons] at hserved
    refine ⟨⟨d, .running⟩, ?_⟩
    simp [Node.Connection.receive, Node.Connection.new, hne, hserved, Wire.streamOf]
  obtain ⟨d, hreceive⟩ := hreceive
  have hread := Wire.decode_encode (a.encode_ofResponse_handle nodeId source r) []
  rw [List.append_nil] at hread
  simp only [exchange, hbytes, hreceive, hread]
  rfl

namespace Loopback

variable {l l' l'' : Loopback} {interval : Duration} {rs rs' : List TickReport}

/-! ## One tick -/

theorem carry_of_lost {o : Outgoing} (h : l.conditions.losesRequest l.sent = true) :
    l.carry o = (.lost, { l with sent := l.sent + 1 }) := by
  simp only [carry, h, if_true]

/-- A request that is not lost is handled at once. -/
theorem carry_of_delivered {o : Outgoing} (hlost : l.conditions.losesRequest l.sent = false)
    (hreply : l.conditions.losesReply l.sent = false) (hdelay : l.conditions.delay = 0)
    (honce : l.conditions.repeatsReplies = false) (htarget : o.target = l.serverNode)
    (hsize : o.request.toRequest.data.length + 38 ≤ Wire.maxFrameSize) :
    l.carry o = (.answered (l.authority.handle o.request.toRequest).1, { l with
      authority := (l.authority.handle o.request.toRequest).2
      sent := l.sent + 1
      underway := l.underway ++
        [(l.clock.now, (l.authority.handle o.request.toRequest).1)] }) := by
  simp [carry, hlost, hreply, hdelay, honce, htarget, Authority.exchange_eq _ _ _ hsize]

/-- A tick by what the client does in it, when it reads every reply underway. -/
theorem tick_eq {client : Client} {offered : Option Outgoing}
    {result : Except ClientError (Option CommandResult)}
    (harrived : ∀ e ∈ l.underway, e.1 ≤ l.clock.now)
    (htick : l.client.tick l.clock.now (l.underway.map (·.2)) (.ok ()) =
      ⟨client, [], offered, result⟩) :
    l.tick =
      match offered with
      | none =>
        (⟨none, client.handshake.state, result⟩, { l with client := client, underway := [] })
      | some o =>
        let carried := { l with client := client, underway := [] }.carry o
        (⟨some (o, carried.1), client.handshake.state, result⟩, carried.2) := by
  have hall : l.underway.takeWhile (fun e => decide (e.1 ≤ l.clock.now)) = l.underway :=
    List.takeWhile_eq_self_iff.mpr fun e he => by simp [harrived e he]
  unfold tick
  simp only [hall, htick, List.length_nil, Nat.sub_zero, List.drop_length]
  cases offered <;> rfl

/-- The client when it has read the replies underway and looked at the time. -/
def caughtUp (l : Loopback) : Client := l.client.caughtUp l.clock.now (l.underway.map (·.2))

/-- The replies underway can be read, and none of them ends the run. -/
structure Reads (l : Loopback) : Prop where
  /-- The change has not been answered. -/
  outcome_eq : l.client.delivery.outcome = none
  /-- The replies have arrived. -/
  arrived : ∀ e ∈ l.underway, e.1 ≤ l.clock.now
  /-- None is a reply to the change. -/
  operation_ne : ∀ e ∈ l.underway, e.2.operation ≠ Operation.setConfig.code

omit [SignatureScheme] in
theorem Reads.operation_ne_of_mem (h : l.Reads) :
    ∀ r ∈ l.underway.map (·.2), r.operation ≠ Operation.setConfig.code := by
  intro r hr
  obtain ⟨e, he, rfl⟩ := List.mem_map.mp hr
  exact h.operation_ne e he

theorem tick_of_not_due (h : l.Reads) (hdue : l.caughtUp.isDue l.clock.now = false) :
    l.tick = (⟨none, l.caughtUp.handshake.state, .ok none⟩,
      { l with client := l.caughtUp, underway := [] }) :=
  tick_eq h.arrived (Client.tick_of_not_due h.outcome_eq h.operation_ne_of_mem hdue)

/-- If a request is due, it is carried to the node. -/
theorem tick_of_due (h : l.Reads) (hdue : l.caughtUp.isDue l.clock.now = true) {fate : Fate}
    (hcarry : { l with client := l.caughtUp.sent l.clock.now, underway := [] }.carry
      ⟨l.client.target, l.caughtUp.nextRequest⟩ = (fate, l')) :
    l.tick = (⟨some (⟨l.client.target, l.caughtUp.nextRequest⟩, fate),
      (l.caughtUp.sent l.clock.now).handshake.state, .ok none⟩, l') := by
  rw [tick_eq h.arrived (Client.tick_of_due h.outcome_eq h.operation_ne_of_mem hdue)]
  unfold caughtUp at hcarry ⊢
  simp only [hcarry]

/-! ## Ticks that do not end a run -/

/-- The loopback after a tick and the time to the next one. -/
def next (interval : Duration) (l : Loopback) : Loopback :=
  { l.tick.2 with clock := l.tick.2.clock.advance interval }

/-- Ticks that do not end a run, with what they report and where they lead. -/
inductive Passes (interval : Duration) : Loopback → List TickReport → Loopback → Prop where
  /-- No tick at all. -/
  | nil (l : Loopback) : Passes interval l [] l
  /-- One more tick before the others. -/
  | cons {l l' : Loopback} {rs : List TickReport} (hresult : l.tick.1.result = .ok none)
    (h : Passes interval (l.next interval) rs l') : Passes interval l (l.tick.1 :: rs) l'

namespace Passes

theorem of_tick (interval : Duration) {report : TickReport} (htick : l.tick = (report, l'))
    (hresult : report.result = .ok none) :
    Passes interval l [report] { l' with clock := l'.clock.advance interval } := by
  have h : Passes interval l [l.tick.1] (l.next interval) :=
    .cons (by rw [htick, hresult]) (.nil _)
  rwa [next, htick] at h

theorem append (h : Passes interval l rs l') (h' : Passes interval l' rs' l'') :
    Passes interval l (rs ++ rs') l'' := by
  induction h with
  | nil => exact h'
  | cons hresult _ ih => exact .cons hresult (ih h')

theorem results_eq (h : Passes interval l rs l') :
    rs.map (·.result) = List.replicate rs.length (.ok none) := by
  induction h with
  | nil => rfl
  | cons hresult _ ih => rw [List.map_cons, hresult, ih, List.length_cons, List.replicate_succ]

/-- A run goes through such ticks and on from where they lead. -/
theorem run_eq (h : Passes interval l rs l') (ticks : Nat) :
    l.run interval (rs.length + ticks) =
      (rs ++ (l'.run interval ticks).1, (l'.run interval ticks).2) := by
  induction h with
  | nil => rw [List.length_nil, Nat.zero_add, List.nil_append]
  | @cons l l' rs hresult _ ih =>
    rw [List.length_cons, Nat.add_right_comm, run]
    simp only [hresult]
    exact congrArg (fun run : List TickReport × Loopback => (l.tick.1 :: run.1, run.2)) ih

end Passes

/-- A run ends with the tick that gives a result. -/
theorem run_of_result {result : CommandResult} (h : l.tick.1.result = .ok (some result))
    (ticks : Nat) : l.run interval (ticks + 1) = ([l.tick.1], l.tick.2) := by
  simp only [run, h]

end Loopback

end Scheme

end SignedControl
