import SignedControl.Proofs.Link.Carries
import SignedControl.Proofs.Node.Exchange

/-!
# The link is transparent

A client on a link need not know that there is one. Whatever the schedule and wherever the reads cut
the streams, the replies that it polls are those that the node's authority gives to its requests one
after another, in the order in which they were sent; and if the requests are for another node than the
one at the end of the stream, there are none.

That nothing is lost is one half of this, and that nothing gets stuck is the other. Until everything
has been delivered there is always somebody who can take a step without a new request, and such a step
brings the end nearer: `toDo` says how near, lexicographically, because one request may cause any
number of bytes, and these any number of steps.

* `Carries.polled_eq`: what has been polled when everything has been delivered.
* `Carries.exists_delivered`: everything can be delivered.
* `transparent`: the link as the client sees it.
-/

namespace SignedControl

namespace Authority

variable [SignatureScheme]

/-- A node answers the requests that are for it. -/
theorem answerFrames_ofRequest (a : Authority) (localNode nodeId : UInt32) (rs : List Request) :
    a.answerFrames nodeId (rs.map (.ofRequest localNode nodeId)) =
      ((a.handleAll rs).1.map (.ofResponse nodeId localNode), (a.handleAll rs).2) := by
  induction rs generalizing a with
  | nil => rfl
  | cons r rs ih =>
    simp only [List.map_cons, answerFrames, handleFrame_ofRequest, ih, handleAll_cons]
    rfl

/-- It passes over what is for another. -/
theorem answerFrames_of_ne {nodeId : UInt32} {fs : List Frame} (h : ∀ f ∈ fs, f.target ≠ nodeId)
    (a : Authority) : a.answerFrames nodeId fs = ([], a) := by
  induction fs with
  | nil => rfl
  | cons f fs ih =>
    obtain ⟨hf, hfs⟩ := List.forall_mem_cons.mp h
    have hnone : a.handleFrame nodeId f = (none, a) := if_pos hf
    simp only [answerFrames, hnone, ih hfs]
    rfl

end Authority

/-- A task that does not wait has something to do, if there is room for a reply. -/
theorem Link.exists_work? {l : Link} (h : l.channel.IsOpen)
    (hroom : l.channel.inbound.items.length < linkDepth) (hw : l.activity ≠ .waiting)
    (he : l.activity ≠ .ended) : ∃ l', l.work? = some l' := by
  cases ha : l.activity with
  | waiting => contradiction
  | ended => contradiction
  | decoding =>
    simp only [work?, ha]
    split <;> exact ⟨_, rfl⟩
  | delivering r =>
    simp only [work?, ha, Channel.putReply, h.inbound.put_eq hroom, Except.map]
    exact ⟨_, rfl⟩

namespace Circuit

/-- Nothing is on its way, and nobody has anything to do. -/
structure Delivered (c : Circuit) : Prop where
  /-- All requests have been written. -/
  outbound_eq : c.link.channel.outbound.items = []
  /-- The node has read all of them. -/
  toNode_eq : c.toNode = []
  /-- It has answered what it has read. -/
  isAnswering_eq : c.isAnswering = false
  /-- The link has read all replies. -/
  toLink_eq : c.toLink = []
  /-- It has handed them over. -/
  activity_eq : c.link.activity = .waiting
  /-- The client has polled all of them. -/
  inbound_eq : c.link.channel.inbound.items = []

theorem delivered_iff {c : Circuit} : c.Delivered ↔
    c.link.channel.outbound.items = [] ∧ c.toNode = [] ∧ c.isAnswering = false ∧ c.toLink = [] ∧
      c.link.activity = .waiting ∧ c.link.channel.inbound.items = [] :=
  ⟨fun h => ⟨h.outbound_eq, h.toNode_eq, h.isAnswering_eq, h.toLink_eq, h.activity_eq,
    h.inbound_eq⟩, fun h => ⟨h.1, h.2.1, h.2.2.1, h.2.2.2.1, h.2.2.2.2.1, h.2.2.2.2.2⟩⟩

instance {c : Circuit} : Decidable c.Delivered := decidable_of_iff' _ delivered_iff

/-- How much is to be done, the first part first: requests to be written, bytes to be read by the
node, the frames among them, bytes to be read by the link, the frames among these, and replies to be
polled. Whatever is done for one part only makes more to do for the later ones. -/
def toDo (c : Circuit) : Nat × Nat × Nat × Nat × Nat × Nat :=
  (c.link.channel.outbound.items.length, c.toNode.length,
    2 * c.connection.decoder.buffer.length + c.isAnswering.toNat, c.toLink.length, c.link.effort,
    c.link.channel.inbound.items.length)

/-- There is less to do on one circuit than on another. -/
def Nearer (c' c : Circuit) : Prop := WellFoundedRelation.rel c'.toDo c.toDo

theorem nearer_wellFounded : WellFounded Nearer := InvImage.wf toDo WellFoundedRelation.wf

theorem nearer_iff {c' c : Circuit} : c'.Nearer c ↔
    c'.link.channel.outbound.items.length < c.link.channel.outbound.items.length ∨
    c'.link.channel.outbound.items.length = c.link.channel.outbound.items.length ∧
      (c'.toNode.length < c.toNode.length ∨ c'.toNode.length = c.toNode.length ∧
      (2 * c'.connection.decoder.buffer.length + c'.isAnswering.toNat <
          2 * c.connection.decoder.buffer.length + c.isAnswering.toNat ∨
        2 * c'.connection.decoder.buffer.length + c'.isAnswering.toNat =
          2 * c.connection.decoder.buffer.length + c.isAnswering.toNat ∧
      (c'.toLink.length < c.toLink.length ∨ c'.toLink.length = c.toLink.length ∧
      (c'.link.effort < c.link.effort ∨ c'.link.effort = c.link.effort ∧
        c'.link.channel.inbound.items.length < c.link.channel.inbound.items.length)))) := by
  simp only [Nearer, toDo, WellFoundedRelation.rel, Prod.lex_def, sizeOf_nat, InvImage]

variable [SignatureScheme]

theorem poll_nearer (nodeId : UInt32) {c : Circuit} {r : Response} {rest : List Response}
    (hi : c.link.channel.inbound.items = r :: rest) : (c.step nodeId .poll).Nearer c := by
  rw [step, Channel.poll_of_cons hi, nearer_iff, hi]
  exact .inr ⟨rfl, .inr ⟨rfl, .inr ⟨rfl, .inr ⟨rfl, .inr ⟨rfl, Nat.lt_succ_self _⟩⟩⟩⟩⟩

theorem work_nearer (nodeId : UInt32) {c : Circuit} {l : Link} (hw : c.link.work? = some l) :
    (c.step nodeId .work).Nearer c := by
  rw [step, hw, nearer_iff]
  exact (Nat.lt_or_eq_of_le (Link.pending_le_of_work? hw)).imp_right fun hpending =>
    ⟨hpending, .inr ⟨rfl, .inr ⟨rfl, .inr ⟨rfl, .inl (Link.effort_lt_of_work? hw)⟩⟩⟩⟩

theorem write_nearer (nodeId : UInt32) {c : Circuit} {f : Frame} {rest : List Frame}
    (ha : c.link.activity = .waiting) (ho : c.link.channel.outbound.items = f :: rest)
    {bytes : Bytes} (hf : Wire.encode f = .ok bytes) : (c.step nodeId .write).Nearer c := by
  rw [step, Link.write?_of_cons ha ho hf, nearer_iff, ho]
  exact .inl (Nat.lt_succ_self _)

theorem read_nearer (nodeId : UInt32) {c : Circuit} (ha : c.link.activity = .waiting)
    (hb : c.toLink ≠ []) : (c.step nodeId (.read 1)).Nearer c := by
  cases htoLink : c.toLink with
  | nil => contradiction
  | cons x rest =>
    have hstep : c.step nodeId (.read 1) = { c with
        link := { c.link with decoder := c.link.decoder.extend [x], activity := .decoding }
        toLink := rest } := by
      simp only [step, htoLink, Link.read?, ha]
      rfl
    rw [hstep, nearer_iff, htoLink]
    exact .inr ⟨rfl, .inr ⟨rfl, .inr ⟨rfl, .inl (Nat.lt_succ_self _)⟩⟩⟩

theorem receive_nearer (nodeId : UInt32) {c : Circuit} (ha : c.isAnswering = false)
    (hs : c.connection.status = .running) (hb : c.toNode ≠ []) :
    (c.step nodeId (.receive 1)).Nearer c := by
  cases htoNode : c.toNode with
  | nil => contradiction
  | cons x rest =>
    have hstep : c.step nodeId (.receive 1) = { c with
        connection := { c.connection with decoder := c.connection.decoder.extend [x] }
        isAnswering := true
        toNode := rest } := by
      simp only [step, htoNode, ha, hs]
      rfl
    rw [hstep, nearer_iff, htoNode]
    exact .inr ⟨rfl, .inl (Nat.lt_succ_self _)⟩

theorem answer_nearer (nodeId : UInt32) {c : Circuit} (ha : c.isAnswering = true) :
    (c.step nodeId .answer).Nearer c := by
  have hle := Node.serveNext_le nodeId c.authority c.connection.decoder
  simp only [step, answered, ha, nearer_iff]
  exact .inr ⟨rfl, .inr ⟨rfl, .inl (Nat.lt_succ_of_le hle)⟩⟩

namespace Carries

variable {localNode nodeId : UInt32} {first : Authority} {sent requests replies : List Frame}
  {c : Circuit}

/-- Until all has been delivered, there is something to do. -/
theorem exists_nearer (h : Carries localNode nodeId first sent c requests replies)
    (hd : ¬ c.Delivered) : ∃ e : CircuitEvent, e.request? = none ∧ (c.step nodeId e).Nearer c := by
  cases hi : c.link.channel.inbound.items with
  | cons r rest => exact ⟨.poll, rfl, poll_nearer nodeId hi⟩
  | nil =>
    by_cases ha : c.link.activity = .waiting
    · cases ho : c.link.channel.outbound.items with
      | cons f rest =>
        have hf := h.outbound f (ho ▸ List.mem_cons_self)
        exact ⟨.write, rfl, write_nearer nodeId ha ho (Wire.encode_eq_ok_iff.mpr ⟨hf, rfl⟩)⟩
      | nil =>
        by_cases hl : c.toLink = []
        · cases hb : c.isAnswering with
          | true => exact ⟨.answer, rfl, answer_nearer nodeId hb⟩
          | false =>
            by_cases hn : c.toNode = []
            · exact absurd ⟨ho, hn, hb, hl, ha, hi⟩ hd
            · exact ⟨.receive 1, rfl, receive_nearer nodeId hb h.status_eq hn⟩
        · exact ⟨.read 1, rfl, read_nearer nodeId ha hl⟩
    · have hroom : c.link.channel.inbound.items.length < linkDepth := by
        rw [hi]
        decide
      obtain ⟨l, hl⟩ := Link.exists_work? h.isOpen hroom ha h.activity_ne
      exact ⟨.work, rfl, work_nearer nodeId hl⟩

/-- Whatever has been sent can be delivered. -/
theorem exists_delivered (h : Carries localNode nodeId first sent c requests replies) :
    ∃ more : List CircuitEvent, more.filterMap CircuitEvent.request? = [] ∧
      (c.run nodeId more).Delivered := by
  -- The invariant goes along, because it is what finds the next step.
  induction c using nearer_wellFounded.induction generalizing requests replies with
  | _ c ih =>
    by_cases hd : c.Delivered
    · exact ⟨[], rfl, hd⟩
    · obtain ⟨e, he, hnearer⟩ := h.exists_nearer hd
      have hframe : e.frame? localNode = none := by rw [CircuitEvent.frame?, he]; rfl
      obtain ⟨requests', replies', h'⟩ := h.step e (by rintro r target rfl; cases he)
        (by simp [hframe])
      rw [hframe, Option.toList_none, List.append_nil] at h'
      obtain ⟨more, hmore, hd'⟩ := ih _ hnearer h'
      exact ⟨e :: more, by rw [List.filterMap_cons, he]; exact hmore, hd'⟩

/-- The client has polled some of the first replies. -/
theorem polled_prefix (h : Carries localNode nodeId first sent c requests replies) :
    c.polled.map (.ofResponse nodeId localNode) <+: (first.answerFrames nodeId sent).1 := by
  rw [← h.outcome_eq]
  simp only [Authority.outcome, arrived, List.map_append, List.append_assoc]
  exact List.prefix_append _ _

/-- Once all has been delivered, it has polled all of them. -/
theorem polled_eq (h : Carries localNode nodeId first sent c requests replies)
    (hd : c.Delivered) :
    (c.polled.map (.ofResponse nodeId localNode), c.authority) = first.answerFrames nodeId sent := by
  have htoNode := h.toNode
  have htoLink := h.toLink
  rw [hd.toNode_eq] at htoNode
  rw [hd.toLink_eq] at htoLink
  obtain rfl := htoNode.eq_nil (h.next_of_idle hd.isAnswering_eq)
  obtain rfl := htoLink.eq_nil (h.next_of_waiting hd.activity_eq)
  rw [← h.outcome_eq]
  simp [Authority.outcome, Authority.answerFrames, arrived, Activity.inHand, hd.inbound_eq,
    hd.activity_eq, hd.outbound_eq]

/-- A node that nothing has been sent to is as it was. -/
theorem authority_eq (h : Carries localNode nodeId first sent c requests replies)
    (hsent : ∀ f ∈ sent, f.target ≠ nodeId) : c.authority = first := by
  have houtcome := h.outcome_eq
  rw [Authority.outcome, Authority.answerFrames_of_ne hsent,
    Authority.answerFrames_of_ne fun f hf => hsent f (h.sent_of_mem f hf)] at houtcome
  exact congrArg Prod.snd houtcome

end Carries

/-- A client sends requests to one node, and none of them finds the queue full. If this is the node at
the other end of the stream, then what the client has polled is at all times the beginning of the
replies that the node would give to the same requests one after another; and when everything has been
delivered, the client has polled these replies, each of them once and in order, and the node's
authority is the one after the requests. If it is another node, the client polls nothing, and the
authority stays as it was. All this does not depend on the schedule, nor on how the reads cut the
streams; and from wherever a run has come to, everything can be delivered. -/
theorem transparent {localNode nodeId target : UInt32} {first : Authority}
    {requests : List SignedRequest} {events : List CircuitEvent} {c : Circuit}
    (hsent : events.filterMap CircuitEvent.request? = requests.map fun r => (r, target))
    (hframes : ∀ r ∈ requests,
      (Wire.encodeFrame (.ofRequest localNode target r.toRequest)).length ≤ Wire.maxFrameSize)
    (hroom : (new localNode first).HasRoom nodeId events)
    (hc : c = (new localNode first).run nodeId events) :
    (target = nodeId →
      c.polled <+: (first.handleAll (requests.map SignedRequest.toRequest)).1 ∧
      (c.Delivered →
        (c.polled, c.authority) = first.handleAll (requests.map SignedRequest.toRequest))) ∧
    (target ≠ nodeId → c.polled = [] ∧ c.authority = first) ∧
    ∃ more : List CircuitEvent, more.filterMap CircuitEvent.request? = [] ∧
      (c.run nodeId more).Delivered := by
  have hfilter : events.filterMap (CircuitEvent.frame? localNode) =
      (requests.map SignedRequest.toRequest).map (.ofRequest localNode target) := by
    have hframe : CircuitEvent.frame? localNode = fun e =>
        e.request?.map fun sending => .ofRequest localNode sending.2 sending.1.toRequest := rfl
    rw [hframe, ← List.map_filterMap, hsent, List.map_map, List.map_map]
    rfl
  obtain ⟨pending, replies, h⟩ := (carries_new localNode nodeId first).run hroom (by
    rw [hfilter]
    simpa using hframes)
  rw [hfilter, List.nil_append, ← hc] at h
  -- The invariant speaks of frames; the client sees what they carry.
  have hinj : ∀ r r', Frame.ofResponse nodeId localNode r = .ofResponse nodeId localNode r' →
      r = r' := by
    rintro r r' ⟨⟩
    rfl
  have hprefix := h.polled_prefix
  refine ⟨?_, fun hne => ?_, h.exists_delivered⟩
  · rintro rfl
    rw [Authority.answerFrames_ofRequest] at hprefix
    refine ⟨?_, fun hd => ?_⟩
    · obtain ⟨rest, hrest⟩ := hprefix
      obtain ⟨polled, later, hreplies, hpolled, -⟩ := List.map_eq_append_iff.mp hrest.symm
      rw [hreplies, (List.map_inj_right hinj).mp hpolled]
      exact List.prefix_append _ _
    · have hall := h.polled_eq hd
      rw [Authority.answerFrames_ofRequest, Prod.mk.injEq, List.map_inj_right hinj] at hall
      exact Prod.ext hall.1 hall.2
  · have hothers : ∀ f ∈ (requests.map SignedRequest.toRequest).map
        (Frame.ofRequest localNode target), f.target ≠ nodeId := by
      rintro f hf
      obtain ⟨r, -, rfl⟩ := List.mem_map.mp hf
      exact hne
    rw [Authority.answerFrames_of_ne hothers] at hprefix
    exact ⟨List.map_eq_nil_iff.mp (List.prefix_nil.mp hprefix), h.authority_eq hothers⟩

end Circuit

/-! ## A key and a change -/

namespace Circuit

section KeyedHash

attribute [local instance] Line.keyedHash

open Authority (numberedKey lockPayload)

/-- A node that trusts the operator. -/
def operatedNode : Authority := .new [Dialogue.operator.publicKey] .initial numberedKey

/-- The operator asks for a session key and signs a change over it. -/
def operatorRequests : List SignedRequest :=
  [Dialogue.operator.keyRequest 3,
    Dialogue.operator.changeRequest 4 lockPayload (numberedKey 0).bytes]

/-- The node reads the requests in pieces, and the link the replies. -/
def operatorEvents : List CircuitEvent :=
  operatorRequests.map (.send · 10) ++
    [.write, .receive 60, .write, .answer, .receive 4096, .answer, .read 10, .work, .answer,
      .read 1024, .work, .answer, .work, .work, .poll, .work, .work, .poll]

theorem hasRoom_operatorEvents : (new 100 operatedNode).HasRoom 10 operatorEvents := by
  rintro (_ | ⟨e, _ | ⟨e', before⟩⟩) r target after h
  · decide
  · cases h
    decide
  · have hmem : CircuitEvent.send r target ∈ operatorEvents.drop 2 := by
      rw [h]
      exact List.mem_append_right before List.mem_cons_self
    simp [operatorEvents, operatorRequests] at hmem

theorem delivered_operatorEvents : ((new 100 operatedNode).run 10 operatorEvents).Delivered := by
  decide +kernel

theorem transparent_operatorEvents :
    ((new 100 operatedNode).run 10 operatorEvents).Delivered ∧
      ((new 100 operatedNode).run 10 operatorEvents).polled =
        [⟨3, 1, 0, (numberedKey 0).bytes⟩, ⟨4, 5, 0, []⟩] ∧
      ((new 100 operatedNode).run 10 operatorEvents).authority.sessionKey =
        some (numberedKey 0) := by
  have hsent : operatorEvents.filterMap CircuitEvent.request? =
      operatorRequests.map fun r => (r, 10) := rfl
  have hframes : ∀ r ∈ operatorRequests,
      (Wire.encodeFrame (.ofRequest 100 10 r.toRequest)).length ≤ Wire.maxFrameSize := by
    decide +kernel
  obtain ⟨hown, -⟩ := transparent hsent hframes hasRoom_operatorEvents rfl
  have hall := (hown rfl).2 delivered_operatorEvents
  have hreplies : (operatedNode.handleAll (operatorRequests.map SignedRequest.toRequest)).1 =
      [⟨3, 1, 0, (numberedKey 0).bytes⟩, ⟨4, 5, 0, []⟩] := by
    decide +kernel
  have hsession : (operatedNode.handleAll
      (operatorRequests.map SignedRequest.toRequest)).2.sessionKey = some (numberedKey 0) := by
    decide +kernel
  rw [← hall] at hreplies hsession
  exact ⟨delivered_operatorEvents, hreplies, hsession⟩

end KeyedHash

end Circuit

end SignedControl
