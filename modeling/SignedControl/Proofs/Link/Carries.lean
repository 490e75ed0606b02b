import SignedControl.Proofs.Link.Circuit

/-!
# What a circuit carries

A request that has been sent is in the queue, or on the stream or in the node's decoder, or has been
answered; a reply is on the stream or in the link's decoder, in the hand of the task, in the other
queue, or polled. Nothing is anywhere else, nothing is in two places, and nothing overtakes. `Carries`
says so in one equation: the replies that have come, those that are on their way and those that the
node will give to the other requests are together its answers to all that has been sent.

* `Carries.step`: what an event preserves, with one lemma for each kind of event.
* `Carries.run`: what a whole run preserves.
-/

namespace SignedControl.Circuit

variable [SignatureScheme]

/-- Where everything is that has been sent on a circuit, and that nothing else has happened:
`requests` are on the stream to the node or in its decoder, `replies` on the stream back or in the
link's decoder. `first` is the authority before the first request. -/
structure Carries (localNode nodeId : UInt32) (first : Authority) (sent : List Frame) (c : Circuit)
    (requests replies : List Frame) : Prop where
  /-- What is on its way to the node. -/
  toNode : Wire.Carried c.connection.decoder c.toNode requests
  /-- What is on its way back. -/
  toLink : Wire.Carried c.link.decoder c.toLink replies
  /-- What is in the queue can be written. -/
  outbound : ∀ f ∈ c.link.channel.outbound.items,
    (Wire.encodeFrame f).length ≤ Wire.maxFrameSize
  /-- What has not been answered has been sent. -/
  sent_of_mem : ∀ f ∈ requests ++ c.link.channel.outbound.items, f ∈ sent
  /-- All that has been sent comes from the client. -/
  source_eq : ∀ f ∈ sent, f.source = localNode
  /-- All that comes back is a reply of the node to the client. -/
  reply_eq : ∀ f ∈ replies, ∃ r, f = .ofResponse nodeId localNode r
  /-- The channel is open. -/
  isOpen : c.link.channel.IsOpen
  /-- It is the client's. -/
  localNode_eq : c.link.channel.localNode = localNode
  /-- The link's task goes on. -/
  activity_ne : c.link.activity ≠ .ended
  /-- It waits only if it has read no whole frame. -/
  next_of_waiting : c.link.activity = .waiting → c.link.decoder.next = (.ok none, c.link.decoder)
  /-- The connection goes on. -/
  status_eq : c.connection.status = .running
  /-- The node reads only if it has read no whole frame before. -/
  next_of_idle : c.isAnswering = false →
    c.connection.decoder.next = (.ok none, c.connection.decoder)
  /-- Once the node has answered the rest, it will have answered all that has been sent. -/
  outcome_eq : c.authority.outcome nodeId (c.arrived.map (.ofResponse nodeId localNode) ++ replies)
    (requests ++ c.link.channel.outbound.items) = first.answerFrames nodeId sent

theorem carries_new (localNode nodeId : UInt32) (first : Authority) :
    Carries localNode nodeId first [] (new localNode first) [] [] where
  toNode := .nil
  toLink := .nil
  outbound := List.forall_mem_nil _
  sent_of_mem := List.forall_mem_nil _
  source_eq := List.forall_mem_nil _
  reply_eq := List.forall_mem_nil _
  isOpen := ⟨rfl, ⟨rfl, rfl, rfl⟩, ⟨rfl, rfl, rfl⟩⟩
  localNode_eq := rfl
  activity_ne := by simp [new, Link.new]
  next_of_waiting _ := rfl
  status_eq := rfl
  next_of_idle _ := rfl
  outcome_eq := rfl

namespace Carries

variable {localNode nodeId : UInt32} {first : Authority} {sent requests replies : List Frame}
  {c : Circuit}

/-- A request joins the queue. -/
theorem send (h : Carries localNode nodeId first sent c requests replies)
    (hroom : c.link.channel.outbound.items.length < linkDepth) {r : SignedRequest}
    {target : UInt32} (hr : (Wire.encodeFrame (.ofRequest localNode target r.toRequest)).length ≤
      Wire.maxFrameSize) :
    Carries localNode nodeId first (sent ++ [.ofRequest localNode target r.toRequest])
      (c.step nodeId (.send r target)) requests replies := by
  obtain rfl := h.localNode_eq
  have hlater :=
    Authority.outcome_concat h.outcome_eq (.ofRequest c.link.channel.localNode target r.toRequest)
  rw [List.append_assoc] at hlater
  rw [step, h.isOpen.send_eq hroom]
  refine { h with
    outbound := List.forall_mem_append.mpr ⟨h.outbound, List.forall_mem_singleton.mpr hr⟩
    sent_of_mem := ?_
    source_eq := List.forall_mem_append.mpr ⟨h.source_eq, List.forall_mem_singleton.mpr rfl⟩
    isOpen := ⟨h.isOpen.isClosed_eq, { h.isOpen.outbound with }, h.isOpen.inbound⟩
    outcome_eq := hlater }
  rw [← List.append_assoc]
  exact List.forall_mem_append.mpr ⟨fun f hf => List.mem_append_left _ (h.sent_of_mem f hf),
    fun f hf => List.mem_append_right _ hf⟩

/-- The client takes the oldest reply out of the queue. -/
theorem poll (h : Carries localNode nodeId first sent c requests replies) :
    Carries localNode nodeId first sent (c.step nodeId .poll) requests replies := by
  cases hi : c.link.channel.inbound.items with
  | nil =>
    rw [step, h.isOpen.poll_of_nil hi]
    simp only [Option.toList_none, List.append_nil]
    exact h
  | cons r rest =>
    rw [step, Channel.poll_of_cons hi]
    have hgiven := h.outcome_eq
    rw [arrived, hi, List.cons_append, List.append_cons] at hgiven
    exact { h with
      isOpen := ⟨h.isOpen.isClosed_eq, h.isOpen.outbound, { h.isOpen.inbound with }⟩
      outcome_eq := hgiven }

/-- The oldest request goes from the queue to the stream. -/
theorem write (h : Carries localNode nodeId first sent c requests replies) :
    ∃ requests', Carries localNode nodeId first sent (c.step nodeId .write) requests' replies := by
  by_cases ha : c.link.activity = .waiting
  · cases hi : c.link.channel.outbound.items with
    | nil =>
      rw [step, Link.write?_of_nil h.isOpen hi]
      exact ⟨requests, h⟩
    | cons f rest =>
      have houtbound := h.outbound
      have hsent := h.sent_of_mem
      have hpending := h.outcome_eq
      rw [hi] at houtbound
      rw [hi, List.append_cons] at hsent hpending
      obtain ⟨hf, hrest⟩ := List.forall_mem_cons.mp houtbound
      have hbytes := Wire.encode_eq_ok_iff.mpr ⟨hf, rfl⟩
      rw [step, Link.write?_of_cons ha hi hbytes]
      exact ⟨requests ++ [f], { h with
        toNode := h.toNode.write hbytes
        outbound := hrest
        sent_of_mem := hsent
        isOpen := ⟨h.isOpen.isClosed_eq, { h.isOpen.outbound with }, h.isOpen.inbound⟩
        outcome_eq := hpending }⟩
  · rw [step, Link.write?_of_ne ha]
    exact ⟨requests, h⟩

/-- The link's task reads some bytes. -/
theorem read (h : Carries localNode nodeId first sent c requests replies) (count : Nat) :
    Carries localNode nodeId first sent (c.step nodeId (.read count)) requests replies := by
  simp only [step]
  split
  · exact h
  · next hsome =>
    cases ha : c.link.activity with
    | waiting =>
      simp only [Link.read?, ha, hsome]
      have hgiven := h.outcome_eq
      rw [arrived, ha] at hgiven
      exact { h with
        toLink := h.toLink.read _
        activity_ne := by simp
        next_of_waiting := by simp
        outcome_eq := hgiven }
    | decoding => simpa only [Link.read?, ha] using h
    | delivering r => simpa only [Link.read?, ha] using h
    | ended => exact absurd ha h.activity_ne

/-- The link's task looks for a frame in what it has read, or hands over a reply. -/
theorem work (h : Carries localNode nodeId first sent c requests replies) :
    ∃ replies', Carries localNode nodeId first sent (c.step nodeId .work) requests replies' := by
  simp only [step]
  cases ha : c.link.activity with
  | waiting => exact ⟨replies, by simpa only [Link.work?, ha] using h⟩
  | ended => exact absurd ha h.activity_ne
  | decoding =>
    simp only [Link.work?, ha]
    -- What the decoder gives can only be the next reply, so neither a fault nor a frame for
    -- another node has to be looked at.
    obtain hnext | ⟨f, replies', d, rfl, hnext, hrest⟩ := h.toLink.next_cases
    · rw [hnext]
      simp only
      refine ⟨replies, { h with
        activity_ne := by simp
        next_of_waiting := fun _ => hnext
        outcome_eq := ?_ }⟩
      have hgiven := h.outcome_eq
      rw [arrived, ha] at hgiven
      exact hgiven
    · obtain ⟨⟨r, rfl⟩, hreplies⟩ := List.forall_mem_cons.mp h.reply_eq
      rw [hnext]
      simp only [Link.accept, Frame.ofResponse, h.localNode_eq, if_true]
      have hgiven : (c.polled ++ (c.link.channel.inbound.items ++ [r])).map
          (.ofResponse nodeId localNode) ++ replies' =
            c.arrived.map (.ofResponse nodeId localNode) ++
              .ofResponse nodeId localNode r :: replies' := by
        simp [arrived, ha, Activity.inHand]
      exact ⟨replies', { h with
        toLink := hrest
        reply_eq := hreplies
        activity_ne := by simp
        next_of_waiting := by simp
        outcome_eq := (congrArg (c.authority.outcome nodeId · _) hgiven).trans h.outcome_eq }⟩
  | delivering r =>
    by_cases hroom : c.link.channel.inbound.items.length < linkDepth
    · simp only [Link.work?, ha, Channel.putReply, h.isOpen.inbound.put_eq hroom, Except.map]
      have harrived : c.polled ++ (c.link.channel.inbound.items ++ [r] ++ []) = c.arrived := by
        simp [arrived, ha, Activity.inHand]
      have hgiven := h.outcome_eq
      rw [← harrived] at hgiven
      exact ⟨replies, { h with
        isOpen := ⟨h.isOpen.isClosed_eq, h.isOpen.outbound, { h.isOpen.inbound with }⟩
        activity_ne := by simp
        next_of_waiting := by simp
        outcome_eq := hgiven }⟩
    · -- The task waits with the reply in hand until the client has polled.
      have hfull := h.isOpen.inbound.put_of_full (Nat.not_lt.mp hroom) r
      simp only [Link.work?, ha, Channel.putReply, hfull, Except.map]
      exact ⟨replies, h⟩

/-- The node reads some bytes. -/
theorem receive (h : Carries localNode nodeId first sent c requests replies) (count : Nat) :
    Carries localNode nodeId first sent (c.step nodeId (.receive count)) requests replies := by
  simp only [step]
  split
  · exact h
  · exact { h with
      toNode := h.toNode.read _
      next_of_idle := by simp }

/-- The node answers a frame. -/
theorem answer (h : Carries localNode nodeId first sent c requests replies) :
    ∃ requests' replies',
      Carries localNode nodeId first sent (c.step nodeId .answer) requests' replies' := by
  cases hb : c.isAnswering with
  | false =>
    simp only [step, hb]
    exact ⟨requests, replies, h⟩
  | true =>
    simp only [step, answered, hb]
    obtain hnext | ⟨f, requests', d, rfl, hnext, hrest⟩ := h.toNode.next_cases
    · rw [Node.serveNext_of_none hnext]
      simp only [List.append_nil]
      exact ⟨requests, replies, { h with
        status_eq := rfl
        next_of_idle := fun _ => hnext }⟩
    · rw [Node.serveNext_of_some hnext]
      obtain ⟨hf, hothers⟩ := List.forall_mem_cons.mp h.sent_of_mem
      have hgiven := h.outcome_eq
      rw [List.cons_append, Authority.outcome_cons, List.append_assoc] at hgiven
      obtain ⟨htoLink, hreply⟩ := c.authority.carried_handleFrame nodeId f h.toLink
      rw [h.source_eq f hf] at hreply
      exact ⟨requests', replies ++ (c.authority.handleFrame nodeId f).1.toList, { h with
        toNode := hrest
        toLink := htoLink
        sent_of_mem := hothers
        reply_eq := List.forall_mem_append.mpr ⟨h.reply_eq, hreply⟩
        status_eq := rfl
        next_of_idle := by simp
        outcome_eq := hgiven }⟩

/-- What an event preserves. -/
theorem step (h : Carries localNode nodeId first sent c requests replies) (e : CircuitEvent)
    (hroom : ∀ r target, e = .send r target → c.link.channel.outbound.items.length < linkDepth)
    (hframe : ∀ f ∈ e.frame? localNode, (Wire.encodeFrame f).length ≤ Wire.maxFrameSize) :
    ∃ requests' replies', Carries localNode nodeId first (sent ++ (e.frame? localNode).toList)
      (c.step nodeId e) requests' replies' := by
  cases e with
  | send r target => exact ⟨requests, replies, h.send (hroom r target rfl) (hframe _ rfl)⟩
  | poll => exact ⟨requests, replies, (List.append_nil sent).symm ▸ h.poll⟩
  | write =>
    obtain ⟨requests', h⟩ := h.write
    exact ⟨requests', replies, (List.append_nil sent).symm ▸ h⟩
  | read count => exact ⟨requests, replies, (List.append_nil sent).symm ▸ h.read count⟩
  | work =>
    obtain ⟨replies', h⟩ := h.work
    exact ⟨requests, replies', (List.append_nil sent).symm ▸ h⟩
  | receive count => exact ⟨requests, replies, (List.append_nil sent).symm ▸ h.receive count⟩
  | answer =>
    obtain ⟨requests', replies', h⟩ := h.answer
    exact ⟨requests', replies', (List.append_nil sent).symm ▸ h⟩

/-- What a run preserves. -/
theorem run (h : Carries localNode nodeId first sent c requests replies)
    {events : List CircuitEvent} (hroom : c.HasRoom nodeId events)
    (hframes : ∀ f ∈ events.filterMap (CircuitEvent.frame? localNode),
      (Wire.encodeFrame f).length ≤ Wire.maxFrameSize) :
    ∃ requests' replies', Carries localNode nodeId first
      (sent ++ events.filterMap (CircuitEvent.frame? localNode)) (c.run nodeId events)
      requests' replies' := by
  induction events generalizing c sent requests replies with
  | nil => exact ⟨requests, replies, (List.append_nil sent).symm ▸ h⟩
  | cons e events ih =>
    rw [filterMap_cons_eq_append] at hframes ⊢
    obtain ⟨he, hrest⟩ := List.forall_mem_append.mp hframes
    obtain ⟨requests', replies', h'⟩ := h.step e
      (fun r target he => hroom [] r target events (by rw [he]; rfl))
      (fun f hf => he f (Option.mem_toList.mpr hf))
    rw [← List.append_assoc]
    exact ih h' hroom.tail hrest

end Carries

end SignedControl.Circuit
